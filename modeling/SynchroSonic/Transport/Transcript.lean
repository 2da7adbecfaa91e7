import SynchroSonic.Transport.FrameStream
import SynchroSonic.Transport.Messages

/-!
# What a socket has been told

`Wrote before after bodies whole` says how a socket went from `before` to `after` by messages whose
frames are `bodies`: what it has accepted in between is a part from the front of their encodings, and all
of it where `whole` holds or the socket does not fail. Writers are followed message by message:
`wrote_writeMessage` is one message and `Wrote.trans` puts two stretches together.
-/

namespace SynchroSonic

/-- The frame a message is written as. There is none if the message does not encode or is too long; then
nothing is written. -/
def SerdeJson.frame? {T : Type} (json : SerdeJson T) (kind : FrameKind) (message : T)
    (payload : List UInt8) : Option FrameBody :=
  match json.toVec message with
  | .error _ => none
  | .ok metadata =>
    if FrameBody.WithinLimits ⟨kind, metadata, payload⟩ then some ⟨kind, metadata, payload⟩ else none

theorem SerdeJson.frame?_eq_some {T : Type} {json : SerdeJson T} {kind : FrameKind} {message : T}
    {payload : List UInt8} {body : FrameBody} (h : json.frame? kind message payload = some body) :
    body.kind = kind ∧ json.toVec message = .ok body.metadata ∧ body.payload = payload ∧
      body.WithinLimits := by
  unfold SerdeJson.frame? at h
  split at h
  · cases h
  next metadata htoVec =>
  split at h
  next hlim =>
    obtain rfl := Option.some.inj h
    exact ⟨rfl, htoVec, rfl, hlim⟩
  · cases h

theorem encodeFrames_append (bodies more : List FrameBody) :
    encodeFrames (bodies ++ more) = encodeFrames bodies ++ encodeFrames more :=
  List.flatMap_append

/-- What a socket has accepted on the way from `before` to `after`. -/
structure Wrote (before after : Writer) (bodies : List FrameBody) (whole : Prop) : Prop where
  /-- Nothing but these frames, from the front. -/
  cut : after.written <+: before.written ++ encodeFrames bodies
  /-- All of them. -/
  all : whole ∨ before.Reliable → after.written = before.written ++ encodeFrames bodies
  reliable : before.Reliable → after.Reliable

namespace Wrote

variable {before mid after : Writer} {bodies more : List FrameBody} {whole : Prop}

theorem nothing (writer : Writer) : Wrote writer writer [] whole :=
  ⟨by simp, fun _ ↦ by simp, id⟩

/-- Two stretches, the first of which is complete. -/
theorem trans (h : Wrote before mid bodies True) (h' : Wrote mid after more whole) :
    Wrote before after (bodies ++ more) whole := by
  have hmid := h.all (Or.inl trivial)
  refine ⟨?_, fun hwhole ↦ ?_, fun hrel ↦ h'.reliable (h.reliable hrel)⟩
  · rw [encodeFrames_append, ← List.append_assoc, ← hmid]
    exact h'.cut
  · rw [encodeFrames_append, ← List.append_assoc, ← hmid]
    exact h'.all (hwhole.imp_right h.reliable)

theorem imp {whole' : Prop} (h : Wrote before after bodies whole) (himp : whole' → whole) :
    Wrote before after bodies whole' :=
  ⟨h.cut, fun hwhole ↦ h.all (hwhole.imp_left himp), h.reliable⟩

end Wrote

/-- **One message.** -/
theorem wrote_writeMessage {T : Type} (json : SerdeJson T) (kind : FrameKind) (message : T)
    (payload : List UInt8) (writer : Writer) :
    Wrote writer (writeMessage json kind message payload writer).2
        (json.frame? kind message payload).toList
        ((writeMessage json kind message payload writer).1.isOk = true) ∧
      ((writeMessage json kind message payload writer).1.isOk = true →
        (json.frame? kind message payload).isSome = true) := by
  unfold writeMessage SerdeJson.frame?
  rcases json.toVec message with text | metadata
  · exact ⟨.nothing writer, fun hok ↦ absurd hok Bool.false_ne_true⟩
  dsimp only
  split
  next hlim =>
    refine ⟨?_, fun _ ↦ rfl⟩
    have hbytes : encodeFrames (some (⟨kind, metadata, payload⟩ : FrameBody)).toList =
        encodeFrame ⟨kind, metadata, payload⟩ := List.append_nil _
    rcases hwrite : writeFrame kind metadata payload writer with ⟨result, writer'⟩
    obtain ⟨sent, hwritten, hsent, hall⟩ :=
      @writeFrame_written ⟨kind, metadata, payload⟩ _ _ _ hwrite
    have hreliable (hrel : writer.Reliable) :
        writer'.written = writer.written ++ encodeFrame ⟨kind, metadata, payload⟩ ∧
          writer'.Reliable := by
      obtain ⟨reached, hreached, hgood⟩ :=
        @writeFrame_of_withinLimits ⟨kind, metadata, payload⟩ writer hlim hrel
      obtain ⟨-, rfl⟩ := Prod.mk.inj (hwrite.symm.trans hreached)
      exact hgood
    refine ⟨?_, fun hwhole ↦ ?_, fun hrel ↦ (hreliable hrel).2⟩
    · rw [hwritten, hbytes]
      exact (List.prefix_append_right_inj _).2 hsent
    · rw [hbytes]
      rcases hwhole with hok | hrel
      · rw [hwritten, (hall hok).1]
      · exact (hreliable hrel).1
  next hlim =>
    obtain ⟨text, hwrite⟩ := @writeFrame_of_not_withinLimits ⟨kind, metadata, payload⟩ writer hlim
    rw [hwrite]
    exact ⟨.nothing writer, fun hok ↦ absurd hok Bool.false_ne_true⟩

end SynchroSonic
