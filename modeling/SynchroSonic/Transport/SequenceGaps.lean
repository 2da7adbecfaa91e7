import SynchroSonic.Transport.SessionRounds

/-!
# Sequence gaps

`handle_receiver_session` compares the number of every audio packet with the one in front of it. The
numbers are the peer's, and the comparison adds one to a number that may be the largest there is.

`checkedGaps` is what it does where an overflow is caught. The warnings are those that the numbers call for,
and come about without an overflow, exactly if no packet but the last has the largest number
(`session_gaps_exact_iff`).
-/

namespace SynchroSonic

/-! ### Arithmetic that is checked -/

section Checked

/-- `+`, where an overflow is caught. -/
def checkedAdd (a b : UInt64) : Option UInt64 :=
  if a.toNat + b.toNat < UInt64.size then some (a + b) else none

/-- `-`, where an overflow is caught. -/
def checkedSub (a b : UInt64) : Option UInt64 := if b ≤ a then some (a - b) else none

variable {a b c : UInt64}

/-- A sum is there exactly if it fits. -/
theorem checkedAdd_eq_some : checkedAdd a b = some c ↔ c.toNat = a.toNat + b.toNat := by
  rw [checkedAdd, Option.ite_none_right_eq_some, Option.some.injEq, ← UInt64.toNat_inj,
    UInt64.toNat_add]
  have hc := c.toNat_lt
  constructor
  · rintro ⟨hfits, hsum⟩
    rw [← hsum, Nat.mod_eq_of_lt hfits]
  · intro hsum
    have hfits : a.toNat + b.toNat < UInt64.size := hsum ▸ hc
    exact ⟨hfits, (Nat.mod_eq_of_lt hfits).trans hsum.symm⟩

end Checked

/-- `sequenceGap`, where an overflow is caught. -/
def checkedSequenceGap (previous : Option UInt64) (current : UInt64) : Option (List SequenceGap) :=
  match previous with
  | none => some []
  | some previous =>
    (checkedAdd previous 1).bind fun next ↦
      if current > next then
        (checkedSub current previous).bind fun distance ↦
          (checkedSub distance 1).map fun missing ↦ [⟨previous, current, missing⟩]
      else some []

/-- What the loop finds in these packets, behind the one it remembers. -/
def checkedGaps : Option UInt64 → List UInt64 → Option (List SequenceGap)
  | _, [] => some []
  | previous, current :: sequences =>
    (checkedSequenceGap previous current).bind fun gaps ↦
      (checkedGaps (some current) sequences).map fun more ↦ gaps ++ more

/-- The same in arithmetic that wraps. -/
def gapsFrom : Option UInt64 → List UInt64 → List SequenceGap
  | _, [] => []
  | previous, current :: sequences =>
    sequenceGap previous current ++ gapsFrom (some current) sequences

/-! ### What the numbers call for -/

/-- A number that is larger by more than one: both, and how many are missing in between. -/
def missingBetween (previous : Option ℕ) (current : ℕ) : List (ℕ × ℕ × ℕ) :=
  match previous with
  | none => []
  | some previous =>
    if previous + 1 < current then [(previous, current, current - previous - 1)] else []

def missingFrom : Option ℕ → List ℕ → List (ℕ × ℕ × ℕ)
  | _, [] => []
  | previous, current :: sequences =>
    missingBetween previous current ++ missingFrom (some current) sequences

def SequenceGap.toNats (gap : SequenceGap) : ℕ × ℕ × ℕ :=
  (gap.previousSequence.toNat, gap.currentSequence.toNat, gap.missingPackets.toNat)

/-- No operation overflows on the way to these warnings, and they are what the numbers call for. -/
structure GapsExact (sequences : List UInt64) (gaps : List SequenceGap) : Prop where
  checked : checkedGaps none sequences = some gaps
  exact : gaps.map SequenceGap.toNats = missingFrom none (sequences.map UInt64.toNat)

/-- `u64::MAX`. -/
def U64_MAX : UInt64 := 0xffffffffffffffff

section Exact

variable {previous current : UInt64}

/-- Below the largest number, the next one is the next one. -/
theorem toNat_add_one (h : previous ≠ U64_MAX) : (previous + 1).toNat = previous.toNat + 1 := by
  have hlt := previous.toNat_lt
  have hne : previous.toNat ≠ 2 ^ 64 - 1 := fun hmax ↦ h (UInt64.toNat_inj.mp hmax)
  rw [UInt64.toNat_add]
  exact Nat.mod_eq_of_lt (by
    show previous.toNat + 1 < 2 ^ 64
    omega)

/-- What is known where the loop warns. -/
theorem gap_of_lt (h : previous ≠ U64_MAX) (hgap : previous + 1 < current) :
    previous ≤ current ∧ 1 ≤ current - previous ∧
      (current - previous - 1).toNat = current.toNat - previous.toNat - 1 := by
  rw [UInt64.lt_iff_toNat_lt, toNat_add_one h] at hgap
  have hle : previous ≤ current := UInt64.le_iff_toNat_le.mpr (by omega)
  have hdistance := UInt64.toNat_sub_of_le _ _ hle
  have hone : (1 : UInt64).toNat = 1 := rfl
  have hmore : 1 ≤ current - previous := by
    rw [UInt64.le_iff_toNat_le, hdistance, hone]
    omega
  refine ⟨hle, hmore, ?_⟩
  rw [UInt64.toNat_sub_of_le _ _ hmore, hdistance, hone]

/-- **One comparison.** It overflows behind the largest number, and behind no other one. -/
theorem checkedSequenceGap_some (previous current : UInt64) :
    checkedSequenceGap (some previous) current =
      if previous = U64_MAX then none else some (sequenceGap (some previous) current) := by
  by_cases h : previous = U64_MAX
  · have hoverflow : checkedAdd U64_MAX 1 = none := by decide
    rw [if_pos h, h, checkedSequenceGap, hoverflow, Option.bind_none]
  · have hnext : checkedAdd previous 1 = some (previous + 1) :=
      checkedAdd_eq_some.mpr (toNat_add_one h)
    rw [if_neg h, checkedSequenceGap, hnext, Option.bind_some, sequenceGap]
    split
    next hgap =>
      obtain ⟨hle, hmore, -⟩ := gap_of_lt h hgap
      rw [checkedSub, if_pos hle, Option.bind_some, checkedSub, if_pos hmore, Option.map_some]
    next => rfl

/-- A gap is what is missing between two numbers, unless the first is the largest. -/
theorem toNats_sequenceGap (h : previous ≠ U64_MAX) (current : UInt64) :
    (sequenceGap (some previous) current).map SequenceGap.toNats =
      missingBetween (some previous.toNat) current.toNat := by
  have hgap : current > previous + 1 ↔ previous.toNat + 1 < current.toNat := by
    rw [gt_iff_lt, UInt64.lt_iff_toNat_lt, toNat_add_one h]
  rw [sequenceGap, missingBetween]
  split
  next hlt =>
    rw [if_pos (hgap.mp hlt), List.map_singleton, SequenceGap.toNats, (gap_of_lt h hlt).2.2]
  next hlt => rw [if_neg fun hnat ↦ hlt (hgap.mpr hnat), List.map_nil]

/-- Where the overflow is not caught, a repeated number counts as a gap. -/
example : sequenceGap (some U64_MAX) U64_MAX = [⟨U64_MAX, U64_MAX, U64_MAX⟩] := by decide

/-! ### All of them -/

/-- The packets that another one comes behind. -/
def followed (previous : Option UInt64) (sequences : List UInt64) : List UInt64 :=
  (previous.toList ++ sequences).dropLast

theorem followed_nil (previous : Option UInt64) : followed previous [] = [] := by
  cases previous <;> rfl

/-- A packet is followed if another one comes behind it. -/
theorem followed_cons (previous : Option UInt64) (current : UInt64) (sequences : List UInt64) :
    followed previous (current :: sequences) =
      previous.toList ++ followed (some current) sequences := by
  cases previous <;> rfl

/-- **All comparisons of a session** come about exactly if the largest number is not followed. -/
theorem checkedGaps_eq (previous : Option UInt64) (sequences : List UInt64) :
    checkedGaps previous sequences =
      if U64_MAX ∈ followed previous sequences then none else some (gapsFrom previous sequences) := by
  induction sequences generalizing previous with
  | nil =>
    rw [followed_nil, if_neg List.not_mem_nil]
    rfl
  | cons current sequences ih =>
    rw [followed_cons, checkedGaps, ih]
    cases previous with
    | none =>
      rw [Option.toList_none, List.nil_append, checkedSequenceGap, Option.bind_some]
      split <;> rfl
    | some previous =>
      rw [checkedSequenceGap_some, Option.toList_some, List.singleton_append]
      by_cases hmax : previous = U64_MAX
      · rw [if_pos hmax, if_pos (List.mem_cons.mpr (Or.inl hmax.symm)), Option.bind_none]
      · have hmem : U64_MAX ∈ previous :: followed (some current) sequences ↔
            U64_MAX ∈ followed (some current) sequences := by
          rw [List.mem_cons, or_iff_right fun heq ↦ hmax heq.symm]
        simp only [if_neg hmax, Option.bind_some, hmem]
        split <;> rfl

/-- Then the warnings are those that the numbers call for. -/
theorem toNats_gapsFrom {previous : Option UInt64} {sequences : List UInt64}
    (h : U64_MAX ∉ followed previous sequences) :
    (gapsFrom previous sequences).map SequenceGap.toNats =
      missingFrom (previous.map UInt64.toNat) (sequences.map UInt64.toNat) := by
  induction sequences generalizing previous with
  | nil => rfl
  | cons current sequences ih =>
    rw [followed_cons, List.mem_append, not_or] at h
    have hfirst : (sequenceGap previous current).map SequenceGap.toNats =
        missingBetween (previous.map UInt64.toNat) current.toNat := by
      cases previous with
      | none => rfl
      | some previous => exact toNats_sequenceGap (fun hmax ↦ h.1 (List.mem_singleton.mpr hmax.symm)) _
    rw [gapsFrom, List.map_append, hfirst, ih h.2]
    rfl

/-- **The warnings are exact** unless a packet comes behind the largest number. -/
theorem gapsExact_iff (sequences : List UInt64) :
    GapsExact sequences (gapsFrom none sequences) ↔ U64_MAX ∉ sequences.dropLast := by
  constructor
  · rintro ⟨hchecked, -⟩ hmem
    rw [checkedGaps_eq, followed, Option.toList_none, List.nil_append, if_pos hmem] at hchecked
    exact Option.some_ne_none _ hchecked.symm
  · intro hmem
    refine ⟨?_, toNats_gapsFrom hmem⟩
    rw [checkedGaps_eq, followed, Option.toList_none, List.nil_append, if_neg hmem]

end Exact

/-! ### Sessions -/

section Sessions

variable {format : WireFormat}

/-- The number of a packet, if the frame is one. -/
def audioSequence (format : WireFormat) (frame : Frame) : Option UInt64 :=
  if frame.kind = .audio then
    (decodeMetadata format.audio frame).toOption.map AudioMessage.sequence
  else none

/-- The numbers of the packets among the frames. -/
def audioSequences (format : WireFormat) (frames : List Frame) : List UInt64 :=
  frames.filterMap (audioSequence format)

/-- The session has warned about the packets it received, and remembers the last one. -/
structure ReceiverSession.Tracked (format : WireFormat) (session : ReceiverSession) : Prop where
  lastSequence : session.lastSequence = (audioSequences format session.received).getLast?
  gaps : session.gaps = gapsFrom none (audioSequences format session.received)

/-- The session a step leaves. -/
def sessionAfter : LoopStep ReceiverSession SessionEnd → ReceiverSession
  | .again session => session
  | .done ended => ended.2

/-- Nothing was received, and nothing warned about. -/
structure ReceiverSession.SameTrack (session next : ReceiverSession) : Prop where
  received : next.received = session.received
  lastSequence : next.lastSequence = session.lastSequence
  gaps : next.gaps = session.gaps

variable {input : RoundInput} {frame : Frame} {session next : ReceiverSession}

/-- Whoever receives nothing and warns of nothing keeps the track. -/
theorem ReceiverSession.Tracked.same (h : session.Tracked format) (hsame : session.SameTrack next) :
    next.Tracked format := by
  constructor
  · rw [hsame.lastSequence, hsame.received, h.lastSequence]
  · rw [hsame.gaps, hsame.received, h.gaps]

/-- The warnings about one more packet are those before it and its own. -/
theorem gapsFrom_append (previous : Option UInt64) (sequences : List UInt64) (current : UInt64) :
    gapsFrom previous (sequences ++ [current]) =
      gapsFrom previous sequences ++ sequenceGap (sequences.getLast?.or previous) current := by
  induction sequences generalizing previous with
  | nil => rw [List.nil_append, gapsFrom, gapsFrom, gapsFrom, List.append_nil]; rfl
  | cons first sequences ih =>
    have hlast : (first :: sequences).getLast?.or previous = sequences.getLast?.or (some first) := by
      rw [List.getLast?_cons, Option.some_or]
      cases sequences.getLast? <;> rfl
    rw [List.cons_append, gapsFrom, gapsFrom, ih, List.append_assoc, hlast]

/-- One more frame brings one number more at most. -/
theorem audioSequences_append (frames : List Frame) (frame : Frame) :
    audioSequences format (frames ++ [frame]) =
      audioSequences format frames ++ (audioSequence format frame).toList := by
  rw [audioSequences, List.filterMap_append]
  cases hsequence : audioSequence format frame with
  | none => rw [List.filterMap_cons_none hsequence]; rfl
  | some sequence => rw [List.filterMap_cons_some hsequence]; rfl

/-- A frame that is no packet. -/
theorem ReceiverSession.Tracked.receive (h : session.Tracked format)
    (hframe : audioSequence format frame = none)
    (hsame : { session with received := session.received ++ [frame] }.SameTrack next) :
    next.Tracked format := by
  refine Tracked.same ?_ hsame
  have hsequences : audioSequences format (session.received ++ [frame]) =
      audioSequences format session.received := by
    rw [audioSequences_append, hframe, Option.toList_none, List.append_nil]
  exact ⟨h.lastSequence.trans (congrArg List.getLast? hsequences.symm),
    h.gaps.trans (congrArg (gapsFrom none) hsequences.symm)⟩

/-- **A packet** is compared with the last one. -/
theorem tracked_handleAudio (hkind : frame.kind = .audio) (h : session.Tracked format) :
    (sessionAfter (handleAudio format input frame
      { session with received := session.received ++ [frame] })).Tracked format := by
  rcases hdecode : decodeMetadata format.audio frame with error | metadata
  · have hframe : audioSequence format frame = none := by
      rw [audioSequence, if_pos hkind, hdecode]
      rfl
    simp only [handleAudio, hdecode]
    exact h.receive hframe ⟨rfl, rfl, rfl⟩
  · have hframe : audioSequence format frame = some metadata.sequence := by
      rw [audioSequence, if_pos hkind, hdecode]
      rfl
    have hsequences : audioSequences format (session.received ++ [frame]) =
        audioSequences format session.received ++ [metadata.sequence] := by
      rw [audioSequences_append, hframe, Option.toList_some]
    have htracked : ReceiverSession.Tracked format { session with
        received := session.received ++ [frame]
        gaps := session.gaps ++ sequenceGap session.lastSequence metadata.sequence
        lastSequence := some metadata.sequence } := by
      constructor
      · rw [hsequences, List.getLast?_concat]
      · rw [hsequences, gapsFrom_append, ← h.gaps, Option.or_none, ← h.lastSequence]
    rcases hanswer : input.onEvent with error | ⟨⟩
    · simp only [handleAudio, hdecode, hanswer, ReceiverSession.emit]
      exact htracked
    · simp only [handleAudio, hdecode, hanswer, ReceiverSession.emit]
      exact htracked.same ⟨rfl, rfl, rfl⟩

/-- A heartbeat has no number. -/
theorem sameTrack_handleHeartbeat (format : WireFormat) (input : RoundInput) (frame : Frame)
    (session : ReceiverSession) :
    session.SameTrack (sessionAfter (handleHeartbeat format input frame session)) := by
  rcases hdecode : decodeMetadata format.heartbeat frame with error | heartbeat
  · simp only [handleHeartbeat, hdecode]
    exact ⟨rfl, rfl, rfl⟩
  rcases hanswer : input.onEvent with error | ⟨⟩
  · simp only [handleHeartbeat, hdecode, hanswer, ReceiverSession.emit]
    exact ⟨rfl, rfl, rfl⟩
  rcases hwrite : writeMessage format.heartbeat .heartbeatAck heartbeat [] session.writer with
    ⟨error | size, writer⟩
  · simp only [handleHeartbeat, hdecode, hanswer, ReceiverSession.emit, ReceiverSession.send, hwrite]
    exact ⟨rfl, rfl, rfl⟩
  · simp only [handleHeartbeat, hdecode, hanswer, ReceiverSession.emit, ReceiverSession.send, hwrite]
    exact ⟨rfl, rfl, rfl⟩

/-- Nor has a stop. -/
theorem sameTrack_handleStop (format : WireFormat) (input : RoundInput) (frame : Frame)
    (session : ReceiverSession) :
    session.SameTrack (sessionAfter (handleStop format input frame session)) := by
  rcases hdecode : decodeMetadata format.stop frame with error | stop
  · simp only [handleStop, hdecode]
    exact ⟨rfl, rfl, rfl⟩
  rcases hanswer : input.onEvent with error | ⟨⟩
  · simp only [handleStop, hdecode, hanswer, ReceiverSession.emit]
    exact ⟨rfl, rfl, rfl⟩
  · simp only [handleStop, hdecode, hanswer, ReceiverSession.emit]
    exact ⟨rfl, rfl, rfl⟩

/-- Nor an error. -/
theorem sameTrack_handleError (format : WireFormat) (input : RoundInput) (frame : Frame)
    (session : ReceiverSession) :
    session.SameTrack (sessionAfter (handleError format input frame session)) := by
  rcases hdecode : decodeMetadata format.error frame with error | error
  · simp only [handleError, hdecode]
    exact ⟨rfl, rfl, rfl⟩
  rcases hanswer : input.onEvent with refusal | ⟨⟩
  · simp only [handleError, hdecode, hanswer, ReceiverSession.emit]
    exact ⟨rfl, rfl, rfl⟩
  · simp only [handleError, hdecode, hanswer, ReceiverSession.emit]
    exact ⟨rfl, rfl, rfl⟩

/-- Nor a frame that should not come. -/
theorem sameTrack_handleUnexpected (format : WireFormat) (frame : Frame) (session : ReceiverSession) :
    session.SameTrack (sessionAfter (handleUnexpected format frame session)) := by
  simp only [handleUnexpected, ReceiverSession.sendProtocolError, ReceiverSession.send]
  split
  next hsend =>
    obtain ⟨-, rfl⟩ := Prod.mk.inj hsend
    exact ⟨rfl, rfl, rfl⟩
  next hsend =>
    obtain ⟨-, rfl⟩ := Prod.mk.inj hsend
    exact ⟨rfl, rfl, rfl⟩

/-- The end of the connection is no packet. -/
theorem sameTrack_handleDisconnected (input : RoundInput) (session : ReceiverSession) :
    session.SameTrack (sessionAfter (handleDisconnected input session)) := by
  rcases hanswer : input.onEvent with error | ⟨⟩
  · simp only [handleDisconnected, hanswer, ReceiverSession.emit]
    exact ⟨rfl, rfl, rfl⟩
  · simp only [handleDisconnected, hanswer, ReceiverSession.emit]
    exact ⟨rfl, rfl, rfl⟩

/-- Nor is a read that fails. -/
theorem sameTrack_handleReadFailure (format : WireFormat) (input : RoundInput)
    (error : TransportError) (session : ReceiverSession) :
    session.SameTrack (sessionAfter (handleReadFailure format input error session)) := by
  rcases hanswer : input.onEvent with refusal | ⟨⟩
  · simp only [handleReadFailure, hanswer, ReceiverSession.emit]
    exact ⟨rfl, rfl, rfl⟩
  · simp only [handleReadFailure, hanswer, ReceiverSession.emit]
    exact ⟨rfl, rfl, rfl⟩

/-- A frame that is received is warned about, if it calls for it, and remembered. -/
theorem tracked_handleFrame (h : session.Tracked format) (input : RoundInput) (frame : Frame) :
    (sessionAfter (handleFrame format input frame
      { session with received := session.received ++ [frame] })).Tracked format := by
  have hother (hkind : frame.kind ≠ .audio) : audioSequence format frame = none := if_neg hkind
  unfold handleFrame
  split
  next hkind => exact tracked_handleAudio hkind h
  next hkind =>
    exact h.receive (hother (by rw [hkind]; decide)) (sameTrack_handleHeartbeat format input frame _)
  next hkind =>
    exact h.receive (hother (by rw [hkind]; decide)) (sameTrack_handleStop format input frame _)
  next hkind =>
    exact h.receive (hother (by rw [hkind]; decide)) (sameTrack_handleError format input frame _)
  next hkind =>
    exact h.receive (hother (by rw [hkind]; decide)) (sameTrack_handleUnexpected format frame _)
  next hkind =>
    exact h.receive (hother (by rw [hkind]; decide)) (sameTrack_handleUnexpected format frame _)
  next hkind =>
    exact h.receive (hother (by rw [hkind]; decide)) (sameTrack_handleUnexpected format frame _)

/-- **A round.** -/
theorem tracked_streamingRound (h : session.Tracked format) (input : RoundInput) :
    (sessionAfter (streamingRound format input session)).Tracked format := by
  rcases hstop : input.stopRequested with - | -
  case true =>
    simp only [streamingRound, hstop, if_true]
    exact h.same ⟨rfl, rfl, rfl⟩
  have hread (reader : Reader) : ReceiverSession.Tracked format { session with reader } :=
    h.same ⟨rfl, rfl, rfl⟩
  rcases hframe : readFrame session.reader with ⟨error | frame, rest⟩
  · rw [streamingRound_of_error format hstop hframe]
    split
    · exact (hread rest).same (sameTrack_handleDisconnected input _)
    · split
      · exact hread rest
      · exact (hread rest).same (sameTrack_handleReadFailure format input error _)
  · rw [streamingRound_of_frame format hstop hframe]
    exact tracked_handleFrame (hread rest) input frame

/-- **The loop keeps the track**, however it ends. -/
theorem tracked_streamingLoop {inputs : ℕ → RoundInput} {result : Except TransportError Unit}
    {final : ReceiverSession} (h : session.Tracked format)
    (hrun : streamingLoop format inputs session = some (result, final)) : final.Tracked format := by
  refine @Loop.of_run _ _ (streamingBody format inputs) (fun state ↦ state.2.Tracked format)
    (fun ended ↦ ended.2.Tracked format) (fun state next hstate hagain ↦ ?_)
    (fun state ended hstate hdone ↦ ?_) _ _ _ h hrun
  · have hround := tracked_streamingRound hstate (inputs state.1)
    rw [(streamingBody_again hagain).2] at hround
    exact hround
  · have hround := tracked_streamingRound hstate (inputs state.1)
    rw [streamingBody_done hdone] at hround
    exact hround

theorem sameTrack_send {T : Type} {json : SerdeJson T} {kind : FrameKind} {message : T}
    {result : Except TransportError ℕ} (h : session.send json kind message = (result, next)) :
    session.SameTrack next := by
  rw [← (Prod.mk.inj h).2]
  exact ⟨rfl, rfl, rfl⟩

theorem ReceiverSession.SameTrack.trans {final : ReceiverSession} (h : session.SameTrack next)
    (h' : next.SameTrack final) : session.SameTrack final :=
  ⟨h'.received.trans h.received, h'.lastSequence.trans h.lastSequence, h'.gaps.trans h.gaps⟩

/-- The handshake sees no packet. -/
theorem sameTrack_handshake (format : WireFormat) (args : SessionArgs) (setup : SessionSetup)
    {result : Except TransportError Unit}
    (h : handshake format args setup session = (result, next)) : session.SameTrack next := by
  have hfailed {ended : Except TransportError Unit} {failed : ReceiverSession}
      (h : (ended, failed) = (result, next)) (hsame : session.SameTrack failed) :
      session.SameTrack next := by
    obtain ⟨-, rfl⟩ := Prod.mk.inj h
    exact hsame
  unfold handshake at h
  split at h
  · exact hfailed h ⟨rfl, rfl, rfl⟩
  split at h
  · exact hfailed h ⟨rfl, rfl, rfl⟩
  split at h
  · exact hfailed h ⟨rfl, rfl, rfl⟩
  next frame reader hread =>
  dsimp only at h
  have hreader : session.SameTrack { session with reader } := ⟨rfl, rfl, rfl⟩
  split at h
  · split at h
    next hsend => exact hfailed h (hreader.trans (sameTrack_send hsend))
    next hsend => exact hfailed h (hreader.trans (sameTrack_send hsend))
  split at h
  · exact hfailed h hreader
  split at h
  · exact hfailed h hreader
  split at h
  next hsend => exact hfailed h (hreader.trans (sameTrack_send hsend))
  next sent sender hsend =>
  have hsent := hreader.trans (sameTrack_send hsend)
  rcases hanswer : setup.onConnected with error | ⟨⟩
  · simp only [ReceiverSession.emit, hanswer] at h
    exact hfailed h hsent
  · simp only [ReceiverSession.emit, hanswer] at h
    exact hfailed h (hsent.trans ⟨rfl, rfl, rfl⟩)

end Sessions

/-- **The warnings of a session are exact**, and come about without an overflow, unless a packet comes
behind one with the largest number. -/
theorem session_gaps_exact_iff (format : WireFormat) (args : SessionArgs) (setup : SessionSetup)
    (inputs : ℕ → RoundInput) (reader : Reader) (writer : Writer) :
    ∃ result final,
      handleReceiverSession format args setup inputs reader writer = some (result, final) ∧
      (GapsExact (audioSequences format final.received) final.gaps ↔
        U64_MAX ∉ (audioSequences format final.received).dropLast) := by
  have hstart : ReceiverSession.Tracked format { reader, writer } := ⟨rfl, rfl⟩
  rcases hshake : handshake format args setup { reader, writer } with ⟨error | ⟨⟩, started⟩
  · have hstarted := hstart.same (sameTrack_handshake format args setup hshake)
    refine ⟨.error error, started, by simp only [handleReceiverSession, hshake], ?_⟩
    rw [hstarted.gaps]
    exact gapsExact_iff _
  · have hstarted := hstart.same (sameTrack_handshake format args setup hshake)
    obtain ⟨⟨result, final⟩, hrun⟩ :=
      Option.isSome_iff_exists.1 (streamingLoop_isSome format inputs started)
    refine ⟨result, final, by simp only [handleReceiverSession, hshake, hrun], ?_⟩
    rw [(tracked_streamingLoop hstarted hrun).gaps]
    exact gapsExact_iff _

namespace Sample

def lastSequenceJson : List String :=
  ["\x7b\"sequence\":18446744073709551615,", "\"captured_at_ms\":10,",
    "\"captured_at_unix_ms\":20\x7d"]

/-- Packets with the largest number. -/
def lastSequenceFormat : WireFormat :=
  { format with audio := .single ⟨U64_MAX, 10, 20⟩ lastSequenceJson }

def lastSequenceFrame : List UInt8 := encodeFrame ⟨.audio, SerdeJson.asciiBytes lastSequenceJson, []⟩

end Sample

/-- **A packet with the largest number, twice.** -/
theorem repeated_last_sequence : ¬∀ (format : WireFormat) (args : SessionArgs) (setup : SessionSetup)
    (inputs : ℕ → RoundInput) (reader : Reader) (writer : Writer) (result : Except TransportError Unit)
    (final : ReceiverSession),
    handleReceiverSession format args setup inputs reader writer = some (result, final) →
      GapsExact (audioSequences format final.received) final.gaps := by
  intro h
  have hsequences : (handleReceiverSession Sample.lastSequenceFormat Sample.args Sample.setup
      Sample.calm (ReadScript.ofList (Sample.helloFrame ++ Sample.lastSequenceFrame ++
        Sample.lastSequenceFrame)) .empty).map
        (fun ended ↦ audioSequences Sample.lastSequenceFormat ended.2.received) =
      some [U64_MAX, U64_MAX] := by decide +kernel
  obtain ⟨⟨result, final⟩, hrun, hfinal⟩ := Option.map_eq_some_iff.mp hsequences
  have hchecked := (h _ _ _ _ _ _ result final hrun).checked
  rw [show audioSequences _ final.received = [U64_MAX, U64_MAX] from hfinal] at hchecked
  exact absurd hchecked.symm (Option.some_ne_none _)

end SynchroSonic
