import SynchroSonic.Transport.FrameStream
import SynchroSonic.Transport.SessionRounds

/-!
# Read timeouts in a running session

The socket of a session has a read timeout, and the streaming loop answers a timeout by reading the
next frame. What a timed-out `read_exact` had already taken from the socket is lost, so a timeout in
the middle of a frame makes the loop continue in the middle of that frame.

`Aligned items bodies` says that the stream `items` is the frames `bodies` with timeouts only in
between. Both directions are inductions on this notion or on the loop:

* `streamingLoop_of_aligned` — an aligned stream is received frame by frame;
* `aligned_of_run` — a loop that received frames as long as the whole stream met an aligned stream,
  because a timeout inside a frame loses bytes that then are missing at the end.

`framing_survives_timeouts_iff` puts them together.
-/

namespace SynchroSonic

open ReadScript

/-- Reading with timeouts taken out. -/
def Reader.withoutTimeouts (reader : Reader) : Reader :=
  reader.filter fun item ↦
    match item with
    | .chunk _ _ => true
    | .fail error => !error.isTimeout

/-- A decoded frame, as `read_frame` returns it. -/
def FrameBody.toFrame (body : FrameBody) : Frame :=
  { body with wireBytes := (encodeFrame body).length }

/-! ### What a sender writes -/

/-- A frame of a running stream: its metadata was encoded from a message and decodes to it. -/
inductive StreamedFrame (format : WireFormat) : FrameBody → Prop
  | audio {metadata payload : List UInt8} (carries : format.audio.Carries metadata) :
      StreamedFrame format ⟨.audio, metadata, payload⟩
  | heartbeat {metadata payload : List UInt8} (carries : format.heartbeat.Carries metadata) :
      StreamedFrame format ⟨.heartbeat, metadata, payload⟩

/-- What a sender writes after `Hello`: frames of a running stream, and `Stop` at most as the
last. -/
inductive SenderStream (format : WireFormat) : List FrameBody → Prop
  | nil : SenderStream format []
  | stop {metadata payload : List UInt8} (carries : format.stop.Carries metadata) :
      SenderStream format [⟨.stop, metadata, payload⟩]
  | cons {body : FrameBody} {bodies : List FrameBody} (head : StreamedFrame format body)
      (tail : SenderStream format bodies) : SenderStream format (body :: bodies)

/-! ### Timeouts between frames -/

/-- Every error of the stream stands where some number of frames has just been completed. -/
def TimeoutsBetweenFrames (items : List (UInt8 ⊕ IoError)) (bodies : List FrameBody) : Prop :=
  ∀ before error after, items = before ++ .inr error :: after →
    ∃ k, symbols before = encodeFrames (bodies.take k)

/-- The frames `bodies`, one after the other, with timeouts only in front of and behind a frame. -/
inductive Aligned : List (UInt8 ⊕ IoError) → List FrameBody → Prop
  | nil : Aligned [] []
  | timeout {error : IoError} {items : List (UInt8 ⊕ IoError)} {bodies : List FrameBody}
      (timeout : error.isTimeout = true) (rest : Aligned items bodies) :
      Aligned (.inr error :: items) bodies
  | frame {body : FrameBody} {items : List (UInt8 ⊕ IoError)} {bodies : List FrameBody}
      (rest : Aligned items bodies) :
      Aligned ((encodeFrame body).map .inl ++ items) (body :: bodies)

namespace Aligned

variable {items : List (UInt8 ⊕ IoError)} {bodies : List FrameBody}

theorem symbols_eq (h : Aligned items bodies) : symbols items = encodeFrames bodies := by
  induction h with
  | nil => rfl
  | timeout _ _ ih => rw [symbols_inr_cons, ih]
  | frame _ ih => rw [symbols_append, symbols_map_inl, ih, encodeFrames_cons]

/-- A stream of timeouts alone. -/
theorem of_symbols_nil (hsymbols : symbols items = [])
    (htimeout : ∀ error, .inr error ∈ items → error.isTimeout = true) : Aligned items [] := by
  induction items with
  | nil => exact .nil
  | cons item items ih =>
    rcases item with byte | error
    · simp at hsymbols
    · exact .timeout (htimeout error (by simp))
        (ih hsymbols fun error' hmem ↦ htimeout error' (List.mem_cons_of_mem _ hmem))

theorem timeoutsBetweenFrames (h : Aligned items bodies) :
    TimeoutsBetweenFrames items bodies := by
  induction h with
  | nil =>
    intro before error after heq
    simp at heq
  | @timeout source items bodies _ _ ih =>
    intro before error after heq
    rcases before with - | ⟨item, before⟩
    · exact ⟨0, rfl⟩
    · obtain ⟨rfl, heq'⟩ := List.cons.inj heq
      exact ih before error after heq'
  | @frame body items bodies _ ih =>
    intro before error after heq
    rcases List.append_eq_append_iff.1 heq with ⟨before', rfl, heq'⟩ | ⟨inside, henc, heq'⟩
    · obtain ⟨k, hk⟩ := ih before' error after heq'
      exact ⟨k + 1, by rw [symbols_append, symbols_map_inl, hk, List.take_succ_cons,
        encodeFrames_cons]⟩
    · rcases inside with - | ⟨item, inside⟩
      · refine ⟨1, ?_⟩
        rw [List.append_nil] at henc
        rw [← henc, symbols_map_inl]
        simp
      · -- an error cannot stand among the bytes of an encoding
        obtain ⟨rfl, -⟩ := List.cons.inj heq'
        have hmem : Sum.inr error ∈ (encodeFrame body).map (Sum.inl : UInt8 → UInt8 ⊕ IoError) := by
          rw [henc]
          simp
        simp at hmem

end Aligned

/-- **Timeouts between frames are alignment**, for a stream that carries just these frames. -/
theorem aligned_of_timeoutsBetweenFrames {items : List (UInt8 ⊕ IoError)} {bodies : List FrameBody}
    (hsymbols : symbols items = encodeFrames bodies)
    (htimeout : ∀ error, .inr error ∈ items → error.isTimeout = true)
    (hbetween : TimeoutsBetweenFrames items bodies) : Aligned items bodies := by
  induction hlen : items.length using Nat.strong_induction_on generalizing items bodies with
  | h length ih =>
  rcases items with - | ⟨byte | error, items⟩
  · -- the end of the stream: no frame is left
    rcases bodies with - | ⟨body, bodies⟩
    · exact .nil
    · have hempty := congrArg List.length hsymbols
      have hpos := encodeFrame_pos body
      simp only [symbols_nil, List.length_nil, encodeFrames_cons, List.length_append] at hempty
      omega
  · -- a byte: the whole of the next frame stands in front of the next timeout
    rcases bodies with - | ⟨body, bodies⟩
    · simp at hsymbols
    rw [encodeFrames_cons] at hsymbols
    have hle : (encodeFrame body).length ≤ (symbols (.inl byte :: items)).length := by
      rw [hsymbols, List.length_append]
      omega
    have htake : (symbols (.inl byte :: items)).take (encodeFrame body).length =
        encodeFrame body := by rw [hsymbols, List.take_left]
    rcases symbols_or_error _ _ hle with ⟨rest, hrest⟩ | ⟨data, error, after, heq, hdata⟩
    · rw [htake] at hrest
      rw [hrest] at hsymbols htimeout hbetween hlen ⊢
      rw [symbols_append, symbols_map_inl] at hsymbols
      refine .frame (ih rest.length ?_ (List.append_cancel_left hsymbols)
        (fun error hmem ↦ htimeout error (List.mem_append_right _ hmem)) ?_ rfl)
      · have hpos := encodeFrame_pos body
        rw [← hlen, List.length_append, List.length_map]
        omega
      · intro before error after hbefore
        obtain ⟨k, hk⟩ := hbetween ((encodeFrame body).map .inl ++ before) error after
          (by rw [hbefore, List.append_assoc])
        rw [symbols_append, symbols_map_inl] at hk
        rcases k with - | k
        · have hpos := encodeFrame_pos body
          have := congrArg List.length hk
          simp only [List.take_zero, encodeFrames_nil, List.length_nil, List.length_append] at this
          omega
        · exact ⟨k, List.append_cancel_left (by rw [hk, List.take_succ_cons, encodeFrames_cons])⟩
    · -- a timeout inside the frame: the bytes in front of it are no whole number of frames
      exfalso
      obtain ⟨k, hk⟩ := hbetween _ error after heq
      rw [symbols_map_inl] at hk
      rcases k with - | k
      · simp only [List.take_zero, encodeFrames_nil] at hk
        simp [hk] at heq
      · rw [List.take_succ_cons, encodeFrames_cons] at hk
        rw [hk, List.length_append] at hdata
        omega
  · refine .timeout (htimeout error (by simp)) (ih items.length (by simp [← hlen]) hsymbols
      (fun error' hmem ↦ htimeout error' (List.mem_cons_of_mem _ hmem)) ?_ rfl)
    intro before error' after heq
    exact hbetween (.inr error :: before) error' after (by rw [heq]; rfl)

/-! ### An aligned stream is received -/

section Forward

variable {format : WireFormat} {body : FrameBody} {session : ReceiverSession}
  {tail : List (UInt8 ⊕ IoError)}

/-- A frame of a running stream keeps the loop going, when the callback agrees and the socket accepts
what is written. -/
theorem streamingRound_of_streamed (hbody : StreamedFrame format body) (hlim : body.WithinLimits)
    (hrel : session.writer.Reliable)
    (hitems : session.reader.items = (encodeFrame body).map .inl ++ tail) :
    ∃ next, streamingRound format ⟨false, .ok ()⟩ session = .again next ∧
      next.reader.items = tail ∧ next.writer.Reliable ∧
      next.received = session.received ++ [body.toFrame] := by
  obtain ⟨rest, hread, hrest⟩ := readFrame_of_items hlim hitems
  rw [streamingRound_of_frame format rfl hread]
  cases hbody with
  | audio carries =>
    obtain ⟨message, -, hdecode⟩ := carries
    simp only [handleFrame, handleAudio, decodeMetadata, hdecode, ReceiverSession.emit]
    exact ⟨_, rfl, hrest, hrel, rfl⟩
  | heartbeat carries =>
    -- the acknowledgement is the same message, so it is short enough too
    obtain ⟨message, hencode, hdecode⟩ := carries
    obtain ⟨size, writer, hwrite, hrel'⟩ := writeMessage_of_toVec .heartbeatAck hencode
      (⟨hlim.1, by simp⟩ : FrameBody.WithinLimits ⟨.heartbeatAck, _, []⟩) hrel
    simp only [handleFrame, handleHeartbeat, decodeMetadata, hdecode, ReceiverSession.emit,
      ReceiverSession.send, hwrite]
    exact ⟨_, rfl, hrest, hrel', rfl⟩

/-- A stop frame ends the loop in good order. -/
theorem streamingRound_of_stopFrame {metadata payload : List UInt8}
    (carries : format.stop.Carries metadata)
    (hlim : FrameBody.WithinLimits ⟨.stop, metadata, payload⟩)
    (hitems : session.reader.items = (encodeFrame ⟨.stop, metadata, payload⟩).map .inl ++ tail) :
    ∃ final, streamingRound format ⟨false, .ok ()⟩ session = .done (.ok (), final) ∧
      final.received = session.received ++ [FrameBody.toFrame ⟨.stop, metadata, payload⟩] := by
  obtain ⟨rest, hread, hrest⟩ := readFrame_of_items hlim hitems
  obtain ⟨message, -, hdecode⟩ := carries
  rw [streamingRound_of_frame format rfl hread]
  simp only [handleFrame, handleStop, decodeMetadata, hdecode, ReceiverSession.emit,
    ReceiverSession.leave]
  exact ⟨_, rfl, rfl⟩

theorem streamingRound_of_timeout {source : IoError} (htimeout : source.isTimeout = true)
    (hitems : session.reader.items = .inr source :: tail) :
    ∃ next, streamingRound format ⟨false, .ok ()⟩ session = .again next ∧
      next.reader.items = tail ∧ next.writer = session.writer ∧
      next.received = session.received := by
  obtain ⟨rest, hread, hrest⟩ := readFrame_of_items_error hitems
  have hdisconnect := IoError.isDisconnect_of_isTimeout htimeout
  rw [streamingRound_of_error format rfl hread]
  simp only [TransportError.isDisconnect, TransportError.isTimeout, hdisconnect, htimeout,
    Bool.false_eq_true, if_false, if_true]
  exact ⟨_, rfl, hrest, rfl, rfl⟩

theorem streamingRound_of_end (hitems : session.reader.items = []) :
    ∃ final, streamingRound format ⟨false, .ok ()⟩ session = .done (.ok (), final) ∧
      final.received = session.received := by
  rw [streamingRound_of_error format rfl (readFrame_of_items_nil hitems)]
  exact ⟨_, rfl, rfl⟩

end Forward

/-- The loop of a session that nobody stops and whose callback takes everything, on an aligned
stream: every frame is received, and the loop ends in good order. -/
theorem streamingLoop_of_aligned {format : WireFormat} {inputs : ℕ → RoundInput}
    (hcalm : ∀ round, inputs round = ⟨false, .ok ()⟩) {items : List (UInt8 ⊕ IoError)}
    {bodies : List FrameBody} (haligned : Aligned items bodies)
    (hsent : SenderStream format bodies) (hlim : ∀ body ∈ bodies, body.WithinLimits) (round : ℕ)
    (session : ReceiverSession) (hrel : session.writer.Reliable)
    (hitems : session.reader.items = items) :
    ∃ fuel final, Loop.run (streamingBody format inputs) fuel (round, session) =
        some (.ok (), final) ∧
      final.received = session.received ++ bodies.map FrameBody.toFrame := by
  -- one round for each frame and each timeout, and one for the end of the connection
  induction haligned generalizing round session with
  | nil =>
    obtain ⟨final, hround, hreceived⟩ := @streamingRound_of_end format session hitems
    refine ⟨1, final, Loop.run_succ_of_done ?_, by simpa using hreceived⟩
    simp only [streamingBody, hcalm, hround]
  | @timeout source items bodies htimeout _ ih =>
    obtain ⟨next, hround, hnext, hwriter, hreceived⟩ :=
      @streamingRound_of_timeout format _ _ _ htimeout hitems
    obtain ⟨fuel, final, hrun, hfinal⟩ := ih hsent hlim (round + 1) next (hwriter ▸ hrel) hnext
    refine ⟨fuel + 1, final, ?_, hreceived ▸ hfinal⟩
    rw [Loop.run_succ_of_again (by simp only [streamingBody, hcalm, hround]; rfl)]
    exact hrun
  | @frame body items bodies _ ih =>
    cases hsent with
    | stop carries =>
      obtain ⟨final, hround, hreceived⟩ :=
        streamingRound_of_stopFrame carries (hlim _ List.mem_cons_self) hitems
      refine ⟨1, final, Loop.run_succ_of_done ?_, hreceived⟩
      simp only [streamingBody, hcalm, hround]
    | cons hbody hsent =>
      obtain ⟨next, hround, hnext, hrel', hreceived⟩ :=
        streamingRound_of_streamed hbody (hlim _ List.mem_cons_self) hrel hitems
      obtain ⟨fuel, final, hrun, hfinal⟩ :=
        ih hsent (fun body' hmem ↦ hlim body' (List.mem_cons_of_mem _ hmem)) (round + 1) next hrel'
          hnext
      refine ⟨fuel + 1, final, ?_, ?_⟩
      · rw [Loop.run_succ_of_again (by simp only [streamingBody, hcalm, hround]; rfl)]
        exact hrun
      · rw [hfinal, hreceived, List.map_cons, List.append_assoc]
        rfl

/-! ### Only an aligned stream is received -/

/-- A frame that was read stands at the front of an aligned stream, if the rest is aligned. -/
theorem Aligned.of_readFrame {reader rest : Reader} {frame : Frame} {bodies : List FrameBody}
    (hread : readFrame reader = (.ok frame, rest))
    (hrest : (symbols rest.items).length ≤ (encodeFrames bodies).length →
      Aligned rest.items bodies)
    (hlen : (symbols reader.items).length ≤
      (encodeFrames (frame.toFrameBody :: bodies)).length) :
    Aligned reader.items (frame.toFrameBody :: bodies) := by
  obtain ⟨-, -, hitems⟩ := items_of_readFrame_ok hread
  rw [hitems] at hlen ⊢
  simp only [symbols_append, symbols_map_inl, encodeFrames_cons, List.length_append,
    Nat.add_le_add_iff_left] at hlen
  exact .frame (hrest hlen)

/-- A read that timed out cost nothing, if the rest is aligned and accounts for every byte. -/
theorem Aligned.of_readFrame_timeout {reader rest : Reader} {error : TransportError}
    {bodies : List FrameBody} (hread : readFrame reader = (.error error, rest))
    (herror : error.isTimeout = true)
    (htimeout : ∀ error, .inr error ∈ reader.items → error.isTimeout = true)
    (hrest : (symbols rest.items).length ≤ (encodeFrames bodies).length →
      Aligned rest.items bodies)
    (hlen : (symbols reader.items).length ≤ (encodeFrames bodies).length) :
    Aligned reader.items bodies := by
  obtain ⟨lost, source, hitems⟩ := items_of_readFrame_timeout hread herror
  rw [hitems] at hlen htimeout ⊢
  simp only [symbols_append, symbols_map_inl, symbols_inr_cons, List.length_append] at hlen
  have haligned := hrest (by omega)
  rw [haligned.symbols_eq] at hlen
  obtain rfl : lost = [] := List.length_eq_zero_iff.1 (by omega)
  exact .timeout (htimeout source (by simp)) haligned

/-- **A loop that received frames as long as its whole stream met an aligned stream.** This asks
nothing of the callback, the socket or the frames. -/
theorem aligned_of_run {format : WireFormat} {inputs : ℕ → RoundInput} {fuel round : ℕ}
    {session : ReceiverSession} {result : SessionEnd}
    (hrun : Loop.run (streamingBody format inputs) fuel (round, session) = some result)
    (htimeout : ∀ error, .inr error ∈ session.reader.items → error.isTimeout = true) :
    ∃ frames, result.2.received = session.received ++ frames ∧
      ((symbols session.reader.items).length ≤
          (encodeFrames (frames.map Frame.toFrameBody)).length →
        Aligned session.reader.items (frames.map Frame.toFrameBody)) := by
  have hnothing {rest : Reader} (hrest : ∀ error, .inr error ∈ rest.items → error.isTimeout = true)
      (hlen : (symbols rest.items).length ≤ (encodeFrames []).length) : Aligned rest.items [] :=
    .of_symbols_nil (List.length_eq_zero_iff.1 (by simpa using hlen)) hrest
  -- a round that goes on has read one frame, or a timeout: the rest of the run is aligned after it
  induction fuel generalizing round session with
  | zero => simp at hrun
  | succ fuel ih =>
    rcases hbody : streamingBody format inputs (round, session) with ⟨round', next⟩ | ⟨ended, final⟩
    · rw [Loop.run_succ_of_again hbody] at hrun
      have houtcome := streamingRound_outcome format (inputs round) session
      rw [(streamingBody_again hbody).2] at houtcome
      cases houtcome with
      | @frame frame rest step running read effect =>
        cases effect with
        | again event isStreamed carried told =>
          obtain ⟨-, -, hitems⟩ := items_of_readFrame_ok read
          obtain ⟨frames, hreceived, haligned⟩ := ih hrun fun error hmem ↦ htimeout error (by
            rw [carried.reader] at hmem
            rw [hitems]
            exact List.mem_append_right _ hmem)
          refine ⟨frame :: frames, ?_, Aligned.of_readFrame read ?_⟩
          · rw [hreceived, carried.received, List.append_assoc]
            rfl
          · rw [carried.reader] at haligned
            exact haligned
      | @timeout error rest running read timeout =>
        obtain ⟨lost, source, hitems⟩ := items_of_readFrame_timeout read timeout
        obtain ⟨frames, hreceived, haligned⟩ := ih hrun fun error hmem ↦ htimeout error (by
          rw [hitems]
          exact List.mem_append_right _ (List.mem_cons_of_mem _ hmem))
        exact ⟨frames, hreceived, Aligned.of_readFrame_timeout read timeout htimeout haligned⟩
    · rw [Loop.run_succ_of_done hbody] at hrun
      obtain rfl := Option.some.inj hrun
      have houtcome := streamingRound_outcome format (inputs round) session
      rw [streamingBody_done hbody] at houtcome
      cases houtcome with
      | stopped stop carried => exact ⟨[], by simpa using carried.received, hnothing htimeout⟩
      | @frame frame rest step running read effect =>
        obtain ⟨-, -, hitems⟩ := items_of_readFrame_ok read
        refine ⟨[frame], ?_, Aligned.of_readFrame read (hnothing fun error hmem ↦ ?_)⟩
        · cases effect with
          | announced _ _ carried _ => exact carried.received
          | silent _ _ carried _ => exact carried.received
        · rw [hitems] at htimeout
          exact htimeout error (List.mem_append_right _ hmem)
      | failure running read timeout effect =>
        refine ⟨[], ?_, hnothing htimeout⟩
        cases effect with
        | announced _ _ carried _ => simpa using carried.received
        | silent _ _ carried _ => simpa using carried.received

/-! ### Taking the timeouts out -/

theorem Reader.items_withoutTimeouts {reader : Reader}
    (htimeout : ∀ error, .inr error ∈ reader.items → error.isTimeout = true) :
    reader.withoutTimeouts.items = (symbols reader.items).map .inl := by
  induction reader with
  | nil => rfl
  | cons item reader ih =>
    have ih := ih fun error hmem ↦ htimeout error (List.mem_append_right _ hmem)
    rcases item with ⟨data, hdata⟩ | error
    · have hkeep : Reader.withoutTimeouts (.chunk data hdata :: reader) =
          .chunk data hdata :: Reader.withoutTimeouts reader := rfl
      rw [hkeep, Reader.items_cons, Reader.items_cons, ih, itemsOf_chunk, symbols_append,
        symbols_map_inl, List.map_append]
    · rcases hinterrupted : error.isInterrupted with - | -
      · -- a reported error is a timeout, and is dropped
        have hreport : itemsOf IoError.isInterrupted (.fail error : ReadItem UInt8 IoError) =
            [.inr error] := itemsOf_fail_of_report _ hinterrupted
        have herror : error.isTimeout = true :=
          htimeout error (by rw [Reader.items_cons, hreport]; simp)
        have hdrop : Reader.withoutTimeouts (.fail error :: reader) =
            Reader.withoutTimeouts reader := by simp [Reader.withoutTimeouts, herror]
        rw [hdrop, ih, Reader.items_cons, hreport, List.singleton_append, symbols_inr_cons]
      · -- an interrupted call is invisible either way
        have hretry : itemsOf IoError.isInterrupted (.fail error : ReadItem UInt8 IoError) = [] :=
          itemsOf_fail_of_retry _ hinterrupted
        have herror : error.isTimeout = false := by
          by_contra h
          simp [IoError.isInterrupted_of_isTimeout (by simpa using h)] at hinterrupted
        have hkeep : Reader.withoutTimeouts (.fail error :: reader) =
            .fail error :: Reader.withoutTimeouts reader := by
          simp [Reader.withoutTimeouts, herror]
        rw [hkeep, Reader.items_cons, Reader.items_cons, hretry, List.nil_append, List.nil_append]
        exact ih

theorem Aligned.of_bytes (bodies : List FrameBody) :
    Aligned ((encodeFrames bodies).map .inl) bodies := by
  induction bodies with
  | nil => exact .nil
  | cons body bodies ih =>
    rw [encodeFrames_cons, List.map_append]
    exact .frame ih

/-- **When framing survives read timeouts.** A session in its streaming loop is fed the frames a
sender writes, in any chunks and with timeouts anywhere; nobody stops it, its callback takes every
event and its socket accepts what is written. Without the timeouts it receives exactly these frames.
With them it receives the same, and does not take the stream for invalid, exactly when every timeout
strikes between two frames. -/
theorem framing_survives_timeouts_iff (format : WireFormat) (bodies : List FrameBody)
    (hsent : SenderStream format bodies) (hlim : ∀ body ∈ bodies, body.WithinLimits)
    (inputs : ℕ → RoundInput) (hcalm : ∀ round, inputs round = ⟨false, .ok ()⟩)
    (session : ReceiverSession) (hrel : session.writer.Reliable)
    (hbytes : symbols session.reader.items = encodeFrames bodies)
    (htimeout : ∀ error, .inr error ∈ session.reader.items → error.isTimeout = true) :
    ∃ result final result' final',
      streamingLoop format inputs session = some (result, final) ∧
      streamingLoop format inputs { session with reader := session.reader.withoutTimeouts } =
        some (result', final') ∧
      final'.received = session.received ++ bodies.map FrameBody.toFrame ∧
      ((final.received = final'.received ∧
          ¬ ∃ message, result = .error (.invalidProtocol message)) ↔
        TimeoutsBetweenFrames session.reader.items bodies) := by
  obtain ⟨⟨result, final⟩, hrun⟩ :=
    Option.isSome_iff_exists.1 (streamingLoop_isSome format inputs session)
  obtain ⟨⟨result', final'⟩, hrun'⟩ := Option.isSome_iff_exists.1
    (streamingLoop_isSome format inputs { session with reader := session.reader.withoutTimeouts })
  have hreceived' : final'.received = session.received ++ bodies.map FrameBody.toFrame := by
    obtain ⟨fuel, ended, hended, hall⟩ := streamingLoop_of_aligned hcalm (.of_bytes bodies) hsent
      hlim 0 { session with reader := session.reader.withoutTimeouts } hrel
      ((Reader.items_withoutTimeouts htimeout).trans (by rw [hbytes]))
    obtain ⟨-, rfl⟩ := Prod.mk.inj (Loop.run_unique hended hrun')
    exact hall
  refine ⟨result, final, result', final', hrun, hrun', hreceived', ?_, fun hbetween ↦ ?_⟩
  · rintro ⟨hsame, -⟩
    obtain ⟨frames, hframes, haligned⟩ := aligned_of_run hrun htimeout
    have hbodies : frames.map Frame.toFrameBody = bodies := by
      have heq := List.append_cancel_left (hframes.symm.trans (hsame.trans hreceived'))
      rw [heq, List.map_map]
      exact List.map_id bodies
    rw [hbodies, hbytes] at haligned
    exact (haligned le_rfl).timeoutsBetweenFrames
  · have haligned := aligned_of_timeoutsBetweenFrames hbytes htimeout hbetween
    obtain ⟨fuel, ended, hended, hall⟩ :=
      streamingLoop_of_aligned hcalm haligned hsent hlim 0 session hrel rfl
    obtain ⟨rfl, rfl⟩ := Prod.mk.inj (Loop.run_unique hended hrun)
    exact ⟨hall.trans hreceived'.symm, by simp⟩

namespace Sample

/-- A heartbeat, as a sender writes it. -/
def heartbeat : FrameBody := ⟨.heartbeat, SerdeJson.asciiBytes heartbeatJson, []⟩

/-- A read timeout as Linux reports it. -/
def stall : IoError := ⟨.wouldBlock, "Resource temporarily unavailable (os error 11)"⟩

/-- The heartbeat arrives and then nothing for a while. -/
def idleSender : ReceiverSession where
  reader := [.chunk (encodeFrame heartbeat) (by decide), .fail stall]
  writer := .empty

/-- The heartbeat stalls behind its fifth byte. -/
def stalledSender : ReceiverSession where
  reader := [.chunk ((encodeFrame heartbeat).take 5) (by decide), .fail stall,
    .chunk ((encodeFrame heartbeat).drop 5) (by decide)]
  writer := .empty

/-- The message of a session that took its stream for invalid. -/
def refusal : Except TransportError Unit → Option String
  | .error (.invalidProtocol message) => some message
  | _ => none

theorem eq_of_refusal {result : Except TransportError Unit} {message : String}
    (h : refusal result = some message) : result = .error (.invalidProtocol message) := by
  unfold refusal at h
  split at h
  · rw [Option.some.inj h]
  · exact nomatch h

theorem senderStream_heartbeat : SenderStream format [heartbeat] :=
  .cons (.heartbeat ⟨⟨1⟩, by simp [format, SerdeJson.single], by simp [format, SerdeJson.single]⟩)
    .nil

end Sample

/-- A timeout behind a whole heartbeat. -/
theorem framing_survives_timeouts_iff_idle :
    ∃ result final result' final',
      streamingLoop Sample.format Sample.calm Sample.idleSender = some (result, final) ∧
      streamingLoop Sample.format Sample.calm
          { Sample.idleSender with reader := Sample.idleSender.reader.withoutTimeouts } =
        some (result', final') ∧
      final'.received = [] ++ [Sample.heartbeat].map FrameBody.toFrame ∧
      ((final.received = final'.received ∧
          ¬ ∃ message, result = .error (.invalidProtocol message)) ↔
        TimeoutsBetweenFrames Sample.idleSender.reader.items [Sample.heartbeat]) :=
  framing_survives_timeouts_iff Sample.format [Sample.heartbeat] Sample.senderStream_heartbeat
    (by decide) Sample.calm (fun _ ↦ rfl) Sample.idleSender WriteScript.reliable_empty
    (by decide) (fun error hmem ↦ by
      have herror : error = Sample.stall := by
        simpa [Sample.idleSender, Reader.items, Sample.stall, IoError.isInterrupted, itemsOf]
          using hmem
      rw [herror]
      rfl)

/-- **Framing lost to a timeout.** A heartbeat stalls behind its fifth byte: the session takes the
rest for a header and gives up, while the same bytes without the timeout are a heartbeat. -/
theorem framing_lost_to_timeout :
    SenderStream Sample.format [Sample.heartbeat] ∧
      symbols Sample.stalledSender.reader.items = encodeFrames [Sample.heartbeat] ∧
      ∃ result final result' final',
        streamingLoop Sample.format Sample.calm Sample.stalledSender = some (result, final) ∧
        streamingLoop Sample.format Sample.calm
            { Sample.stalledSender with reader := Sample.stalledSender.reader.withoutTimeouts } =
          some (result', final') ∧
        final.received ≠ final'.received ∧
        ∃ message, result = .error (.invalidProtocol message) := by
  have hstalled : (streamingLoop Sample.format Sample.calm Sample.stalledSender).map
      (fun ended ↦ (Sample.refusal ended.1, ended.2.received)) =
      some (some "frame magic did not match SynchroSonic protocol", []) := by decide +kernel
  have hwhole : (streamingLoop Sample.format Sample.calm
      { Sample.stalledSender with reader := Sample.stalledSender.reader.withoutTimeouts }).map
      (fun ended ↦ ended.2.received) = some [Sample.heartbeat.toFrame] := by decide +kernel
  obtain ⟨⟨result, final⟩, hrun, hfinal⟩ := Option.map_eq_some_iff.1 hstalled
  obtain ⟨⟨result', final'⟩, hrun', hfinal'⟩ := Option.map_eq_some_iff.1 hwhole
  obtain ⟨hrefusal, hnone⟩ := Prod.mk.inj hfinal
  refine ⟨Sample.senderStream_heartbeat, by decide, result, final, result', final', hrun, hrun', ?_,
    _, Sample.eq_of_refusal hrefusal⟩
  rw [hnone, hfinal']
  simp

end SynchroSonic
