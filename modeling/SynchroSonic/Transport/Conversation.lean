import SynchroSonic.Transport.ReceiverSpeech
import SynchroSonic.Transport.SenderSpeech

/-!
# The conversation

Both ends at once. What one end says is known from `sender_speech` and `receiver_speech`, whatever the
other end does; here each end reads what the other has said. A connection delivers the bytes of the one
to the other in order, possibly not all of them, and a timeout of the receiver's socket finds no frame
half read (`CleanTimeouts`). Then the frames that are read are the first of those that were said
(`frames_of_run`), so none of them is of a kind the reader does not expect.
-/

namespace SynchroSonic

open ReadScript

/-- A timeout comes when a whole number of these frames has been delivered. -/
def CleanTimeouts (items : List (UInt8 ⊕ IoError)) (bodies : List FrameBody) : Prop :=
  ∀ before error after, items = before ++ .inr error :: after → error.isTimeout = true →
    ∃ k, symbols before = encodeFrames (bodies.take k)

/-- Bytes alone are clean. -/
theorem CleanTimeouts.of_bytes (bytes : List UInt8) (bodies : List FrameBody) :
    CleanTimeouts (bytes.map .inl) bodies := by
  intro before error after heq _
  have hmem : .inr error ∈ bytes.map (.inl : UInt8 → UInt8 ⊕ IoError) := by
    rw [heq]
    exact List.mem_append_right before List.mem_cons_self
  obtain ⟨byte, -, hbyte⟩ := List.mem_map.1 hmem
  cases hbyte

/-! ### Reading what was said -/

section Reading

variable {reader rest : Reader} {frame : Frame} {bodies : List FrameBody}

/-- **The next frame** is the next that was said. -/
theorem next_of_readFrame (hlim : ∀ body ∈ bodies, body.WithinLimits)
    (hread : readFrame reader = (.ok frame, rest))
    (hstarts : symbols reader.items <+: encodeFrames bodies) :
    ∃ later, bodies = frame.toFrameBody :: later ∧ symbols rest.items <+: encodeFrames later := by
  obtain ⟨-, -, hitems⟩ := items_of_readFrame_ok hread
  have hsymbols : symbols reader.items = encodeFrame frame.toFrameBody ++ symbols rest.items := by
    rw [hitems, symbols_append, symbols_map_inl]
  rcases bodies with - | ⟨body, later⟩
  · have hempty := List.prefix_nil.1 hstarts
    have hpos := encodeFrame_pos frame.toFrameBody
    rw [hsymbols, List.append_eq_nil_iff] at hempty
    rw [hempty.1] at hpos
    exact absurd hpos (Nat.lt_irrefl 0)
  · have hframe := readFrame_of_starts (hlim body List.mem_cons_self) hread hstarts
    refine ⟨later, by rw [hframe], ?_⟩
    rw [hsymbols, encodeFrames_cons, hframe] at hstarts
    exact (List.prefix_append_right_inj _).1 hstarts

/-- Behind a frame that was read the timeouts are still clean. -/
theorem CleanTimeouts.of_readFrame {later : List FrameBody}
    (h : CleanTimeouts reader.items (frame.toFrameBody :: later))
    (hread : readFrame reader = (.ok frame, rest)) : CleanTimeouts rest.items later := by
  intro before error after heq htimeout
  obtain ⟨-, -, hitems⟩ := items_of_readFrame_ok hread
  obtain ⟨k, hk⟩ := h ((encodeFrame frame.toFrameBody).map .inl ++ before) error after
    (by rw [hitems, heq, List.append_assoc]) htimeout
  rw [symbols_append, symbols_map_inl] at hk
  rcases k with - | k
  · have hpos := encodeFrame_pos frame.toFrameBody
    rw [(List.append_eq_nil_iff.1 hk).1] at hpos
    exact absurd hpos (Nat.lt_irrefl 0)
  · exact ⟨k, List.append_cancel_left hk⟩

/-- **A timeout costs nothing**: had the read taken a whole frame, it would have returned it. -/
theorem next_of_timeout {error : TransportError} (hlim : ∀ body ∈ bodies, body.WithinLimits)
    (hread : readFrame reader = (.error error, rest)) (htimeout : error.isTimeout = true)
    (hclean : CleanTimeouts reader.items bodies)
    (hstarts : symbols reader.items <+: encodeFrames bodies) :
    CleanTimeouts rest.items bodies ∧ symbols rest.items <+: encodeFrames bodies := by
  obtain ⟨lost, source, hitems, hsource⟩ : ∃ (lost : List UInt8) (source : IoError),
      reader.items = lost.map .inl ++ .inr source :: rest.items ∧ source.isTimeout = true := by
    obtain ⟨lost, hlost⟩ := failure_of_readFrame_error hread
    cases hlost with
    | reported items => exact ⟨lost, _, items, htimeout⟩
    | ended items empty => exact absurd htimeout (by simp [TransportError.isTimeout]; decide)
    | refused => exact absurd htimeout Bool.false_ne_true
  obtain ⟨k, hk⟩ := hclean _ _ _ hitems hsource
  rw [symbols_map_inl] at hk
  have hnothing : lost = [] := by
    rcases hbodies : bodies.take k with - | ⟨body, later⟩
    · rw [hk, hbodies]
      rfl
    · have hmem : body ∈ bodies := List.mem_of_mem_take (hbodies ▸ List.mem_cons_self)
      rw [hbodies, encodeFrames_cons] at hk
      obtain ⟨_, hread', -⟩ := @readFrame_of_items reader body
        ((encodeFrames later).map .inl ++ .inr source :: rest.items) (hlim body hmem) (by
          rw [hitems, hk, List.map_append, List.append_assoc])
      rw [hread] at hread'
      cases (Prod.mk.inj hread').1
  rw [hnothing, List.map_nil, List.nil_append] at hitems
  rw [hitems] at hclean hstarts
  refine ⟨fun before error after heq htimeout ↦ ?_, hstarts⟩
  obtain ⟨k, hk⟩ := hclean (.inr source :: before) error after (by rw [heq]; rfl) htimeout
  exact ⟨k, hk⟩

/-- **The frames a receiver session decodes** are the first of those that were said. -/
theorem frames_of_run {format : WireFormat} {inputs : ℕ → RoundInput} {fuel round : ℕ}
    {session : ReceiverSession} {result : SessionEnd}
    (hrun : Loop.run (streamingBody format inputs) fuel (round, session) = some result)
    (hlim : ∀ body ∈ bodies, body.WithinLimits) (hclean : CleanTimeouts session.reader.items bodies)
    (hstarts : symbols session.reader.items <+: encodeFrames bodies) :
    ∃ frames, result.2.received = session.received ++ frames ∧
      frames.map Frame.toFrameBody <+: bodies := by
  -- each round reads the next of the frames, or a timeout between two of them
  induction fuel generalizing round session bodies with
  | zero => cases hrun
  | succ fuel ih =>
    have houtcome := streamingRound_outcome format (inputs round) session
    rcases hbody : streamingBody format inputs (round, session) with ⟨round', next⟩ | ⟨ended, final⟩
    · rw [Loop.run_succ_of_again hbody] at hrun
      rw [(streamingBody_again hbody).2] at houtcome
      cases houtcome with
      | @frame frame rest step running read effect =>
        cases effect with
        | again event isStreamed carried told =>
          obtain ⟨later, rfl, hrest⟩ := next_of_readFrame hlim read hstarts
          have hcleanRest := hclean.of_readFrame read
          obtain ⟨frames, hreceived, hfirst⟩ := ih hrun
            (fun body hmem ↦ hlim body (List.mem_cons_of_mem _ hmem))
            (by rw [carried.reader]; exact hcleanRest) (by rw [carried.reader]; exact hrest)
          refine ⟨frame :: frames, ?_, ?_⟩
          · rw [hreceived, carried.received, List.append_assoc]
            rfl
          · exact (List.prefix_cons_inj _).2 hfirst
      | timeout running read timeout =>
        obtain ⟨hcleanRest, hrest⟩ := next_of_timeout hlim read timeout hclean hstarts
        obtain ⟨frames, hreceived, hfirst⟩ := ih hrun hlim hcleanRest hrest
        exact ⟨frames, hreceived, hfirst⟩
    · rw [Loop.run_succ_of_done hbody] at hrun
      obtain rfl := Option.some.inj hrun
      rw [streamingBody_done hbody] at houtcome
      have hnone {final : ReceiverSession} (hreceived : final.received = session.received) :
          ∃ frames, final.received = session.received ++ frames ∧
            frames.map Frame.toFrameBody <+: bodies :=
        ⟨[], hreceived.trans (List.append_nil _).symm, List.nil_prefix⟩
      cases houtcome with
      | stopped stop carried => exact hnone carried.received
      | @frame frame rest step running read effect =>
        obtain ⟨later, rfl, -⟩ := next_of_readFrame hlim read hstarts
        have hone : [frame].map Frame.toFrameBody <+: frame.toFrameBody :: later :=
          (List.prefix_cons_inj _).2 List.nil_prefix
        cases effect with
        | announced last isEnd carried told => exact ⟨[frame], carried.received, hone⟩
        | silent streamed isStreamed carried untold => exact ⟨[frame], carried.received, hone⟩
      | failure running read timeout effect =>
        cases effect with
        | announced last isEnd carried told => exact hnone carried.received
        | silent streamed isStreamed carried untold => exact hnone carried.received

end Reading

/-! ### The reader thread -/

namespace SenderReader

variable {format : WireFormat} {heard : Bool} {thread : SenderReader}

/-- What a round of the reader thread has read. -/
inductive Reads (thread : SenderReader) : LoopStep SenderReader SenderReader → Prop
  | again {next : SenderReader} {frame : Frame}
      (read : readFrame thread.reader = (.ok frame, next.reader))
      (received : next.received = thread.received ++ [frame]) : Reads thread (.again next)
  | last {final : SenderReader} {frame : Frame} {rest : Reader}
      (read : readFrame thread.reader = (.ok frame, rest))
      (received : final.received = thread.received ++ [frame]) : Reads thread (.done final)
  | nothing {final : SenderReader} (received : final.received = thread.received) :
      Reads thread (.done final)

/-- A frame that is reported has been read. -/
theorem reads_report {frame : Frame} {rest : Reader} (event : InboundControl)
    (hread : readFrame thread.reader = (.ok frame, rest)) :
    Reads thread (SenderReader.report heard event { thread with
      reader := rest, received := thread.received ++ [frame] }) := by
  cases heard with
  | true => exact .again hread rfl
  | false => exact .last hread rfl

/-- So has one that is decoded first, or fails to be. -/
theorem reads_decoded {T : Type} {json : SerdeJson T} {frame : Frame} {rest : Reader}
    {event : T → InboundControl} (hread : readFrame thread.reader = (.ok frame, rest)) :
    Reads thread (SenderReader.decoded json heard frame event { thread with
      reader := rest, received := thread.received ++ [frame] }) := by
  rw [SenderReader.decoded]
  rcases decodeMetadata json frame with error | message
  · exact .last hread rfl
  · exact reads_report _ hread

/-- A round of the reader thread reads one frame, or ends. -/
theorem reads_round (format : WireFormat) (heard : Bool) (thread : SenderReader) :
    Reads thread (thread.round format heard) := by
  unfold SenderReader.round
  split
  next frame rest hread =>
    dsimp only
    split
    · exact reads_decoded hread
    · exact reads_decoded hread
    · exact reads_decoded hread
    · exact reads_report _ hread
    · exact reads_report _ hread
    · exact reads_report _ hread
    · exact reads_report _ hread
  · dsimp only
    split
    · split
      · exact .nothing rfl
      · exact .nothing rfl
    · exact .nothing rfl

theorem body_again {heard : ℕ → Bool} {index : ℕ} {next : ℕ × SenderReader}
    (h : SenderReader.body format heard (index, thread) = .again next) :
    thread.round format (heard index) = .again next.2 := by
  simp only [SenderReader.body] at h
  split at h
  next hround =>
    obtain rfl := LoopStep.again.inj h
    exact hround
  · cases h

theorem body_done {heard : ℕ → Bool} {index : ℕ} {final : SenderReader}
    (h : SenderReader.body format heard (index, thread) = .done final) :
    thread.round format (heard index) = .done final := by
  simp only [SenderReader.body] at h
  split at h
  · cases h
  next hround =>
    obtain rfl := LoopStep.done.inj h
    exact hround

/-- **The frames the reader thread decodes** are the first of those that were said. -/
theorem frames_of_run {heard : ℕ → Bool} {fuel index : ℕ} {final : SenderReader}
    {bodies : List FrameBody}
    (hrun : Loop.run (SenderReader.body format heard) fuel (index, thread) = some final)
    (hlim : ∀ body ∈ bodies, body.WithinLimits)
    (hstarts : symbols thread.reader.items <+: encodeFrames bodies) :
    ∃ frames, final.received = thread.received ++ frames ∧
      frames.map Frame.toFrameBody <+: bodies := by
  induction fuel generalizing index thread bodies with
  | zero => cases hrun
  | succ fuel ih =>
    have hreads := reads_round format (heard index) thread
    rcases hbody : SenderReader.body format heard (index, thread) with ⟨index', next⟩ | ended
    · rw [Loop.run_succ_of_again hbody] at hrun
      rw [body_again hbody] at hreads
      cases hreads with
      | @again _ frame read received =>
        obtain ⟨later, rfl, hrest⟩ := next_of_readFrame hlim read hstarts
        obtain ⟨frames, hreceived, hfirst⟩ := ih hrun
          (fun body hmem ↦ hlim body (List.mem_cons_of_mem _ hmem)) hrest
        refine ⟨frame :: frames, ?_, (List.prefix_cons_inj _).2 hfirst⟩
        rw [hreceived, received, List.append_assoc]
        rfl
    · rw [Loop.run_succ_of_done hbody] at hrun
      obtain rfl := Option.some.inj hrun
      rw [body_done hbody] at hreads
      cases hreads with
      | @last _ frame rest read received =>
        obtain ⟨later, rfl, -⟩ := next_of_readFrame hlim read hstarts
        exact ⟨[frame], received, (List.prefix_cons_inj _).2 List.nil_prefix⟩
      | nothing received => exact ⟨[], received.trans (List.append_nil _).symm, List.nil_prefix⟩

/-- **The reader thread ends** when its stream does. -/
theorem senderReaderLoop_isSome (format : WireFormat) (heard : ℕ → Bool) (reader : Reader) :
    (senderReaderLoop format heard reader).isSome := by
  refine @Loop.run_isSome _ _ _ (fun _ ↦ True) (fun state ↦ state.2.reader.items.length)
    (fun state next _ h ↦ ⟨trivial, ?_⟩) _ _ trivial (Nat.lt_succ_self _)
  have hreads := reads_round format (heard state.1) state.2
  rw [body_again h] at hreads
  cases hreads with
  | again read received => exact items_lt_of_readFrame_ok read

end SenderReader

/-! ### The two languages -/

/-- Frames a sender may say behind its `Hello`: the receiver's streaming loop expects them. -/
def FrameKind.isStreaming : FrameKind → Bool
  | .audio | .heartbeat | .stop => true
  | _ => false

/-- Frames a receiver may say behind its `Accept`: the sender's reader thread expects them. -/
def FrameKind.isAnswer : FrameKind → Bool
  | .heartbeatAck | .stop | .error => true
  | _ => false

/-- The frame of a message has its kind, and is within the limits. -/
theorem SerdeJson.kind_of_frame? {T : Type} {json : SerdeJson T} {kind : FrameKind} {message : T}
    {payload : List UInt8} {body : FrameBody} (h : json.frame? kind message payload = some body) :
    body.WithinLimits ∧ body.kind = kind := by
  obtain ⟨hkind, -, -, hlim⟩ := SerdeJson.frame?_eq_some h
  exact ⟨hlim, hkind⟩

/-- What a sender says is streaming. -/
theorem SenderMessage.kind_of_frame? {format : WireFormat} {message : SenderMessage}
    {body : FrameBody} (h : message.frame? format = some body) :
    body.WithinLimits ∧ body.kind.isStreaming = true := by
  cases message with
  | audio frame =>
    obtain ⟨hlim, hkind⟩ := SerdeJson.kind_of_frame? h
    exact ⟨hlim, by rw [hkind]; rfl⟩
  | heartbeat nonce =>
    obtain ⟨hlim, hkind⟩ := SerdeJson.kind_of_frame? h
    exact ⟨hlim, by rw [hkind]; rfl⟩
  | stop reason =>
    obtain ⟨hlim, hkind⟩ := SerdeJson.kind_of_frame? h
    exact ⟨hlim, by rw [hkind]; rfl⟩

/-- So are all the frames of a session behind its `Hello`. -/
theorem VoicedSession.kind_of_bodies {format : WireFormat} {voiced : VoicedSession}
    {body : FrameBody} (h : body ∈ voiced.bodies format) :
    body.WithinLimits ∧ body.kind.isStreaming = true := by
  obtain ⟨message, -, hframe⟩ := List.mem_filterMap.1 h
  exact SenderMessage.kind_of_frame? hframe

/-- What a receiver says is an answer, or the `Accept` in front of them. -/
theorem ReceiverMessage.kind_of_frame? {format : WireFormat} {message : ReceiverMessage}
    {body : FrameBody} (h : message.frame? format = some body) :
    body.WithinLimits ∧ (body.kind.isAnswer = true ∨
      body.kind = .accept ∧ ∃ accept, message = .accept accept) := by
  cases message with
  | accept accept =>
    obtain ⟨hlim, hkind⟩ := SerdeJson.kind_of_frame? h
    exact ⟨hlim, Or.inr ⟨hkind, accept, rfl⟩⟩
  | heartbeatAck message =>
    obtain ⟨hlim, hkind⟩ := SerdeJson.kind_of_frame? h
    exact ⟨hlim, Or.inl (by rw [hkind]; rfl)⟩
  | stop message =>
    obtain ⟨hlim, hkind⟩ := SerdeJson.kind_of_frame? h
    exact ⟨hlim, Or.inl (by rw [hkind]; rfl)⟩
  | error message =>
    obtain ⟨hlim, hkind⟩ := SerdeJson.kind_of_frame? h
    exact ⟨hlim, Or.inl (by rw [hkind]; rfl)⟩

/-- The frames of messages none of which is an `Accept`. -/
theorem kind_of_receiverFrames {format : WireFormat} {said : List ReceiverMessage}
    (hsaid : ∀ accept, .accept accept ∉ said) {body : FrameBody}
    (h : body ∈ receiverFrames format said) : body.kind.isAnswer = true := by
  obtain ⟨message, hmem, hframe⟩ := List.mem_filterMap.1 h
  obtain ⟨-, hanswer | ⟨-, accept, rfl⟩⟩ := ReceiverMessage.kind_of_frame? hframe
  · exact hanswer
  · exact absurd hmem (hsaid accept)

/-- Its frames are within the limits. -/
theorem withinLimits_of_receiverFrames {format : WireFormat} {said : List ReceiverMessage} :
    ∀ body ∈ receiverFrames format said, body.WithinLimits := by
  intro body hmem
  obtain ⟨message, -, hframe⟩ := List.mem_filterMap.1 hmem
  exact (ReceiverMessage.kind_of_frame? hframe).1

/-- Acknowledgements and a farewell contain no `Accept`. -/
theorem Farewell.no_accept {farewell : List ReceiverMessage} (h : Farewell farewell)
    (acked : List HeartbeatMessage) (accept : AcceptMessage) :
    .accept accept ∉ acked.map ReceiverMessage.heartbeatAck ++ farewell := by
  intro hmem
  rcases List.mem_append.1 hmem with hacked | hfarewell
  · obtain ⟨message, -, hmessage⟩ := List.mem_map.1 hacked
    exact ReceiverMessage.noConfusion hmessage
  · rcases h with rfl | ⟨message, rfl, hlast⟩
    · exact absurd hfarewell List.not_mem_nil
    · rw [← List.mem_singleton.1 hfarewell] at hlast
      exact absurd hlast Bool.false_ne_true

/-- A handshake that succeeds has read one frame, and that was a `Hello`. -/
theorem read_of_handshake {format : WireFormat} {args : SessionArgs} {setup : SessionSetup}
    {session after : ReceiverSession}
    (hshake : handshake format args setup session = (.ok (), after)) :
    ∃ frame, readFrame session.reader = (.ok frame, after.reader) := by
  unfold handshake at hshake
  split at hshake
  · cases hshake
  split at hshake
  · cases hshake
  split at hshake
  · cases hshake
  next frame rest hread =>
  dsimp only at hshake
  split at hshake
  · split at hshake <;> cases hshake
  split at hshake
  · cases hshake
  next hello hdecode =>
  split at hshake
  · cases hshake
  refine ⟨frame, hread.trans (Prod.ext rfl ?_)⟩
  rcases hwrite : writeMessage format.accept .accept (acceptFor args hello) [] session.writer with
    ⟨error | size, socket⟩
  · simp only [ReceiverSession.send, hwrite] at hshake
    cases hshake
  · simp only [ReceiverSession.send, hwrite] at hshake
    rcases hanswer : setup.onConnected with error | ⟨⟩
    · rw [hanswer] at hshake
      cases hshake
    · rw [hanswer] at hshake
      obtain ⟨-, rfl⟩ := Prod.mk.inj hshake
      rfl

section Ends

variable {format : WireFormat} {args : SessionArgs} {setup : SessionSetup} {inputs : ℕ → RoundInput}
  {reader : Reader} {writer : Writer} {result : Except TransportError Unit} {final : ReceiverSession}

/-- **What a receiver decodes behind the `Hello`** are the first of the frames that were said. -/
theorem received_of_delivers {bodies : List FrameBody}
    (hrun : handleReceiverSession format args setup inputs reader writer = some (result, final))
    (hlim : ∀ body ∈ bodies, body.WithinLimits) (hclean : CleanTimeouts reader.items bodies)
    (hdelivers : reader.Delivers (encodeFrames bodies)) :
    final.received.map Frame.toFrameBody <+: bodies.tail := by
  have hsays := says_handshake format args setup reader writer
  rw [handleReceiverSession] at hrun
  rcases hshake : handshake format args setup { reader, writer } with ⟨error | ⟨⟩, session⟩
  · have hnothing : session.received = [] := by
      rw [hshake] at hsays
      cases hsays with
      | abandoned received wrote => exact received
      | silent received wrote => exact received
      | unexpected received wrote read kind => exact received
    rw [hshake] at hrun
    obtain ⟨-, rfl⟩ := Prod.mk.inj (Option.some.inj hrun)
    rw [hnothing]
    exact List.nil_prefix
  · obtain ⟨hello, hread⟩ := read_of_handshake hshake
    obtain ⟨later, rfl, hrest⟩ := next_of_readFrame hlim hread hdelivers
    rw [hshake] at hrun hsays
    obtain ⟨frames, hreceived, hfirst⟩ := frames_of_run hrun
      (fun body hmem ↦ hlim body (List.mem_cons_of_mem _ hmem)) (hclean.of_readFrame hread) hrest
    cases hsays with
    | accepted received wrote encodes =>
      rw [show final.received = _ from hreceived, received]
      exact hfirst

/-- **What a receiver says to a `Hello`**: an `Accept` first, and only answers behind it. -/
theorem answers_of_receiver
    (hrun : handleReceiverSession format args setup inputs reader writer = some (result, final))
    (hfresh : writer.written = [])
    (hhello : ∀ frame rest, readFrame reader = (.ok frame, rest) → frame.kind = .hello) :
    ∃ bodies, final.writer.written <+: encodeFrames bodies ∧
      (∀ body ∈ bodies, body.WithinLimits) ∧ (∀ body ∈ bodies.head?, body.kind = .accept) ∧
      ∀ body ∈ bodies.tail, body.kind.isAnswer = true := by
  obtain ⟨accepts, acked, farewell, hwrote, hunbroken, -, hlast, haccepts⟩ := receiver_speech hrun
  have hcut := hwrote.cut
  rw [hfresh, List.nil_append] at hcut
  rcases haccepts with ⟨hello, rfl⟩ | ⟨rfl, -, rfl, rfl | ⟨frame, rest, hread, hkind⟩⟩
  · rcases haccept : (ReceiverMessage.accept (acceptFor args hello)).frame? format with - | accept
    · -- an `Accept` that has no frame is the last the receiver tries to say
      have hnothing : acked.map ReceiverMessage.heartbeatAck ++ farewell = [] := by
        by_contra hmore
        have hencodes := hunbroken (.accept (acceptFor args hello)) (by
          rw [List.dropLast_append_of_ne_nil hmore]
          exact List.mem_cons_self)
        rw [haccept] at hencodes
        exact Bool.false_ne_true hencodes
      refine ⟨[], ?_, ?_, ?_, ?_⟩
      · rw [hnothing, List.append_nil, receiverFrames_singleton, haccept] at hcut
        exact hcut
      · exact fun body hmem ↦ absurd hmem List.not_mem_nil
      · exact fun body hmem ↦ absurd hmem (Option.not_mem_none body)
      · exact fun body hmem ↦ absurd hmem List.not_mem_nil
    · have hframes : receiverFrames format ([.accept (acceptFor args hello)] ++
          (acked.map .heartbeatAck ++ farewell)) =
          accept :: receiverFrames format (acked.map .heartbeatAck ++ farewell) := by
        rw [receiverFrames_append, receiverFrames_singleton, haccept]
        rfl
      refine ⟨_, hcut, withinLimits_of_receiverFrames, fun body hmem ↦ ?_, fun body hmem ↦ ?_⟩
      · rw [hframes] at hmem
        obtain rfl := Option.some.inj hmem
        exact (SerdeJson.kind_of_frame? haccept).2
      · rw [hframes] at hmem
        exact kind_of_receiverFrames (hlast.no_accept acked) hmem
  · exact ⟨_, hcut, withinLimits_of_receiverFrames,
      fun body hmem ↦ absurd hmem (Option.not_mem_none body),
      fun body hmem ↦ absurd hmem List.not_mem_nil⟩
  · exact absurd (hhello frame rest hread) hkind

end Ends

/-- The frame an open session has said `Hello` with. -/
theorem helloFrame_of_connect {secsF64 : SecsF64} {format : WireFormat} {env : ConnectEnv}
    {stream : TcpStream} {target : SenderTarget} {attemptCount : ℕ} {request : TargetConnectRequest}
    {session : ManagedTargetSession}
    (h : ManagedTargetSession.connect secsF64 format env stream target attemptCount request =
      .ok session) :
    ∃ hello, format.hello.frame? .hello (ManagedTargetSession.helloFor env target request) [] =
        some hello ∧ hello.kind = .hello ∧ hello.WithinLimits ∧
      VoicedSession.helloFrame format env target request = [hello] := by
  obtain ⟨size, hsent⟩ := (ManagedTargetSession.connect_agrees h).sent
  obtain ⟨-, hencodes⟩ := wrote_writeMessage format.hello .hello
    (ManagedTargetSession.helloFor env target request) [] env.writer
  obtain ⟨hello, hhello⟩ := Option.isSome_iff_exists.1 (hencodes (congrArg Except.isOk hsent))
  obtain ⟨hlim, hkind⟩ := SerdeJson.kind_of_frame? hhello
  exact ⟨hello, hhello, hkind, hlim, congrArg Option.toList hhello⟩

/-! ### Both ends -/

/-- **Sender and receiver speak the same language.**

* Whatever steps a session and its writer thread take, and in whatever order, the socket carries the
  encodings of one `Hello` and of what the thread has said: the audio frames in the order in which they
  were queued, the heartbeats numbered from 1, at most one `Stop` and nothing behind it. A write that
  fails may cut the last frame.
* The socket of a receiver session carries at most one `Accept`, then acknowledgements and at most one
  `Stop` or `Error`. Every heartbeat it decodes is acknowledged with its own nonce, in order, except one
  whose `KeepAlive` the callback refuses: that one is not acknowledged, it is the last to be heard, the
  round that reads it is the last of the session, and the session ends with the refusal.
* Over a connection that delivers in order what was written, the first frame a sender reads is an
  `Accept`, and the first frame a receiver reads is a `Hello`.
* If moreover no timeout comes inside a frame, the frames the receiver decodes while it streams, and
  those the sender's reader thread decodes, are all of a kind that side expects. -/
theorem same_language :
    (∀ (secsF64 : SecsF64) (format : WireFormat) (env : ConnectEnv) (stream : TcpStream)
      (target : SenderTarget) (attemptCount : ℕ) (request : TargetConnectRequest)
      (session : ManagedTargetSession) (steps : List VoicedInput) (voiced : VoicedSession),
      env.writer.written = [] →
      ManagedTargetSession.connect secsF64 format env stream target attemptCount request =
        .ok session →
      Transition.run (VoicedSession.step format)
        (VoicedSession.start format env target request session) steps = some voiced →
      ∃ hello, format.hello.frame? .hello (ManagedTargetSession.helloFor env target request) [] =
          some hello ∧
        voiced.writer.socket.written <+: encodeFrames (hello :: voiced.bodies format) ∧
        (voiced.writer.phase ≠ .ended ∨ env.writer.Reliable →
          voiced.writer.socket.written = encodeFrames (hello :: voiced.bodies format)) ∧
        SenderSpeech format voiced.pushed voiced.said) ∧
    (∀ (format : WireFormat) (args : SessionArgs) (setup : SessionSetup) (inputs : ℕ → RoundInput)
      (reader : Reader) (writer : Writer) (result : Except TransportError Unit)
      (final : ReceiverSession), writer.written = [] →
      handleReceiverSession format args setup inputs reader writer = some (result, final) →
      ∃ accepts acked farewell,
        final.writer.written <+: encodeFrames
          (receiverFrames format (accepts ++ (acked.map .heartbeatAck ++ farewell))) ∧
        (writer.Reliable → final.writer.written = encodeFrames
          (receiverFrames format (accepts ++ (acked.map .heartbeatAck ++ farewell)))) ∧
        Unbroken format (accepts ++ (acked.map .heartbeatAck ++ farewell)) ∧
        (accepts = [] ∨ ∃ hello, accepts = [.accept (acceptFor args hello)]) ∧
        Acknowledged (heartbeatsOf format final.received) acked
          (SessionEndsByRefusal format args setup inputs reader writer result final) ∧
        Farewell farewell) ∧
    (∀ (format : WireFormat) (env : ConnectEnv) (target : SenderTarget)
      (request : TargetConnectRequest) (size : ℕ) (later : List UInt8) (args : SessionArgs)
      (setup : SessionSetup) (inputs : ℕ → RoundInput) (reader : Reader) (writer : Writer)
      (result : Except TransportError Unit) (final : ReceiverSession),
      env.writer.written = [] → writer.written = [] →
      (writeMessage format.hello .hello (ManagedTargetSession.helloFor env target request) []
        env.writer).1 = .ok size →
      reader.Delivers ((writeMessage format.hello .hello
        (ManagedTargetSession.helloFor env target request) [] env.writer).2.written ++ later) →
      handleReceiverSession format args setup inputs reader writer = some (result, final) →
      env.reader.Delivers final.writer.written →
      (∀ frame rest, readFrame reader = (.ok frame, rest) → frame.kind = .hello) ∧
        ∀ frame rest, readFrame env.reader = (.ok frame, rest) → frame.kind = .accept) ∧
    (∀ (secsF64 : SecsF64) (format : WireFormat) (env : ConnectEnv) (stream : TcpStream)
      (target : SenderTarget) (attemptCount : ℕ) (request : TargetConnectRequest)
      (session : ManagedTargetSession) (steps : List VoicedInput) (voiced : VoicedSession)
      (args : SessionArgs) (setup : SessionSetup) (inputs : ℕ → RoundInput) (reader : Reader)
      (writer : Writer) (result : Except TransportError Unit) (final : ReceiverSession),
      env.writer.written = [] → writer.written = [] →
      ManagedTargetSession.connect secsF64 format env stream target attemptCount request =
        .ok session →
      Transition.run (VoicedSession.step format)
        (VoicedSession.start format env target request session) steps = some voiced →
      reader.Delivers voiced.writer.socket.written →
      CleanTimeouts reader.items
        (VoicedSession.helloFrame format env target request ++ voiced.bodies format) →
      handleReceiverSession format args setup inputs reader writer = some (result, final) →
      env.reader.Delivers final.writer.written →
      (∀ frame ∈ final.received, frame.kind.isStreaming = true) ∧
        ∀ frame rest, readFrame env.reader = (.ok frame, rest) →
          ∀ heard thread, senderReaderLoop format heard rest = some thread →
            ∀ frame ∈ thread.received, frame.kind.isAnswer = true) := by
  refine ⟨?_, ?_, ?_, ?_⟩
  · intro secsF64 format env stream target attemptCount request session steps voiced hfresh hconnect
      hrun
    obtain ⟨hello, hhello, -, -, hframe⟩ := helloFrame_of_connect hconnect
    obtain ⟨hwrote, hspeech⟩ := VoicedSession.sender_speech hconnect hrun
    have hcut := hwrote.cut
    have hall := hwrote.all
    rw [hfresh, hframe, List.nil_append, List.singleton_append] at hcut hall
    exact ⟨hello, hhello, hcut, hall, hspeech⟩
  · intro format args setup inputs reader writer result final hfresh hrun
    obtain ⟨accepts, acked, farewell, hwrote, hunbroken, hacked, hlast, haccepts⟩ :=
      receiver_speech hrun
    have hcut := hwrote.cut
    have hall := hwrote.all
    rw [hfresh, List.nil_append] at hcut hall
    exact ⟨accepts, acked, farewell, hcut, fun hrel ↦ hall (Or.inr hrel), hunbroken,
      haccepts.symm.imp_left And.left, hacked, hlast⟩
  · intro format env target request size later args setup inputs reader writer result final hsender
      hreceiver hsent hdelivers hrun hanswered
    obtain ⟨metadata, -, hlim, hwritten⟩ := writeMessage_written (Prod.ext hsent rfl)
    have hhello (frame : Frame) (rest : Reader) (hread : readFrame reader = (.ok frame, rest)) :
        frame.kind = .hello := by
      rw [Reader.Delivers, hwritten, hsender, List.nil_append] at hdelivers
      exact congrArg FrameBody.kind (readFrame_of_starts hlim hread hdelivers)
    refine ⟨hhello, fun frame rest hread ↦ ?_⟩
    obtain ⟨bodies, hbodies, hwithin, haccept, -⟩ := answers_of_receiver hrun hreceiver hhello
    obtain ⟨later, rfl, -⟩ := next_of_readFrame hwithin hread (hanswered.trans hbodies)
    exact haccept frame.toFrameBody rfl
  · intro secsF64 format env stream target attemptCount request session steps voiced args setup inputs
      reader writer result final hsender hreceiver hconnect hvoiced hdelivers hclean hrun hanswered
    obtain ⟨hello, -, hkind, hlim, hframe⟩ := helloFrame_of_connect hconnect
    obtain ⟨hwrote, -⟩ := VoicedSession.sender_speech hconnect hvoiced
    have hcut := hwrote.cut
    rw [hframe, List.singleton_append] at hclean
    rw [hsender, hframe, List.nil_append, List.singleton_append] at hcut
    have hwithin : ∀ body ∈ hello :: voiced.bodies format, body.WithinLimits := by
      intro body hmem
      rcases List.mem_cons.1 hmem with rfl | hsaid
      · exact hlim
      · exact (VoicedSession.kind_of_bodies hsaid).1
    have hstarts := hdelivers.trans hcut
    refine ⟨fun frame hmem ↦ ?_, fun frame rest hread heard thread hthread frame' hmem ↦ ?_⟩
    · have hfirst := received_of_delivers hrun hwithin hclean hstarts
      exact (VoicedSession.kind_of_bodies (hfirst.subset (List.mem_map_of_mem hmem))).2
    · obtain ⟨bodies, hbodies, hwithin', -, hanswers⟩ := answers_of_receiver hrun hreceiver (by
        intro frame rest hread
        obtain ⟨later, heq, -⟩ := next_of_readFrame hwithin hread hstarts
        rw [(List.cons.inj heq).1] at hkind
        exact hkind)
      obtain ⟨later, rfl, hrest⟩ := next_of_readFrame hwithin' hread (hanswered.trans hbodies)
      obtain ⟨frames, hreceived, hfirst⟩ := SenderReader.frames_of_run hthread
        (fun body hbody ↦ hwithin' body (List.mem_cons_of_mem _ hbody)) hrest
      rw [hreceived, List.nil_append] at hmem
      exact hanswers _ (hfirst.subset (List.mem_map_of_mem hmem))

/-! ### A conversation -/

namespace Sample

/-- A heartbeat, a frame and the end of a session. -/
def saidSteps : List VoicedInput :=
  [.tick 0 { now := fun _ ↦ 0 }, .control true, .noControl, .pushFrame {} ⟨0, 10, 20, [1, 2, 3, 4]⟩,
    .frame true, .stop "done", .control true]

def saidBytes : List UInt8 :=
  encodeFrames [⟨.hello, SerdeJson.asciiBytes senderHelloJson, []⟩,
    ⟨.heartbeat, SerdeJson.asciiBytes heartbeatJson, []⟩,
    ⟨.audio, SerdeJson.asciiBytes audioJson, [1, 2, 3, 4]⟩,
    ⟨.stop, SerdeJson.asciiBytes stopJson, []⟩]

def answerBytes : List UInt8 :=
  encodeFrames [⟨.accept, SerdeJson.asciiBytes senderAcceptJson, []⟩,
    ⟨.heartbeatAck, SerdeJson.asciiBytes heartbeatJson, []⟩]

/-- The sender's end of the connection. -/
def answered : ConnectEnv := { accepted with reader := ReadScript.ofList answerBytes }

end Sample

/-- Both ends of one conversation. -/
theorem same_language_spoken :
    ∃ session voiced result final frame rest thread,
      ManagedTargetSession.connect Sample.secsF64 Sample.senderFormat Sample.answered ⟨0⟩
          (Sample.senderTarget 51700) 1 Sample.connectRequest = .ok session ∧
        Transition.run (VoicedSession.step Sample.senderFormat)
          (VoicedSession.start Sample.senderFormat Sample.answered (Sample.senderTarget 51700)
            Sample.connectRequest session) Sample.saidSteps = some voiced ∧
        voiced.said = [.heartbeat 1, .audio ⟨0, 10, 20, [1, 2, 3, 4]⟩, .stop "done"] ∧
        handleReceiverSession Sample.senderFormat Sample.args Sample.setup Sample.calm
            (ReadScript.ofList Sample.saidBytes) .empty = some (result, final) ∧
        final.received.map (fun frame ↦ frame.kind) = [.heartbeat, .audio, .stop] ∧
        readFrame Sample.answered.reader = (.ok frame, rest) ∧
        senderReaderLoop Sample.senderFormat (fun _ ↦ true) rest = some thread ∧
        SenderSpeech Sample.senderFormat voiced.pushed voiced.said ∧
        frame.kind = .accept ∧
        (∃ acked, Acknowledged (heartbeatsOf Sample.senderFormat final.received) acked
          (SessionEndsByRefusal Sample.senderFormat Sample.args Sample.setup Sample.calm
            (ReadScript.ofList Sample.saidBytes) .empty result final)) ∧
        (∀ frame ∈ final.received, frame.kind.isStreaming = true) ∧
        ∀ frame ∈ thread.received, frame.kind.isAnswer = true := by
  have hsender : ((ManagedTargetSession.connect Sample.secsF64 Sample.senderFormat Sample.answered ⟨0⟩
      (Sample.senderTarget 51700) 1 Sample.connectRequest).toOption.bind fun session ↦
        Transition.run (VoicedSession.step Sample.senderFormat)
          (VoicedSession.start Sample.senderFormat Sample.answered (Sample.senderTarget 51700)
            Sample.connectRequest session) Sample.saidSteps).map
        (fun voiced ↦ (voiced.said, voiced.writer.socket.written)) =
      some ([.heartbeat 1, .audio ⟨0, 10, 20, [1, 2, 3, 4]⟩, .stop "done"], Sample.saidBytes) := by
    decide +kernel
  have hreceiver : (handleReceiverSession Sample.senderFormat Sample.args Sample.setup Sample.calm
      (ReadScript.ofList Sample.saidBytes) .empty).map (fun ended ↦
        (ended.2.received.map (fun frame ↦ frame.kind), ended.2.writer.written)) =
      some ([.heartbeat, .audio, .stop], Sample.answerBytes) := by decide +kernel
  have hfirst : (readFrame Sample.answered.reader).1.isOk = true := by decide +kernel
  obtain ⟨voiced, hvoiced, hsaid⟩ := Option.map_eq_some_iff.1 hsender
  obtain ⟨hsaid, hwritten⟩ := Prod.mk.inj hsaid
  obtain ⟨session, hsession, hrun⟩ := Option.bind_eq_some_iff.1 hvoiced
  obtain ⟨⟨result, final⟩, hended, hfinal⟩ := Option.map_eq_some_iff.1 hreceiver
  obtain ⟨hkinds, hanswer⟩ := Prod.mk.inj hfinal
  rcases hconnect : ManagedTargetSession.connect Sample.secsF64 Sample.senderFormat Sample.answered
      ⟨0⟩ (Sample.senderTarget 51700) 1 Sample.connectRequest with failure | opened
  · rw [hconnect] at hsession
    cases hsession
  rw [hconnect] at hsession
  obtain rfl := Option.some.inj hsession
  rcases hread : readFrame Sample.answered.reader with ⟨error | frame, rest⟩
  · rw [hread] at hfirst
    cases hfirst
  obtain ⟨thread, hthread⟩ := Option.isSome_iff_exists.1
    (SenderReader.senderReaderLoop_isSome Sample.senderFormat (fun _ ↦ true) rest)
  have hsends : Reader.Delivers (ReadScript.ofList Sample.saidBytes) voiced.writer.socket.written := by
    rw [Reader.Delivers, Reader.items, ReadScript.items_ofList, ReadScript.symbols_map_inl, hwritten]
  have hanswers : Reader.Delivers Sample.answered.reader final.writer.written := by
    show ReadScript.symbols (Reader.items (ReadScript.ofList Sample.answerBytes)) <+: _
    rw [Reader.items, ReadScript.items_ofList, ReadScript.symbols_map_inl,
      show final.writer.written = _ from hanswer]
  have hclean : CleanTimeouts (Reader.items (ReadScript.ofList Sample.saidBytes))
      (VoicedSession.helloFrame Sample.senderFormat Sample.answered (Sample.senderTarget 51700)
        Sample.connectRequest ++ voiced.bodies Sample.senderFormat) := by
    rw [Reader.items, ReadScript.items_ofList]
    exact .of_bytes _ _
  obtain ⟨hello, -, -, -, hspeech⟩ := same_language.1 _ _ _ _ _ _ _ _ _ _ rfl hconnect hrun
  obtain ⟨-, acked, -, -, -, -, -, hacked, -⟩ := same_language.2.1 _ _ _ _ _ _ _ _ rfl hended
  obtain ⟨size, hsent⟩ := (ManagedTargetSession.connect_agrees hconnect).sent
  have hstarts : (writeMessage Sample.senderFormat.hello .hello (ManagedTargetSession.helloFor
      Sample.answered (Sample.senderTarget 51700) Sample.connectRequest) []
        Sample.answered.writer).2.written <+: Sample.saidBytes := by decide +kernel
  obtain ⟨later, hlater⟩ := hstarts
  have hhello : Reader.Delivers (ReadScript.ofList Sample.saidBytes)
      ((writeMessage Sample.senderFormat.hello .hello (ManagedTargetSession.helloFor Sample.answered
        (Sample.senderTarget 51700) Sample.connectRequest) [] Sample.answered.writer).2.written ++
          later) := by
    rw [hlater]
    exact hwritten ▸ hsends
  have haccept := (same_language.2.2.1 Sample.senderFormat Sample.answered (Sample.senderTarget 51700)
    Sample.connectRequest size later _ _ _ _ _ _ _ rfl rfl hsent hhello hended
    hanswers).2 frame rest hread
  obtain ⟨hstreaming, hthreads⟩ := same_language.2.2.2 _ _ _ _ _ _ _ _ _ _ _ _ _ _ _ _ _ rfl rfl
    hconnect hrun hsends hclean hended hanswers
  exact ⟨_, voiced, result, final, frame, rest, thread, rfl, hrun, hsaid, hended, hkinds, rfl, hthread,
    hspeech, haccept, ⟨acked, hacked⟩, hstreaming, hthreads frame rest hread _ thread hthread⟩

/-- A heartbeat is heard and not acknowledged: the receiver's own callback refuses it. -/
theorem heartbeat_unacknowledged :
    (handleReceiverSession Sample.senderFormat Sample.args Sample.setup
        (fun _ ↦ ⟨false, .error .channelClosed⟩)
        (ReadScript.ofList (encodeFrames [⟨.hello, SerdeJson.asciiBytes Sample.senderHelloJson, []⟩,
          ⟨.heartbeat, SerdeJson.asciiBytes Sample.heartbeatJson, []⟩])) .empty).map
      (fun ended ↦ (ended.1.isOk, heartbeatsOf Sample.senderFormat ended.2.received,
        ended.2.writer.written)) =
    some (false, [⟨1⟩],
      encodeFrames [⟨.accept, SerdeJson.asciiBytes Sample.senderAcceptJson, []⟩]) := by
  decide +kernel

end SynchroSonic
