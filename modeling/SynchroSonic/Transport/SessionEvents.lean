import SynchroSonic.Transport.SessionRounds

/-!
# What a session tells the runtime

A session that got through its handshake has handed `Connected` to the runtime, and the runtime keeps
a playback sink open for it from then on. `AnnouncesEnd` is the protocol a well-behaved session
follows: `Connected`, then audio and keepalives, then one event that says it is over.

The loop does not always follow it. `session_announces_end_iff` says when: in every round that is
reached, `roundReports` holds of the state in front of the round. The other rounds leave the
function without a word — a requested stop, metadata that does not decode, a frame that has no place
in a stream, an acknowledgement that cannot be written, a callback that refuses.
-/

namespace SynchroSonic

/-- `Connected`, then events of a running stream. -/
def IsStreaming (events : List ReceiverTransportEvent) : Prop :=
  ∃ connection streamed, events = .connected connection :: streamed ∧
    ∀ event ∈ streamed, event.isStreamed = true

/-- `Connected`, then events of a running stream, then exactly one event that ends it. -/
def AnnouncesEnd (events : List ReceiverTransportEvent) : Prop :=
  ∃ connection streamed last, events = .connected connection :: (streamed ++ [last]) ∧
    (∀ event ∈ streamed, event.isStreamed = true) ∧ last.isEnd = true

theorem IsStreaming.append {events streamed : List ReceiverTransportEvent}
    (h : IsStreaming events) (hstreamed : ∀ event ∈ streamed, event.isStreamed = true) :
    IsStreaming (events ++ streamed) := by
  obtain ⟨connection, before, rfl, hbefore⟩ := h
  refine ⟨connection, before ++ streamed, rfl, fun event hmem ↦ ?_⟩
  rcases List.mem_append.1 hmem with hmem | hmem
  · exact hbefore event hmem
  · exact hstreamed event hmem

theorem IsStreaming.announcesEnd {events : List ReceiverTransportEvent}
    {last : ReceiverTransportEvent} (h : IsStreaming events) (hlast : last.isEnd = true) :
    AnnouncesEnd (events ++ [last]) := by
  obtain ⟨connection, before, rfl, hbefore⟩ := h
  exact ⟨connection, before, last, rfl, hbefore, hlast⟩

theorem IsStreaming.not_announcesEnd {events : List ReceiverTransportEvent}
    (h : IsStreaming events) : ¬ AnnouncesEnd events := by
  obtain ⟨connection, streamed, rfl, hstreamed⟩ := h
  rintro ⟨connection', streamed', last, heq, -, hlast⟩
  obtain ⟨-, rfl⟩ := List.cons.inj heq
  have hmem := hstreamed last (by simp)
  cases last <;> simp [ReceiverTransportEvent.isStreamed, ReceiverTransportEvent.isEnd] at hmem hlast

/-! ### The handshake -/

theorem emitted_of_send {T : Type} {json : SerdeJson T} {kind : FrameKind} {message : T}
    {session after : ReceiverSession} {result : Except TransportError ℕ}
    (h : session.send json kind message = (result, after)) : after.emitted = session.emitted := by
  rw [← (Prod.mk.inj h).2]

/-- A handshake announces the connection, or it fails without a word. -/
theorem handshake_emitted (format : WireFormat) (args : SessionArgs) (setup : SessionSetup)
    {session after : ReceiverSession} {result : Except TransportError Unit}
    (hsession : session.emitted = []) (h : handshake format args setup session = (result, after)) :
    (∃ error, result = .error error ∧ after.emitted = []) ∨
      (∃ connection, result = .ok () ∧ after.emitted = [.connected connection]) := by
  have hfailed {error : TransportError} {failed : ReceiverSession}
      (h : (Except.error error, failed) = (result, after)) (hnone : failed.emitted = []) :
      (∃ error, result = .error error ∧ after.emitted = []) ∨
        (∃ connection, result = .ok () ∧ after.emitted = [.connected connection]) := by
    obtain ⟨rfl, rfl⟩ := Prod.mk.inj h
    exact Or.inl ⟨error, rfl, hnone⟩
  unfold handshake at h
  split at h
  · exact hfailed h hsession
  split at h
  · exact hfailed h hsession
  split at h
  · exact hfailed h hsession
  next frame reader hread =>
  dsimp only at h
  split at h
  · split at h
    next hsend => exact hfailed h ((emitted_of_send hsend).trans hsession)
    next hsend => exact hfailed h ((emitted_of_send hsend).trans hsession)
  split at h
  · exact hfailed h hsession
  next hello hdecode =>
  split at h
  · exact hfailed h hsession
  split at h
  next hsend => exact hfailed h ((emitted_of_send hsend).trans hsession)
  next sent sender hsend =>
  have hsent : sender.emitted = [] := (emitted_of_send hsend).trans hsession
  -- `Connected` is the last thing a handshake does, so every failure comes before it
  rcases hanswer : setup.onConnected with error | ⟨⟩
  · simp only [ReceiverSession.emit, hanswer] at h
    exact hfailed h hsent
  · simp only [ReceiverSession.emit, hanswer, hsent] at h
    obtain ⟨rfl, rfl⟩ := Prod.mk.inj h
    exact Or.inr ⟨_, rfl, rfl⟩

/-! ### The loop -/

section Loop

variable {format : WireFormat} {inputs : ℕ → RoundInput} {session : ReceiverSession}

/-- The loop never announces an end and goes on. -/
theorem isStreaming_of_visits (hsession : IsStreaming session.emitted)
    {state : ℕ × ReceiverSession}
    (hvisits : Loop.Visits (streamingBody format inputs) (0, session) state) :
    IsStreaming state.2.emitted := by
  refine @Loop.Visits.invariant _ _ _ (fun state ↦ IsStreaming state.2.emitted)
    (fun before after hbefore hagain ↦ ?_) _ _ hvisits hsession
  obtain ⟨-, streamed, hstreamed, hemitted⟩ := streamingRound_again (streamingBody_again hagain).2
  rw [hemitted]
  exact hbefore.append hstreamed

/-- **The loop announces its end exactly when every round reports.** -/
theorem streamingLoop_announcesEnd_iff (hsession : IsStreaming session.emitted)
    {result : Except TransportError Unit} {final : ReceiverSession}
    (hrun : streamingLoop format inputs session = some (result, final)) :
    AnnouncesEnd final.emitted ↔
      ∀ round reached, Loop.Visits (streamingBody format inputs) (0, session) (round, reached) →
        roundReports format (inputs round) reached = true := by
  obtain ⟨⟨round, reached⟩, hvisits, hdone⟩ := Loop.exists_last hrun
  have hstreaming := isStreaming_of_visits hsession hvisits
  rcases streamingRound_done (streamingBody_done hdone) with
    ⟨hreports, last, hend, hemitted⟩ | ⟨hreports, streamed, hstreamed, hemitted⟩
  · -- every other round went on, and so reported
    rw [hemitted]
    refine iff_of_true (hstreaming.announcesEnd hend) fun round' reached' hvisits' ↦ ?_
    rcases Loop.again_or_done_of_visits hvisits' hrun with ⟨next, hagain⟩ | hdone'
    · exact (streamingRound_again (streamingBody_again hagain).2).1
    · rcases streamingRound_done (streamingBody_done hdone') with
        ⟨hreports', -⟩ | ⟨-, streamed, hstreamed, hemitted'⟩
      · exact hreports'
      · have hsilent := ((isStreaming_of_visits hsession hvisits').append hstreamed)
        rw [← hemitted', hemitted] at hsilent
        exact absurd (hstreaming.announcesEnd hend) hsilent.not_announcesEnd
  · rw [hemitted]
    refine iff_of_false (hstreaming.append hstreamed).not_announcesEnd fun hall ↦ ?_
    rw [hall round reached hvisits] at hreports
    exact nomatch hreports

end Loop

/-- **When a session announces its end.** The function returns, whatever the peer, the callback and
the stop channel do. If it handed `Connected` to the callback, then it follows `AnnouncesEnd` exactly
when every round of the streaming loop reports. -/
theorem session_announces_end_iff (format : WireFormat) (args : SessionArgs) (setup : SessionSetup)
    (inputs : ℕ → RoundInput) (reader : Reader) (writer : Writer) :
    ∃ result final,
      handleReceiverSession format args setup inputs reader writer = some (result, final) ∧
      ((∃ connection, .connected connection ∈ final.emitted) →
        (AnnouncesEnd final.emitted ↔
          ∀ started, handshake format args setup { reader, writer } = (.ok (), started) →
            ∀ round reached,
              Loop.Visits (streamingBody format inputs) (0, started) (round, reached) →
              roundReports format (inputs round) reached = true)) := by
  rcases hshake : handshake format args setup { reader, writer } with ⟨error | ⟨⟩, started⟩
  · refine ⟨.error error, started, by simp only [handleReceiverSession, hshake], ?_⟩
    rintro ⟨connection, hmem⟩
    rcases handshake_emitted format args setup rfl hshake with ⟨-, -, hnone⟩ | ⟨-, hok, -⟩
    · simp [hnone] at hmem
    · exact nomatch hok
  · obtain ⟨⟨result, final⟩, hrun⟩ :=
      Option.isSome_iff_exists.1 (streamingLoop_isSome format inputs started)
    refine ⟨result, final, by simp only [handleReceiverSession, hshake, hrun], fun _ ↦ ?_⟩
    have hstarted : IsStreaming started.emitted := by
      rcases handshake_emitted format args setup rfl hshake with ⟨_, herror, -⟩ | ⟨connection, -, h⟩
      · exact nomatch herror
      · exact ⟨connection, [], h, by simp⟩
    rw [streamingLoop_announcesEnd_iff hstarted hrun]
    constructor
    · rintro hall _ ⟨⟩
      exact hall
    · intro hall
      exact hall started rfl

/-- A sender that says `Hello` and stops. -/
theorem session_announces_end_iff_stop :
    ∃ result final,
      handleReceiverSession Sample.format Sample.args Sample.setup Sample.calm
          (ReadScript.ofList (Sample.helloFrame ++
            encodeFrame ⟨.stop, SerdeJson.asciiBytes Sample.stopJson, []⟩)) .empty =
        some (result, final) ∧
      ∀ started, handshake Sample.format Sample.args Sample.setup
            { reader := ReadScript.ofList (Sample.helloFrame ++
                encodeFrame ⟨.stop, SerdeJson.asciiBytes Sample.stopJson, []⟩), writer := .empty } =
          (.ok (), started) →
        ∀ round reached,
          Loop.Visits (streamingBody Sample.format Sample.calm) (0, started) (round, reached) →
          roundReports Sample.format (Sample.calm round) reached = true := by
  obtain ⟨result, final, hrun, hiff⟩ := session_announces_end_iff Sample.format Sample.args
    Sample.setup Sample.calm (ReadScript.ofList (Sample.helloFrame ++
      encodeFrame ⟨.stop, SerdeJson.asciiBytes Sample.stopJson, []⟩)) .empty
  have hemitted : (handleReceiverSession Sample.format Sample.args Sample.setup Sample.calm
      (ReadScript.ofList (Sample.helloFrame ++
        encodeFrame ⟨.stop, SerdeJson.asciiBytes Sample.stopJson, []⟩)) .empty).map
        (fun ended ↦ ended.2.emitted) =
      some [.connected (connectionFor Sample.args Sample.hello), .disconnected "done" false] := by
    decide +kernel
  simp only [hrun, Option.map_some, Option.some.injEq] at hemitted
  refine ⟨result, final, hrun, (hiff ⟨_, hemitted ▸ List.mem_cons_self⟩).1 ?_⟩
  rw [hemitted]
  exact ⟨_, [], _, rfl, by simp, rfl⟩

/-- **A session that ends without a word.** The sender says `Hello` and then sends an `Audio` frame
whose metadata is empty. The runtime hears of the connection and of nothing else. -/
theorem session_silent_after_undecodable_audio :
    ∃ result final,
      handleReceiverSession Sample.format Sample.args Sample.setup Sample.calm
          (ReadScript.ofList (Sample.helloFrame ++ encodeFrame ⟨.audio, [], []⟩)) .empty =
        some (result, final) ∧
      (∃ connection, .connected connection ∈ final.emitted) ∧ ¬ AnnouncesEnd final.emitted := by
  have hemitted : (handleReceiverSession Sample.format Sample.args Sample.setup Sample.calm
      (ReadScript.ofList (Sample.helloFrame ++ encodeFrame ⟨.audio, [], []⟩)) .empty).map
        (fun ended ↦ ended.2.emitted) =
      some [.connected (connectionFor Sample.args Sample.hello)] := by decide +kernel
  obtain ⟨⟨result, final⟩, hrun, hfinal⟩ := Option.map_eq_some_iff.1 hemitted
  dsimp only at hfinal
  refine ⟨result, final, hrun, ⟨_, hfinal ▸ List.mem_singleton_self _⟩, ?_⟩
  rw [hfinal]
  exact IsStreaming.not_announcesEnd ⟨_, [], rfl, by simp⟩

end SynchroSonic
