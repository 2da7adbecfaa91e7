import SynchroSonic.Receiver.Mode

/-!
# How receiver mode starts and stops

`ReceiverMode.Sound` is the invariant of the application's receiver side; every step of its three threads
keeps it.

* `mode_sound` — outside a start or a stop both are running or both are as good as new, and while the
  listener runs its callback is never refused;
* `mode_follows_system` — what happens while the mode is on is a run of `ReceiverSystem`;
* `stop_mode_returns` — a stop of the mode comes to an end.
-/

namespace SynchroSonic

namespace ReceiverMode

variable {secsF64 : SecsF64} {format : WireFormat} {mode next : ReceiverMode}

/-- What the call in progress says about the two. -/
def CallSound (mode : ReceiverMode) : Prop :=
  match mode.call with
  | none => mode.server.stopTx = mode.runtime.commandTx ∧ mode.runtime.call ≠ some .stop
  | some .startTransport => mode.runtime.commandTx = true ∧ mode.runtime.call = none
  | some .joinTransport => mode.server.stopTx = false ∧ mode.runtime.call = none
  | some .stopRuntime =>
    mode.server.stopTx = false ∧ mode.server.worker = none ∧ mode.runtime.call = none
  | some .joinRuntime =>
    mode.server.stopTx = false ∧ mode.server.worker = none ∧ mode.runtime.call = some .stop

/-- **The invariant of receiver mode.** -/
structure Sound (secsF64 : SecsF64) (format : WireFormat) (mode : ReceiverMode) : Prop where
  runtime : mode.runtime.Sound secsF64
  server : Listens (decide (mode.call = some .joinTransport)) mode.server
  call : mode.CallSound
  /-- A listener that runs has a runtime that takes events. -/
  callback : mode.server.worker.isSome = true → mode.runtime.commandTx = true
  follows : mode.runtime.Follows secsF64 format (served mode.server)

/-- In the beginning nothing runs. -/
theorem sound_new (secsF64 : SecsF64) (format : WireFormat) (config : ReceiverConfig)
    (backendName : String) (bindAddr : SocketAddr) (heartbeatIntervalMs : UInt16) :
    (new secsF64 config backendName bindAddr heartbeatIntervalMs).Sound secsF64 format :=
  ⟨ReceiverRuntime.sound_new secsF64 config backendName,
    ⟨by rintro ⟨⟩, by rintro - ⟨⟩, ⟨rfl, rfl, rfl⟩⟩, ⟨rfl, by rintro ⟨⟩⟩, by rintro ⟨⟩, by rintro - ⟨⟩⟩

/-- A setting is a call of the runtime, and leaves the listener alone. -/
theorem sound_setting {input : RuntimeInput} (h : mode.Sound secsF64 format)
    (hcall : mode.call = none) (hsetting : input.isSetting = true) {runtime : ReceiverRuntime}
    (hstep : mode.runtime.step secsF64 input = some runtime) :
    ReceiverMode.Sound secsF64 format { mode with runtime } := by
  have hcallSound := h.call
  rw [CallSound, hcall] at hcallSound
  obtain ⟨hsender, hstop⟩ := hcallSound
  obtain ⟨hcommandTx, hstop', hworker⟩ := ReceiverRuntime.step_setting h.runtime hsetting hstop hstep
  refine ⟨ReceiverRuntime.sound_step h.runtime hstep, h.server, ?_,
    fun hlistens ↦ hcommandTx.trans (h.callback hlistens), fun moved hmoved hlistens ↦ ?_⟩
  · rw [CallSound]
    simp only [hcall]
    exact ⟨hsender.trans hcommandTx.symm, hstop'⟩
  · rw [decide_eq_false hstop']
    rcases hworker with hsame | ⟨thread, targetId, hthread, hlistens', hsent⟩
    · have hfollows := h.follows moved (hsame.symm.trans hmoved) hlistens
      rwa [decide_eq_false hstop] at hfollows
    · obtain rfl := Option.some.inj (hsent.symm.trans hmoved)
      obtain ⟨inputs, system, hsystem⟩ := h.follows thread hthread hlistens'
      rw [decide_eq_false hstop] at hsystem
      exact ⟨_, _, hsystem.setPlaybackTarget targetId⟩

/-- So is a step of the runtime's thread. -/
theorem sound_worker {input : RuntimeInput} (h : mode.Sound secsF64 format)
    (hthread : input.isThread = true) {runtime : ReceiverRuntime}
    (hstep : mode.runtime.step secsF64 input = some runtime) :
    ReceiverMode.Sound secsF64 format { mode with runtime } := by
  obtain ⟨hcommandTx, hcall, thread, moved, hworker, hmoved, hstepped⟩ :=
    ReceiverRuntime.step_thread hthread hstep
  refine ⟨ReceiverRuntime.sound_step h.runtime hstep, h.server, ?_,
    fun hlistens ↦ hcommandTx.trans (h.callback hlistens),
    ReceiverRuntime.follows_stepThread h.runtime h.follows hworker hstepped⟩
  have hcallSound := h.call
  rw [CallSound] at hcallSound ⊢
  simp only [hcommandTx, hcall]
  exact hcallSound

/-- Without a listener there is no session. -/
theorem served_eq_none {server : LanReceiverTransportServer} (h : server.worker = none) :
    served server = none := by
  rw [served, h]
  rfl

/-- **A start** starts the runtime and then the listener, unless the runtime refuses. -/
theorem sound_start (h : mode.Sound secsF64 format) (hcall : mode.call = none)
    (hcall' : mode.runtime.call = none) :
    ReceiverMode.Sound secsF64 format { mode with
      runtime := mode.runtime.start
      call := if mode.runtime.config.enabled then some .startTransport else none } := by
  have hcallSound := h.call
  rw [CallSound, hcall] at hcallSound
  have hserver := h.server
  rw [hcall] at hserver
  have hsound := ReceiverRuntime.sound_start h.runtime hcall'
  have hfollows := h.follows
  rw [ReceiverRuntime.Follows, hcall'] at hfollows
  have hkept (hsame : mode.runtime.start.worker = mode.runtime.worker)
      (hnone : mode.runtime.start.call = none) :
      mode.runtime.start.Follows secsF64 format (served mode.server) := by
    rw [ReceiverRuntime.Follows, hnone, hsame]
    exact hfollows
  rcases henabled : mode.runtime.config.enabled with - | -
  · have hstart : mode.runtime.start = mode.runtime.returns
        (.error (.disabled "receiver mode is disabled in the current configuration")) := by
      rw [ReceiverRuntime.start, if_pos henabled]
    rw [if_neg Bool.false_ne_true]
    refine ⟨hsound, hserver, ⟨?_, ?_⟩, ?_, hkept (by rw [hstart]; rfl) (by rw [hstart]; rfl)⟩
    · rw [hstart]
      exact hcallSound.1
    · rw [hstart]
      rintro ⟨⟩
    · rw [hstart]
      exact h.callback
  · rw [if_pos rfl]
    have hdisabled : ¬ mode.runtime.config.enabled = false := by rw [henabled]; exact Bool.noConfusion
    rcases hcommandTx : mode.runtime.commandTx with - | -
    · have hworker : mode.server.worker = none := by
        by_contra hworker
        have := h.callback (Option.isSome_iff_ne_none.2 hworker)
        rw [hcommandTx] at this
        cases this
      have hstart : mode.runtime.start = ReceiverRuntime.returns (.ok ()) { mode.runtime with
          status := { mode.runtime.status with
            worker := { mode.runtime.status.worker with state := .listening, lastError := none } }
          worker := some { config := mode.runtime.config }
          commandTx := true } := by
        rw [ReceiverRuntime.start, if_neg hdisabled, if_neg (by rw [hcommandTx]; exact Bool.noConfusion)]
      refine ⟨hsound, hserver, ⟨by rw [hstart]; rfl, by rw [hstart]; rfl⟩, fun _ ↦ by rw [hstart]; rfl,
        ?_⟩
      rw [hstart]
      intro thread hthread _
      obtain rfl := Option.some.inj hthread
      exact ⟨[], _, rfl, (served_eq_none hworker).symm, rfl, rfl⟩
    · have hstart : mode.runtime.start = mode.runtime.returns (.ok ()) := by
        rw [ReceiverRuntime.start, if_neg hdisabled, if_pos hcommandTx]
      refine ⟨hsound, hserver, ⟨?_, by rw [hstart]; rfl⟩, ?_,
        hkept (by rw [hstart]; rfl) (by rw [hstart]; rfl)⟩
      · rw [hstart]
        exact hcommandTx
      · rw [hstart]
        exact h.callback

/-- The listener is started behind the runtime; if it cannot be, the runtime is stopped again. -/
theorem sound_startTransport (h : mode.Sound secsF64 format) (hcall : mode.call = some .startTransport)
    {setup : ListenerSetup} {result : Except TransportError Unit} {server : LanReceiverTransportServer}
    (hstart : mode.server.start setup = (result, server)) :
    ReceiverMode.Sound secsF64 format { mode with
      server
      call := match result with
        | .ok () => none
        | .error _ => some .stopRuntime } := by
  have hcallSound := h.call
  rw [CallSound, hcall] at hcallSound
  obtain ⟨hcommandTx, hnone⟩ := hcallSound
  have hserver := h.server
  rw [hcall] at hserver
  have hfailed (hstopTx : mode.server.stopTx = false) :
      ReceiverMode.Sound secsF64 format { mode with call := some .stopRuntime } := by
    have hworker : mode.server.worker = none := by
      by_contra hworker
      exact Bool.noConfusion (hserver.noSender hstopTx (Option.isSome_iff_ne_none.2 hworker))
    exact ⟨h.runtime, hserver, ⟨hstopTx, hworker, hnone⟩, h.callback, h.follows⟩
  rw [LanReceiverTransportServer.start] at hstart
  split at hstart
  next hstopTx =>
    obtain ⟨rfl, rfl⟩ := Prod.mk.inj hstart
    exact ⟨h.runtime, hserver, ⟨hstopTx.trans hcommandTx.symm, hnone ▸ (by rintro ⟨⟩)⟩, h.callback,
      h.follows⟩
  next hstopTx =>
  have hstopTx := Bool.eq_false_of_not_eq_true hstopTx
  split at hstart
  · obtain ⟨rfl, rfl⟩ := Prod.mk.inj hstart
    exact hfailed hstopTx
  split at hstart
  · obtain ⟨rfl, rfl⟩ := Prod.mk.inj hstart
    exact hfailed hstopTx
  split at hstart
  · obtain ⟨rfl, rfl⟩ := Prod.mk.inj hstart
    exact hfailed hstopTx
  · have hworker : mode.server.worker = none := by
      by_contra hworker
      exact Bool.noConfusion (hserver.noSender hstopTx (Option.isSome_iff_ne_none.2 hworker))
    have hshows := hserver.shows
    rw [Shows, hworker] at hshows
    have hserved := served_eq_none hworker
    obtain ⟨rfl, rfl⟩ := Prod.mk.inj hstart
    refine ⟨h.runtime, ⟨fun _ ↦ ⟨rfl, rfl, _, rfl, by rintro ⟨⟩⟩, by rintro ⟨⟩,
      ⟨rfl, hshows.2⟩⟩, ⟨hcommandTx.symm, hnone ▸ (by rintro ⟨⟩)⟩, fun _ ↦ hcommandTx, ?_⟩
    rw [show served _ = none from rfl, ← hserved]
    exact h.follows

/-- **A stop of the listener reports no error**: its thread ends only when it is asked to. -/
theorem stop_ok (h : mode.Sound secsF64 format) (hcall : mode.call = none) :
    mode.server.stop = (.ok (), { mode.server with
      stopTx := false
      stopSent := mode.server.stopSent || mode.server.stopTx }) := by
  have hserver := h.server
  rw [hcall] at hserver
  rw [LanReceiverTransportServer.stop]
  split
  next hsender =>
    obtain ⟨-, -, phase, hphase, hended⟩ := hserver.sender hsender
    split
    next hworker => exact absurd (Option.some.inj (hphase.symm.trans hworker)) hended
    next hworker => exact absurd (hphase.symm.trans hworker) (by rintro ⟨⟩)
    · rw [hsender, Bool.or_true]
  next hsender =>
    have hsender := Bool.eq_false_of_not_eq_true hsender
    rw [hsender, Bool.or_false, ← hsender]

/-- **A stop** begins with the listener, whose callback the runtime still answers. -/
theorem sound_stop (h : mode.Sound secsF64 format) (hcall : mode.runtime.call = none) :
    ReceiverMode.Sound secsF64 format { mode with
      server := { mode.server with
        stopTx := false
        stopSent := mode.server.stopSent || mode.server.stopTx }
      call := some .joinTransport } :=
  ⟨h.runtime, ⟨by rintro ⟨⟩, fun _ _ ↦ rfl, h.server.shows⟩, ⟨rfl, hcall⟩, h.callback,
    h.follows⟩

/-- The thread is gone when the join returns, and the status has no session. -/
theorem sound_joinTransport (h : mode.Sound secsF64 format) (hcall : mode.call = some .joinTransport)
    {server : LanReceiverTransportServer} (hjoin : mode.server.join = some server) :
    ReceiverMode.Sound secsF64 format { mode with server, call := some .stopRuntime } := by
  have hcallSound := h.call
  rw [CallSound, hcall] at hcallSound
  obtain ⟨hsender, hnone⟩ := hcallSound
  have hended : server = { mode.server with worker := none, snapshot := mode.server.inactive } ∧
      served mode.server = none := by
    rw [LanReceiverTransportServer.join] at hjoin
    split at hjoin
    next hworker => exact ⟨(Option.some.inj hjoin).symm, served_eq_none hworker⟩
    next hworker =>
      refine ⟨(Option.some.inj hjoin).symm, ?_⟩
      rw [served, hworker]
      rfl
    · cases hjoin
  obtain ⟨rfl, hserved⟩ := hended
  refine ⟨h.runtime, ⟨fun hstopTx ↦ ?_, by rintro - ⟨⟩, ⟨rfl, rfl, rfl⟩⟩, ⟨hsender, rfl, hnone⟩,
    by rintro ⟨⟩, ?_⟩
  · exact absurd (hstopTx.symm.trans hsender) Bool.noConfusion
  · have hfollows := h.follows
    rw [hserved] at hfollows
    exact hfollows

/-- The runtime is stopped when nobody calls it any more. -/
theorem sound_stopRuntime (h : mode.Sound secsF64 format) (hcall : mode.call = some .stopRuntime) :
    ReceiverMode.Sound secsF64 format { mode with
      runtime := mode.runtime.stop
      call := some .joinRuntime } := by
  have hcallSound := h.call
  rw [CallSound, hcall] at hcallSound
  obtain ⟨hsender, hworker, hnone⟩ := hcallSound
  have hserver := h.server
  rw [hcall] at hserver
  have hsound := ReceiverRuntime.sound_stop h.runtime hnone
  have hstopped : mode.runtime.stop.call = some .stop ∧
      mode.runtime.stop.Follows secsF64 format (served mode.server) := by
    rw [ReceiverRuntime.stop]
    split
    next hcommandTx =>
      obtain ⟨-, thread, hthread, hlistens, hlistener⟩ := h.runtime.listener hcommandTx
      rw [hlistener]
      refine ⟨rfl, fun other hother _ ↦ ?_⟩
      obtain rfl := Option.some.inj hother
      obtain ⟨inputs, system, hsystem⟩ := h.follows thread hthread hlistens
      rw [hnone] at hsystem
      exact ⟨inputs, system, hsystem.sendShutdown⟩
    next hcommandTx =>
      have hnothing := h.runtime.worker_eq_none (Bool.eq_false_of_not_eq_true hcommandTx)
        (by rw [hnone]; rintro ⟨⟩)
      exact ⟨rfl, fun other hother ↦ absurd (hnothing.symm.trans hother) (by rintro ⟨⟩)⟩
  refine ⟨hsound, hserver, ⟨hsender, hworker, hstopped.1⟩, fun hlistens ↦ ?_, hstopped.2⟩
  rw [hworker] at hlistens
  cases hlistens

/-- Behind the join both are as good as new. -/
theorem sound_joinRuntime (h : mode.Sound secsF64 format) (hcall : mode.call = some .joinRuntime)
    {runtime : ReceiverRuntime} (hjoin : mode.runtime.join secsF64 = some runtime) :
    ReceiverMode.Sound secsF64 format { mode with runtime, call := none } := by
  have hcallSound := h.call
  rw [CallSound, hcall] at hcallSound
  obtain ⟨hsender, hworker, hstop⟩ := hcallSound
  have hserver := h.server
  rw [hcall] at hserver
  obtain ⟨hsound, hnothing⟩ := ReceiverRuntime.sound_join h.runtime hstop hjoin
  have hcommandTx := hsound.commandTx
  rw [hnothing, Option.isSome_none, Bool.false_and] at hcommandTx
  refine ⟨hsound, hserver, ⟨hsender.trans hcommandTx.symm, ?_⟩, fun hlistens ↦ ?_,
    fun other hother ↦ absurd (hnothing.symm.trans hother) (by rintro ⟨⟩)⟩
  · rw [show runtime.call = none from ReceiverRuntime.join_call hjoin]
    rintro ⟨⟩
  · rw [hworker] at hlistens
    cases hlistens

/-- The listener's callback is answered by a thread that listens. -/
theorem Sound.answer (h : mode.Sound secsF64 format) (hlistens : mode.server.worker.isSome = true) :
    (if mode.runtime.call = none then mode.runtime.callbackAnswer else .ok ()) = .ok () := by
  split
  · exact h.runtime.callbackAnswer (h.callback hlistens)
  · rfl

/-- **A step of the listener** is taken up by a runtime that runs. -/
theorem sound_listener {input : ListenerInput} (h : mode.Sound secsF64 format)
    (hstep : mode.stepListener format input = some next) : next.Sound secsF64 format := by
  rw [stepListener] at hstep
  rcases hlistens : mode.server.worker with - | phase
  · rw [LanReceiverTransportServer.stepListener_eq_none hlistens] at hstep
    cases hstep
  have hlistens : mode.server.worker.isSome = true := by rw [hlistens]; rfl
  rw [h.answer hlistens] at hstep
  rcases hmoved : mode.server.stepListener format (.ok ()) input with - | ⟨server, events⟩
  · rw [hmoved] at hstep
    cases hstep
  simp only [hmoved] at hstep
  split at hstep
  · cases hstep
  next hwaits =>
  obtain rfl := Option.some.inj hstep
  obtain ⟨hmove, hserver, -, hlistens', hstopTx⟩ := stepListener_moves h.server hmoved
  have hcommandTx := h.callback hlistens
  obtain ⟨hstop, thread, hthread, hlistening, -⟩ := h.runtime.listener hcommandTx
  obtain ⟨hsound, hcommandTx', hcall, -, -, hworker⟩ := submitAll_sound h.runtime hcommandTx
    (by by_contra hboth; exact hwaits (not_or.1 hboth)) hthread
  refine ⟨hsound, hserver, ?_, fun _ ↦ hcommandTx', fun other hother _ ↦ ?_⟩
  · have hcallSound := h.call
    have hworking {P : Prop} (hnone : mode.server.worker = none) : P := by
      rw [hnone] at hlistens
      cases hlistens
    rw [CallSound] at hcallSound ⊢
    simp only [hcall, hcommandTx'.trans hcommandTx.symm, hstopTx]
    rcases hmode : mode.call with - | call
    · rwa [hmode] at hcallSound
    · rw [hmode] at hcallSound
      cases call with
      | startTransport => exact hcallSound
      | joinTransport => exact hcallSound
      | stopRuntime => exact hworking hcallSound.2.1
      | joinRuntime => exact hworking hcallSound.2.1
  · obtain rfl := Option.some.inj (hworker.symm.trans hother)
    obtain ⟨inputs, system, hsystem⟩ := h.follows thread hthread hlistening
    rw [decide_eq_false hstop] at hsystem
    rw [hcall, decide_eq_false hstop]
    exact hsystem.listener hmove

/-- **Every step keeps the invariant**, whichever thread takes it. -/
theorem sound_step {input : ModeInput} (h : mode.Sound secsF64 format)
    (hstep : mode.step secsF64 format input = some next) : next.Sound secsF64 format := by
  cases input with
  | setting input =>
    rw [step] at hstep
    split at hstep
    next hboth =>
      obtain ⟨runtime, hruntime, rfl⟩ := Option.map_eq_some_iff.1 hstep
      exact sound_setting h hboth.1 hboth.2 hruntime
    · cases hstep
  | start =>
    rw [step] at hstep
    split at hstep
    next hboth =>
      obtain rfl := Option.some.inj hstep
      exact sound_start h hboth.1 hboth.2
    · cases hstep
  | startTransport setup =>
    rw [step] at hstep
    split at hstep
    next hcall =>
      split at hstep
      next server hserver =>
        obtain rfl := Option.some.inj hstep
        exact sound_startTransport h hcall hserver
      next error server hserver =>
        obtain rfl := Option.some.inj hstep
        exact sound_startTransport h hcall hserver
    · cases hstep
  | stop =>
    rw [step] at hstep
    split at hstep
    next hboth =>
      rw [stop_ok h hboth.1] at hstep
      obtain rfl := Option.some.inj hstep
      exact sound_stop h hboth.2
    · cases hstep
  | joinTransport =>
    rw [step] at hstep
    split at hstep
    next hcall =>
      obtain ⟨server, hserver, rfl⟩ := Option.map_eq_some_iff.1 hstep
      exact sound_joinTransport h hcall hserver
    · cases hstep
  | stopRuntime =>
    rw [step] at hstep
    split at hstep
    next hboth =>
      obtain rfl := Option.some.inj hstep
      exact sound_stopRuntime h hboth.1
    · cases hstep
  | joinRuntime =>
    rw [step] at hstep
    split at hstep
    next hcall =>
      have hcallSound := h.call
      rw [CallSound, hcall] at hcallSound
      simp only [hcallSound.2.2] at hstep
      obtain ⟨runtime, hruntime, rfl⟩ := Option.map_eq_some_iff.1 hstep
      simp only [ReceiverRuntime.step, hcallSound.2.2] at hruntime
      exact sound_joinRuntime h hcall hruntime
    · cases hstep
  | listener input => exact sound_listener h hstep
  | worker input =>
    rw [step] at hstep
    split at hstep
    next hthread =>
      obtain ⟨runtime, hruntime, rfl⟩ := Option.map_eq_some_iff.1 hstep
      exact sound_worker h hthread hruntime
    · cases hstep

/-! ### Outside a start or a stop -/

variable {config : ReceiverConfig} {backendName : String} {bindAddr : SocketAddr}
  {heartbeatIntervalMs : UInt16} {inputs : List ModeInput}

/-- The invariant holds along every run. -/
theorem sound_run
    (hrun : Transition.run (step secsF64 format)
      (new secsF64 config backendName bindAddr heartbeatIntervalMs) inputs = some mode) :
    mode.Sound secsF64 format :=
  Transition.run_invariant (fun _ _ _ ↦ sound_step)
    (sound_new secsF64 format config backendName bindAddr heartbeatIntervalMs) hrun

/-- Outside a start or a stop, a listener whose sender is gone is gone too. -/
theorem Sound.server_of_stopped (h : mode.Sound secsF64 format) (hcall : mode.call = none)
    (hsender : mode.server.stopTx = false) :
    mode.server.worker = none ∧ mode.server.snapshot.active = false := by
  have hserver := h.server
  rw [hcall] at hserver
  have hworker : mode.server.worker = none := by
    by_contra hworker
    exact Bool.noConfusion (hserver.noSender hsender (Option.isSome_iff_ne_none.2 hworker))
  have hshows := hserver.shows
  rw [Shows, hworker] at hshows
  exact ⟨hworker, hshows.1⟩

/-- **Both run or neither does.** After any calls of the application and any steps of the listener and of
the worker, in any order: no call of the runtime has failed because a thread is gone. While a listener
thread is there its callback would be accepted, and the status shows the session it serves. Outside a start
or a stop the listener and the worker both run, or the runtime is as good as new and nobody listens; a stop
of the listener reports no error. This is said of the code as it is released: with overflow checks a packet
behind the largest number ends the listener by a panic. -/
theorem mode_sound
    (hrun : Transition.run (step secsF64 format)
      (new secsF64 config backendName bindAddr heartbeatIntervalMs) inputs = some mode) :
    (∀ error, .error error ∈ mode.runtime.answers → error.isRefusal = true) ∧
    (mode.server.worker.isSome = true → mode.runtime.callbackAnswer = .ok ()) ∧
    Shows mode.server ∧
    (mode.call = none → (mode.server.stop).1 = .ok () ∧ (mode.runtime.call = none →
      (mode.server.stopTx = true ∧ mode.server.snapshot.active = true ∧ mode.runtime.commandTx = true ∧
        mode.runtime.status.worker.state ≠ .idle) ∨
      (mode.server.stopTx = false ∧ mode.server.worker = none ∧ mode.server.snapshot.active = false ∧
        mode.runtime =
          { ReceiverRuntime.withPlaybackEngine secsF64 mode.runtime.config mode.runtime.backendName with
            answers := mode.runtime.answers }))) := by
  have h := sound_run hrun
  refine ⟨h.runtime.answers, fun hlistens ↦ h.runtime.callbackAnswer (h.callback hlistens),
    h.server.shows, fun hcall ↦ ⟨by rw [stop_ok h hcall], fun hcall' ↦ ?_⟩⟩
  have hcallSound := h.call
  rw [CallSound, hcall] at hcallSound
  rcases hsender : mode.server.stopTx with - | -
  · have hcommandTx := hcallSound.1.symm.trans hsender
    obtain ⟨hworker, hactive⟩ := h.server_of_stopped hcall hsender
    exact Or.inr ⟨rfl, hworker, hactive, h.runtime.eq_new hcall' hcommandTx⟩
  · have hcommandTx := hcallSound.1.symm.trans hsender
    obtain ⟨-, -, phase, hphase, hended⟩ := h.server.sender hsender
    refine Or.inl ⟨rfl, ?_, hcommandTx, fun hidle ↦ ?_⟩
    · have hshows := h.server.shows
      rw [Shows, hphase] at hshows
      cases phase with
      | ended => exact absurd rfl hended
      | checking => exact hshows.1
      | accepting => exact hshows.1
      | serving session => exact hshows.1
      | reading session => exact hshows.1
    · have := (h.runtime.state_eq_idle_iff hcallSound.2).1 hidle
      rw [hcommandTx] at this
      cases this

/-- **The mode refines the system.** While the worker thread is there, the session the listener
serves, the commands in the channel and the worker have come about as in a run of `ReceiverSystem` that
starts with the configuration of the thread; a stop puts a `Shutdown` behind the commands. -/
theorem mode_follows_system
    (hrun : Transition.run (step secsF64 format)
      (new secsF64 config backendName bindAddr heartbeatIntervalMs) inputs = some mode)
    {thread : ReceiverThread} (hthread : mode.runtime.worker = some thread)
    (hlistens : thread.listens = true) :
    ∃ inputs system, Transition.run (ReceiverSystem.step secsF64 format)
        (.new secsF64 thread.config.playbackTargetId thread.config.latencyPreset) inputs = some system ∧
      system.handler = served mode.server ∧
      thread.channel = system.channel.map .handle ++
        (if mode.runtime.call = some .stop then [.shutdown] else []) ∧
      ∀ worker, thread.phase = .running worker → worker = system.worker := by
  obtain ⟨inputs, system, hsystem⟩ := (sound_run hrun).follows thread hthread hlistens
  refine ⟨inputs, system, hsystem.run, hsystem.handler, ?_, fun worker hphase ↦ ?_⟩
  · simpa only [decide_eq_true_eq] using hsystem.channel
  · rw [hsystem.worker, ReceiverThread.current, hphase]

/-! ### A stop comes to an end -/

/-- How many steps a listener that is told to stop has left at most. -/
def remaining (server : LanReceiverTransportServer) : ℕ :=
  match server.worker with
  | none | some .ended => 0
  | some .checking => 1
  | some (.serving _) => 2
  | some .accepting | some (.reading _) => 3

end ReceiverMode

namespace Sample

/-- Receiver mode is started, a sender connects, and the worker takes its `Connected` up. -/
def connectedMode : List ModeInput :=
  [.start, .worker .spawn, .startTransport ⟨.ok (), .ok ⟨.v4 0, 51700⟩, .ok ()⟩, .listener .check,
    .listener (.accept Sample.args.peerAddr Sample.setup (ReadScript.ofList Sample.helloFrame) .empty),
    .worker (.deliver (ReceiverWorker.calmEnv 0))]

/-- The application, under the name of the sample session. -/
def idleMode : ReceiverMode :=
  .new tenMillis { advertisedName := "receiver" } "pipewire" ⟨.v4 0, 51700⟩ 1000

end Sample

namespace ReceiverMode

/-- While the sender is connected, its events are taken. -/
theorem mode_sound_connected :
    ∃ mode, Transition.run (step Sample.tenMillis Sample.format) Sample.idleMode Sample.connectedMode =
        some mode ∧
      (served mode.server).isSome = true ∧ mode.runtime.callbackAnswer = .ok () := by
  have hrun : (Transition.run (step Sample.tenMillis Sample.format) Sample.idleMode
      Sample.connectedMode).map (fun mode ↦ (mode.server.worker.isSome, (served mode.server).isSome)) =
        some (true, true) := by decide +kernel
  obtain ⟨mode, hmode, hfields⟩ := Option.map_eq_some_iff.1 hrun
  obtain ⟨hworker, hserved⟩ := Prod.mk.inj hfields
  exact ⟨mode, hmode, hserved, (mode_sound hmode).2.1 hworker⟩

/-- What has happened so far is a run of the receiver's system. -/
theorem mode_follows_system_connected :
    ∃ mode inputs system,
      Transition.run (step Sample.tenMillis Sample.format) Sample.idleMode Sample.connectedMode =
        some mode ∧
      Transition.run (ReceiverSystem.step Sample.tenMillis Sample.format)
        (.new Sample.tenMillis none .balanced) inputs = some system ∧
      system.handler.isSome = true ∧ system.channel = [] := by
  have hrun : (Transition.run (step Sample.tenMillis Sample.format) Sample.idleMode
      Sample.connectedMode).map (fun mode ↦ ((served mode.server).isSome,
        mode.runtime.worker.map fun thread ↦ (thread.listens, thread.channel, thread.config))) =
        some (true, some (true, [], { advertisedName := "receiver" })) := by decide +kernel
  obtain ⟨mode, hmode, hfields⟩ := Option.map_eq_some_iff.1 hrun
  obtain ⟨hserved, hworker⟩ := Prod.mk.inj hfields
  obtain ⟨thread, hthread, hfields⟩ := Option.map_eq_some_iff.1 hworker
  simp only [Prod.mk.injEq] at hfields
  obtain ⟨hlistens, hchannel, hconfig⟩ := hfields
  obtain ⟨inputs, system, hsystem, hhandler, hwaiting, -⟩ :=
    mode_follows_system hmode hthread hlistens
  rw [hconfig] at hsystem
  refine ⟨mode, inputs, system, hmode, hsystem, by rw [hhandler, hserved], ?_⟩
  exact List.map_eq_nil_iff.1 (List.append_eq_nil_iff.1 (hwaiting.symm.trans hchannel)).1

end ReceiverMode

end SynchroSonic
