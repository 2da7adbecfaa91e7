import SynchroSonic.Receiver.Runtime

/-!
# What a receiver runtime shows, and how it stops

`ReceiverRuntime.Sound` is the invariant of a runtime together with its thread; every step keeps it,
whether the caller takes it or the thread.

* `runtime_sound` — at any time the status is what the configuration and the worker say, and the worker
  has taken up exactly what was put in, in order;
* `stop_returns` — a `stop` comes to an end, everything that was accepted is handled before, and the
  runtime is then as good as new.
-/

namespace SynchroSonic

/-! ### The thread's side of the invariant -/

/-- The command an input of a worker was sent as. -/
def ReceiverWorker.WorkerInput.command? : ReceiverWorker.WorkerInput → Option ReceiverCommand
  | .transport event => some (.transport event)
  | .setPlaybackTarget targetId => some (.setPlaybackTarget targetId)
  | .tick => none

/-- A command that is taken up is the one that was sent. -/
theorem ReceiverCommand.command?_toInput (command : ReceiverCommand) :
    command.toInput.command? = some command := by
  cases command with
  | transport event => rfl
  | setPlaybackTarget targetId => rfl

/-- An input that counts as a command is that command's. -/
theorem ReceiverWorker.WorkerInput.eq_toInput {input : ReceiverWorker.WorkerInput}
    {command : ReceiverCommand} (h : input.command? = some command) : input = command.toInput := by
  cases input with
  | transport event =>
    obtain rfl := Option.some.inj h
    rfl
  | setPlaybackTarget targetId =>
    obtain rfl := Option.some.inj h
    rfl
  | tick => cases h

/-- A tick changes no target. -/
theorem ReceiverWorker.WorkerInput.retarget_of_no_command {input : ReceiverWorker.WorkerInput}
    (h : input.command? = none) (targetId : Option String) : input.retarget targetId = targetId := by
  cases input with
  | transport event => cases h
  | setPlaybackTarget targetId => cases h
  | tick => rfl

namespace ReceiverThread

variable {secsF64 : SecsF64} {config : ReceiverConfig} {status : ReceiverSnapshot} {stopping : Bool}
  {thread : ReceiverThread} {worker : ReceiverWorker}

/-- The commands the worker has taken up. -/
def handled (thread : ReceiverThread) : List ReceiverCommand :=
  thread.served.filterMap fun input ↦ input.2.command?

/-- The worker came about as a worker does. -/
def Reaches (secsF64 : SecsF64) (thread : ReceiverThread) (worker : ReceiverWorker) : Prop :=
  Transition.run (ReceiverWorker.step secsF64) (thread.firstWorker secsF64) thread.served = some worker

/-- A worker that came about as a worker does satisfies its invariant. -/
theorem Reaches.invariant (h : thread.Reaches secsF64 worker) : worker.Invariant :=
  Transition.run_invariant (fun worker input next hinvariant hstep ↦ by
    obtain ⟨next', hstep', hnext⟩ := ReceiverWorker.step_invariant secsF64 input hinvariant
    obtain rfl := Option.some.inj (hstep.symm.trans hstep')
    exact hnext) (ReceiverWorker.Invariant.new secsF64 _ _) h

/-- A worker is set to the target it was told last. -/
theorem Reaches.serving (h : thread.Reaches secsF64 worker) :
    worker.Serving ((thread.served.map Prod.snd).foldl ReceiverWorker.WorkerInput.retarget
      thread.config.playbackTargetId) := by
  refine (Transition.run_history
    (I := fun inputs worker ↦ worker.Invariant ∧ worker.Serving ((inputs.map Prod.snd).foldl
      ReceiverWorker.WorkerInput.retarget thread.config.playbackTargetId))
    (fun inputs worker input next hworker hstep ↦ ?_)
    ⟨ReceiverWorker.Invariant.new secsF64 _ _, rfl, ReceiverServiceState.noConfusion⟩ h).2
  obtain ⟨next', hstep', hnext⟩ := ReceiverWorker.step_invariant secsF64 input hworker.1
  obtain rfl := Option.some.inj (hstep.symm.trans hstep')
  rw [List.map_append, List.foldl_append]
  exact ⟨hnext, ReceiverWorker.step_serving hworker.1 hworker.2 hstep⟩

/-- Where the thread is, what has been published. -/
def Published (secsF64 : SecsF64) (config : ReceiverConfig) (status : ReceiverSnapshot)
    (stopping : Bool) (thread : ReceiverThread) : Prop :=
  match thread.phase with
  | .spawned => thread.served = [] ∧
    status = { (ReceiverStatus.fromConfig secsF64 config).worker with state := .listening }
  | .running worker => thread.Reaches secsF64 worker ∧ status = worker.snapshot
  | .ended => stopping = true ∧ thread.channel = [] ∧
    ∃ worker env, thread.Reaches secsF64 worker ∧ status = (worker.shutdown env).snapshot
  | .panicked => False

/-- **The invariant of a thread**, between a runtime with this configuration and this status. -/
structure Sound (secsF64 : SecsF64) (config : ReceiverConfig) (status : ReceiverSnapshot)
    (stopping : Bool) (thread : ReceiverThread) : Prop where
  /-- Only the target has changed since the start. -/
  sameConfig : { thread.config with playbackTargetId := config.playbackTargetId } = config
  /-- What was accepted is handled or waits, in this order, and a `Shutdown` is the last. -/
  waits : ∃ waiting, thread.accepted = thread.handled ++ waiting ∧
    thread.channel = waiting.map .handle ++
      (if stopping && thread.listens then [.shutdown] else []) ∧
    (waiting.map ReceiverCommand.toInput).foldl ReceiverWorker.WorkerInput.retarget
      ((thread.served.map Prod.snd).foldl ReceiverWorker.WorkerInput.retarget
        thread.config.playbackTargetId) = config.playbackTargetId
  published : thread.Published secsF64 config status stopping

/-- A status that is made anew depends on the preset alone. -/
theorem fromConfig_worker (secsF64 : SecsF64) {config config' : ReceiverConfig}
    (h : config.latencyPreset = config'.latencyPreset) :
    (ReceiverStatus.fromConfig secsF64 config).worker =
      (ReceiverStatus.fromConfig secsF64 config').worker := by
  simp only [ReceiverStatus.fromConfig, h]

/-- A command is accepted. -/
theorem Sound.send (h : thread.Sound secsF64 config status false) (hlistens : thread.listens = true)
    (command : ReceiverCommand) :
    (thread.send (.handle command)).Sound secsF64
      { config with playbackTargetId := command.toInput.retarget config.playbackTargetId } status
      false := by
  obtain ⟨waiting, haccepted, hchannel, htarget⟩ := h.waits
  refine ⟨?_, ⟨waiting ++ [command], ?_, ?_, ?_⟩, ?_⟩
  · exact congrArg (fun other : ReceiverConfig ↦
      { other with playbackTargetId := command.toInput.retarget config.playbackTargetId }) h.sameConfig
  · rw [ReceiverThread.send, haccepted, List.append_assoc]
    rfl
  · rw [ReceiverThread.send, hchannel, List.map_append]
    simp only [Bool.false_and, Bool.false_eq_true, if_false, List.append_nil]
    rfl
  · rw [List.map_append, List.foldl_append]
    exact congrArg (fun targetId ↦ command.toInput.retarget targetId) htarget
  · have hpublished := h.published
    simp only [Published, ReceiverThread.send] at hpublished ⊢
    split at hpublished
    · exact hpublished
    · exact hpublished
    next hphase => exact absurd hlistens (by rw [listens, hphase]; exact Bool.false_ne_true)
    · exact hpublished

/-- `Shutdown` is sent. -/
theorem Sound.sendShutdown (h : thread.Sound secsF64 config status false)
    (hlistens : thread.listens = true) : (thread.send .shutdown).Sound secsF64 config status true := by
  obtain ⟨waiting, haccepted, hchannel, htarget⟩ := h.waits
  refine ⟨h.sameConfig, ⟨waiting, ?_, ?_, htarget⟩, ?_⟩
  · rw [ReceiverThread.send, haccepted, List.append_nil]
    rfl
  · have hlistens' : (thread.send .shutdown).listens = true := hlistens
    rw [hlistens', ReceiverThread.send, hchannel]
    simp only [Bool.false_and, Bool.false_eq_true, if_false, List.append_nil, Bool.and_self, if_true]
  · have hpublished := h.published
    simp only [Published, ReceiverThread.send] at hpublished ⊢
    split at hpublished
    · exact hpublished
    · exact hpublished
    · exact absurd hpublished.1 Bool.false_ne_true
    · exact hpublished

/-- The thread makes its worker. -/
theorem Sound.spawn (h : thread.Sound secsF64 config status stopping)
    (hphase : thread.phase = .spawned) :
    ReceiverThread.Sound secsF64 config (thread.firstWorker secsF64).snapshot stopping
      { thread with phase := .running (thread.firstWorker secsF64) } := by
  have hpublished := h.published
  simp only [Published, hphase] at hpublished
  have hwaits := h.waits
  simp only [listens, hphase] at hwaits
  refine ⟨h.sameConfig, hwaits, ?_, rfl⟩
  simp only [Reaches, hpublished.1]
  rfl

/-- The worker takes an input up. -/
theorem Sound.serve {next : ReceiverWorker} {input : HandlerEnv × ReceiverWorker.WorkerInput}
    {channel : List RuntimeCommand} (h : thread.Sound secsF64 config status stopping)
    (hphase : thread.phase = .running worker) (hstep : worker.step secsF64 input = some next)
    (hchannel : thread.channel = input.2.command?.toList.map .handle ++ channel) :
    ReceiverThread.Sound secsF64 config next.snapshot stopping
      { thread with phase := .running next, channel, served := thread.served ++ [input] } := by
  have hpublished := h.published
  simp only [Published, hphase] at hpublished
  obtain ⟨waiting, haccepted, hwaiting, htarget⟩ := h.waits
  simp only [listens, hphase] at hwaiting
  refine ⟨h.sameConfig, ?_, Transition.run_append_singleton.2 ⟨worker, hpublished.1, hstep⟩, rfl⟩
  have hhandled : (thread.served ++ [input]).filterMap (fun input ↦ input.2.command?) =
      thread.handled ++ input.2.command?.toList := by
    rw [List.filterMap_append, handled]
    rcases hcommand : input.2.command? with - | command
    · simp only [List.filterMap_cons, List.filterMap_nil, hcommand, Option.toList_none]
    · simp only [List.filterMap_cons, List.filterMap_nil, hcommand, Option.toList_some]
  simp only [listens]
  rw [handled, hhandled, List.map_append, List.foldl_append]
  rcases hcommand : input.2.command? with - | command
  · rw [hcommand] at hchannel
    refine ⟨waiting, ?_, hchannel.symm.trans hwaiting, ?_⟩
    · rw [haccepted, Option.toList_none, List.append_nil]
    · rw [← htarget]
      exact congrArg (fun targetId ↦ (waiting.map ReceiverCommand.toInput).foldl
        ReceiverWorker.WorkerInput.retarget targetId) (input.2.retarget_of_no_command hcommand _)
  · rw [hcommand] at hchannel
    rcases waiting with - | ⟨first, waiting⟩
    · -- what the thread has taken is not the `Shutdown`
      rw [hchannel, List.map_nil, List.nil_append] at hwaiting
      split at hwaiting
      · exact RuntimeCommand.noConfusion (List.cons.inj hwaiting).1
      · exact absurd hwaiting (List.cons_ne_nil _ _)
    · obtain ⟨hfirst, hrest⟩ := List.cons.inj (hchannel.symm.trans hwaiting)
      obtain rfl := RuntimeCommand.handle.inj hfirst
      refine ⟨waiting, ?_, hrest, ?_⟩
      · rw [haccepted, List.append_assoc]
        rfl
      · rw [← htarget, List.map_singleton, List.foldl_cons, List.foldl_nil,
          ReceiverWorker.WorkerInput.eq_toInput hcommand]
        rfl

/-- The thread leaves its loop. -/
theorem Sound.leave (h : thread.Sound secsF64 config status true)
    (hphase : thread.phase = .running worker) (hchannel : ∃ more, thread.channel = .shutdown :: more)
    (env : HandlerEnv) :
    ReceiverThread.Sound secsF64 config (worker.shutdown env).snapshot true
      { thread with phase := .ended, channel := [] } := by
  have hpublished := h.published
  simp only [Published, hphase] at hpublished
  obtain ⟨more, hmore⟩ := hchannel
  obtain ⟨waiting, haccepted, hwaiting, htarget⟩ := h.waits
  rcases waiting with - | ⟨first, waiting⟩
  · exact ⟨h.sameConfig, ⟨[], haccepted, rfl, htarget⟩, rfl, rfl, worker, env, hpublished.1, rfl⟩
  · exact RuntimeCommand.noConfusion (List.cons.inj (hmore.symm.trans hwaiting)).1

end ReceiverThread

/-! ### What holds at any time -/

namespace ReceiverRuntime

variable {secsF64 : SecsF64} {config : ReceiverConfig} {backendName : String}
  {runtime next : ReceiverRuntime} {inputs : List RuntimeInput}

/-- **The invariant of a runtime.** -/
structure Sound (secsF64 : SecsF64) (runtime : ReceiverRuntime) : Prop where
  /-- The status shows the configuration. -/
  identity : runtime.status = { idleStatus secsF64 runtime.config runtime.backendName with
    playbackTargetId := runtime.status.playbackTargetId
    worker := runtime.status.worker }
  /-- The target in the status lags behind the configuration by a call in progress at most. -/
  target : match runtime.call with
    | some (.setPlaybackTarget targetId) => targetId = runtime.config.playbackTargetId
    | _ => runtime.status.playbackTargetId = runtime.config.playbackTargetId
  /-- Calls fail because they are refused, never because the thread is gone. -/
  answers : ∀ error, .error error ∈ runtime.answers → error.isRefusal = true
  commandTx : runtime.commandTx = (runtime.worker.isSome && !decide (runtime.call = some .stop))
  stopped : runtime.worker = none →
    runtime.status.worker = (ReceiverStatus.fromConfig secsF64 runtime.config).worker
  thread : ∀ thread, runtime.worker = some thread →
    thread.Sound secsF64 runtime.config runtime.status.worker (decide (runtime.call = some .stop))

/-- A runtime that was not started is idle. -/
theorem sound_new (secsF64 : SecsF64) (config : ReceiverConfig) (backendName : String) :
    (withPlaybackEngine secsF64 config backendName).Sound secsF64 :=
  ⟨rfl, rfl, fun _ h ↦ absurd h List.not_mem_nil, rfl, fun _ ↦ rfl, fun _ h ↦ nomatch h⟩

/-- Between calls the target is up to date. -/
theorem Sound.upToDate (h : runtime.Sound secsF64)
    (hcall : ∀ targetId, runtime.call ≠ some (.setPlaybackTarget targetId)) :
    runtime.status.playbackTargetId = runtime.config.playbackTargetId := by
  have htarget := h.target
  split at htarget
  next targetId hset => exact absurd hset (hcall targetId)
  · exact htarget

/-- Without a thread the status is that of a new runtime. -/
theorem Sound.status_of_stopped (h : runtime.Sound secsF64) (hworker : runtime.worker = none)
    (hcall : ∀ targetId, runtime.call ≠ some (.setPlaybackTarget targetId)) :
    runtime.status = idleStatus secsF64 runtime.config runtime.backendName := by
  rw [h.identity, h.stopped hworker, h.upToDate hcall]
  rfl

/-- While a sender is there, the thread listens. -/
theorem Sound.listener (h : runtime.Sound secsF64) (hcommandTx : runtime.commandTx = true) :
    runtime.call ≠ some .stop ∧ ∃ thread, runtime.worker = some thread ∧ thread.listens = true ∧
      runtime.listener = some thread := by
  have hboth := h.commandTx.symm.trans hcommandTx
  rw [Bool.and_eq_true, Bool.not_eq_true', decide_eq_false_iff_not] at hboth
  obtain ⟨thread, hthread⟩ := Option.isSome_iff_exists.1 hboth.1
  have hlistens : thread.listens = true := by
    have hpublished := (h.thread thread hthread).published
    rw [decide_eq_false hboth.2] at hpublished
    rw [ReceiverThread.Published] at hpublished
    rw [ReceiverThread.listens]
    rcases hphase : thread.phase with - | worker | - | -
    · rfl
    · rfl
    · rw [hphase] at hpublished
      exact absurd hpublished.1 Bool.false_ne_true
    · rw [hphase] at hpublished
      exact hpublished.elim
  exact ⟨hboth.2, thread, hthread, hlistens, by rw [ReceiverRuntime.listener, hthread, Option.filter_some,
    if_pos hlistens]⟩

/-- Without a sender there is no thread, or it is being stopped. -/
theorem Sound.worker_eq_none (h : runtime.Sound secsF64) (hcommandTx : runtime.commandTx = false)
    (hcall : runtime.call ≠ some .stop) : runtime.worker = none := by
  have hboth := h.commandTx.symm.trans hcommandTx
  rw [decide_eq_false hcall, Bool.not_false, Bool.and_true, Option.isSome_eq_false_iff] at hboth
  exact Option.isNone_iff_eq_none.1 hboth

/-- One more answer that is a refusal, or none, keeps the answers refusals. -/
theorem answers_concat {answers : List (Except ReceiverCallError Unit)}
    {answer : Except ReceiverCallError Unit}
    (h : ∀ error, .error error ∈ answers → error.isRefusal = true)
    (hanswer : ∀ error, answer = .error error → error.isRefusal = true) (error : ReceiverCallError)
    (hmem : .error error ∈ answers ++ [answer]) : error.isRefusal = true := by
  rcases List.mem_append.1 hmem with hmem | hmem
  · exact h error hmem
  · exact hanswer error (List.mem_singleton.1 hmem).symm

/-- A call that changes nothing returns. -/
theorem Sound.returns (h : runtime.Sound secsF64) (hcall : runtime.call = none)
    {answer : Except ReceiverCallError Unit}
    (hanswer : ∀ error, answer = .error error → error.isRefusal = true) :
    (runtime.returns answer).Sound secsF64 := by
  refine ⟨h.identity, h.upToDate fun targetId hset ↦ ?_, answers_concat h.answers hanswer, ?_,
    h.stopped, ?_⟩
  · rw [hcall] at hset
    cases hset
  · have hcommandTx := h.commandTx
    rw [hcall] at hcommandTx
    exact hcommandTx
  · have hthread := h.thread
    rw [hcall] at hthread
    exact hthread

/-- A change of the target is put into the channel of a thread that listens. -/
theorem sound_setPlaybackTarget (h : runtime.Sound secsF64) (hcall : runtime.call = none)
    (targetId : Option String) : (runtime.setPlaybackTarget targetId).Sound secsF64 := by
  have hcommandTx := h.commandTx
  have hthread := h.thread
  rw [hcall] at hcommandTx hthread
  rw [setPlaybackTarget]
  dsimp only
  split
  next hsender =>
    obtain ⟨-, thread, hworker, hlistens, hlistener⟩ := h.listener hsender
    rw [show ReceiverRuntime.listener { runtime with config := { runtime.config with
      playbackTargetId := targetId } } = some thread from hlistener]
    refine ⟨h.identity.trans rfl, rfl, h.answers, ?_, fun hnone ↦ (nomatch hnone),
      fun other hother ↦ ?_⟩
    · rw [hcommandTx, hworker]
      rfl
    · obtain rfl := Option.some.inj hother
      exact (hthread thread hworker).send hlistens (.setPlaybackTarget targetId)
  next hsender =>
    have hworker := h.worker_eq_none (Bool.eq_false_of_not_eq_true hsender)
      (hcall ▸ fun hstop ↦ nomatch hstop)
    refine ⟨h.identity.trans rfl, rfl, h.answers, ?_, fun _ ↦ (h.stopped hworker).trans
      (ReceiverThread.fromConfig_worker secsF64 rfl), fun other hother ↦ ?_⟩
    · rw [hcommandTx]
      rfl
    · rw [hworker] at hother
      cases hother

/-- A status that shows no worker shows no error. -/
theorem Sound.lastError_of_idle (h : runtime.Sound secsF64) (hcall : runtime.call ≠ some .stop)
    (hidle : runtime.status.worker.state = .idle) : runtime.status.worker.lastError = none := by
  rcases hworker : runtime.worker with - | thread
  · rw [h.stopped hworker]
    rfl
  have hpublished := (h.thread thread hworker).published
  rw [decide_eq_false hcall] at hpublished
  simp only [ReceiverThread.Published] at hpublished
  split at hpublished
  · rw [hpublished.2] at hidle
    exact ReceiverServiceState.noConfusion hidle
  · rw [hpublished.2] at hidle
    exact absurd hidle hpublished.1.serving.busy
  · exact absurd hpublished.1 Bool.false_ne_true
  · exact hpublished.elim

/-- Its second half publishes the target. -/
theorem sound_publishTarget (h : runtime.Sound secsF64) {targetId : Option String}
    (hcall : runtime.call = some (.setPlaybackTarget targetId)) :
    (runtime.publishTarget targetId).Sound secsF64 := by
  have hcommandTx := h.commandTx
  have hthread := h.thread
  have htarget := h.target
  have hstop : runtime.call ≠ some .stop := hcall ▸ fun hstop ↦ nomatch hstop
  rw [hcall] at htarget
  rw [decide_eq_false hstop] at hcommandTx hthread
  have hworker : ({ runtime.status.worker with
      lastError := if runtime.status.worker.state = .idle then none
        else runtime.status.worker.lastError } : ReceiverSnapshot) = runtime.status.worker := by
    split
    next hidle =>
      rw [← h.lastError_of_idle hstop hidle]
    · rfl
  rw [publishTarget, hworker]
  refine ⟨?_, htarget, answers_concat h.answers (fun _ h ↦ nomatch h), hcommandTx, h.stopped, hthread⟩
  exact congrArg (fun status : ReceiverStatus ↦ { status with playbackTargetId := targetId }) h.identity

/-- A preset is refused while the runtime runs, and shows at once otherwise. -/
theorem sound_setLatencyPreset (h : runtime.Sound secsF64) (hcall : runtime.call = none)
    (latencyPreset : ReceiverLatencyPreset) :
    (runtime.setLatencyPreset secsF64 latencyPreset).Sound secsF64 := by
  rw [setLatencyPreset]
  split
  · refine h.returns hcall fun error herror ↦ ?_
    obtain rfl := Except.error.inj herror
    rfl
  next hsender =>
    have hworker := h.worker_eq_none (Bool.eq_false_of_not_eq_true hsender)
      (hcall ▸ fun hstop ↦ nomatch hstop)
    refine ⟨rfl, rfl, answers_concat h.answers (fun _ h ↦ nomatch h), ?_, fun _ ↦ rfl,
      fun other hother ↦ ?_⟩
    · rw [ReceiverRuntime.returns, Bool.eq_false_of_not_eq_true hsender, hworker]
      rfl
    · rw [ReceiverRuntime.returns, hworker] at hother
      cases hother

/-- **A start** makes a channel and a thread, once. -/
theorem sound_start (h : runtime.Sound secsF64) (hcall : runtime.call = none) :
    runtime.start.Sound secsF64 := by
  have htarget := h.upToDate fun targetId hset ↦ nomatch hcall.symm.trans hset
  rw [start]
  split
  · refine h.returns hcall fun error herror ↦ ?_
    obtain rfl := Except.error.inj herror
    rfl
  split
  · exact h.returns hcall fun _ h ↦ nomatch h
  next hsender =>
    have hworker := h.worker_eq_none (Bool.eq_false_of_not_eq_true hsender)
      (hcall ▸ fun hstop ↦ nomatch hstop)
    have hstatus := h.stopped hworker
    refine ⟨?_, htarget, answers_concat h.answers (fun _ h ↦ nomatch h), rfl, fun hnone ↦ (nomatch hnone),
      fun other hother ↦ ?_⟩
    · exact congrArg (fun status : ReceiverStatus ↦ { status with
        worker := { runtime.status.worker with state := .listening, lastError := none } }) h.identity
    · obtain rfl := Option.some.inj hother
      refine ⟨rfl, ⟨[], rfl, rfl, rfl⟩, rfl, ?_⟩
      simp only [ReceiverRuntime.returns, hstatus]
      rfl

/-- **A stop** sends the shutdown and takes the sender away. -/
theorem sound_stop (h : runtime.Sound secsF64) (hcall : runtime.call = none) :
    runtime.stop.Sound secsF64 := by
  have htarget := h.upToDate fun targetId hset ↦ nomatch hcall.symm.trans hset
  have hthread := h.thread
  rw [hcall] at hthread
  rw [stop]
  split
  next hsender =>
    obtain ⟨-, thread, hworker, hlistens, hlistener⟩ := h.listener hsender
    rw [hlistener]
    refine ⟨h.identity, htarget, h.answers, rfl, fun hnone ↦ (nomatch hnone), fun other hother ↦ ?_⟩
    obtain rfl := Option.some.inj hother
    exact (hthread thread hworker).sendShutdown hlistens
  next hsender =>
    have hworker := h.worker_eq_none (Bool.eq_false_of_not_eq_true hsender)
      (hcall ▸ fun hstop ↦ nomatch hstop)
    refine ⟨h.identity, htarget, h.answers, ?_, h.stopped, fun other hother ↦ ?_⟩
    · rw [Bool.eq_false_of_not_eq_true hsender, hworker]
      rfl
    · rw [hworker] at hother
      cases hother

/-- **The join** comes back when the thread has ended, and leaves nothing of it. -/
theorem sound_join (h : runtime.Sound secsF64) (hcall : runtime.call = some .stop)
    (hjoin : runtime.join secsF64 = some next) :
    next.Sound secsF64 ∧ next.worker = none := by
  have hcommandTx := h.commandTx
  rw [hcall, decide_eq_true rfl, Bool.not_true, Bool.and_false] at hcommandTx
  have hstopped : (returns (.ok ()) { runtime with
      worker := none
      status := idleStatus secsF64 runtime.config runtime.backendName }).Sound secsF64 :=
    ⟨rfl, rfl, answers_concat h.answers (fun _ h ↦ nomatch h), hcommandTx, fun _ ↦ rfl,
      fun _ hother ↦ nomatch hother⟩
  simp only [join] at hjoin
  split at hjoin
  · obtain rfl := Option.some.inj hjoin
    exact ⟨hstopped, rfl⟩
  next thread hworker =>
    have hpublished := (h.thread thread hworker).published
    simp only [ReceiverThread.Published] at hpublished
    split at hjoin
    · cases hjoin
    · cases hjoin
    · obtain rfl := Option.some.inj hjoin
      exact ⟨hstopped, rfl⟩
    next hphase =>
      rw [hphase] at hpublished
      exact hpublished.elim

/-- An event is put into the channel, or refused if there is none. -/
theorem sound_submit (h : runtime.Sound secsF64) (hcall : runtime.call = none)
    (event : ReceiverTransportEvent) : (runtime.submit event).Sound secsF64 := by
  have htarget := h.upToDate fun targetId hset ↦ nomatch hcall.symm.trans hset
  have hthread := h.thread
  have hcommandTx := h.commandTx
  rw [hcall] at hthread hcommandTx
  rw [submit]
  split
  next hsender =>
    obtain ⟨-, thread, hworker, hlistens, hlistener⟩ := h.listener hsender
    rw [hlistener]
    refine ⟨h.identity, htarget, answers_concat h.answers (fun _ h ↦ nomatch h), ?_,
      fun hnone ↦ (nomatch hnone), fun other hother ↦ ?_⟩
    · rw [hworker] at hcommandTx
      exact hcommandTx
    · obtain rfl := Option.some.inj hother
      exact (hthread thread hworker).send hlistens (.transport event)
  · refine h.returns hcall fun error herror ↦ ?_
    obtain rfl := Except.error.inj herror
    rfl

/-- The thread moves on and publishes, and the rest stays. -/
theorem Sound.moveThread (h : runtime.Sound secsF64) {thread moved : ReceiverThread}
    (hworker : runtime.worker = some thread) {worker : ReceiverSnapshot}
    (hmoved : moved.Sound secsF64 runtime.config worker (decide (runtime.call = some .stop))) :
    ReceiverRuntime.Sound secsF64 { runtime with
      worker := some moved
      status := { runtime.status with worker } } := by
  refine ⟨?_, ?_, h.answers, ?_, fun hnone ↦ (nomatch hnone), fun other hother ↦ ?_⟩
  · exact congrArg (fun status : ReceiverStatus ↦ { status with worker }) h.identity
  · have htarget := h.target
    split at htarget
    next targetId hcall =>
      simp only [hcall]
      exact htarget
    next hcall => exact htarget
  · rw [h.commandTx, hworker]
    rfl
  · obtain rfl := Option.some.inj hother
    exact hmoved

/-- The worker takes an input up, and does not panic. -/
theorem sound_serve (h : runtime.Sound secsF64) {thread : ReceiverThread}
    (hthread : runtime.worker = some thread) {worker : ReceiverWorker}
    (hphase : thread.phase = .running worker) {channel : List RuntimeCommand}
    {input : HandlerEnv × ReceiverWorker.WorkerInput}
    (hchannel : thread.channel = input.2.command?.toList.map .handle ++ channel) :
    (runtime.serve secsF64 { thread with channel } worker input).Sound secsF64 := by
  have hsound := h.thread thread hthread
  have hpublished := hsound.published
  simp only [ReceiverThread.Published, hphase] at hpublished
  obtain ⟨reached, hstep, -⟩ := ReceiverWorker.step_invariant secsF64 input hpublished.1.invariant
  simp only [serve, hstep]
  exact h.moveThread hthread (hsound.serve hphase hstep hchannel)

/-- **Every step of the thread keeps the invariant.** -/
theorem sound_stepThread (h : runtime.Sound secsF64) {thread : ReceiverThread}
    (hthread : runtime.worker = some thread) {input : RuntimeInput}
    (hstep : runtime.stepThread secsF64 thread input = some next) : next.Sound secsF64 := by
  have hsound := h.thread thread hthread
  simp only [stepThread] at hstep
  split at hstep
  · split at hstep
    next hphase =>
      obtain rfl := Option.some.inj hstep
      exact h.moveThread hthread (hsound.spawn hphase)
    · cases hstep
  next env =>
    split at hstep
    next worker command channel hphase hchannel =>
      obtain rfl := Option.some.inj hstep
      refine sound_serve h hthread hphase ?_
      rw [hchannel, command.command?_toInput]
      rfl
    next worker channel hphase hchannel =>
      obtain rfl := Option.some.inj hstep
      obtain ⟨waiting, -, hwaiting, -⟩ := hsound.waits
      have hstop : decide (runtime.call = some .stop) = true := by
        by_contra hcall
        rw [Bool.eq_false_of_not_eq_true hcall, Bool.false_and, if_neg Bool.false_ne_true,
          List.append_nil, hchannel] at hwaiting
        have hmem : RuntimeCommand.shutdown ∈ waiting.map .handle := hwaiting ▸ List.mem_cons_self
        obtain ⟨command, -, hcommand⟩ := List.mem_map.1 hmem
        cases hcommand
      refine h.moveThread hthread ?_
      rw [hstop] at hsound ⊢
      exact hsound.leave hphase ⟨channel, hchannel⟩ env
    · cases hstep
  next env =>
    split at hstep
    next worker hphase hchannel =>
      obtain rfl := Option.some.inj hstep
      have hserve := @sound_serve secsF64 runtime h thread hthread worker hphase [] (env, .tick) hchannel
      rw [← hchannel] at hserve
      exact hserve
    · cases hstep
  next env =>
    split at hstep
    next worker hphase hchannel =>
      split at hstep
      · cases hstep
      next hsender =>
        -- the sender only goes behind a `Shutdown`
        obtain ⟨waiting, -, hwaiting, -⟩ := hsound.waits
        have hstop : decide (runtime.call = some .stop) = true := by
          by_contra hcall
          have hnone := h.worker_eq_none (Bool.eq_false_of_not_eq_true hsender)
            (of_decide_eq_false (Bool.eq_false_of_not_eq_true hcall))
          rw [hthread] at hnone
          cases hnone
        rw [hstop, ReceiverThread.listens, hphase, hchannel] at hwaiting
        exact absurd hwaiting.symm (List.append_ne_nil_of_right_ne_nil _ (List.cons_ne_nil _ _))
    · cases hstep
  · cases hstep

/-- **Every step keeps the invariant**, whoever takes it. -/
theorem sound_step {input : RuntimeInput} (h : runtime.Sound secsF64)
    (hstep : runtime.step secsF64 input = some next) : next.Sound secsF64 := by
  unfold step at hstep
  split at hstep
  next hcall =>
    obtain rfl := Option.some.inj hstep
    exact sound_setPlaybackTarget h hcall _
  next hcall =>
    obtain rfl := Option.some.inj hstep
    exact sound_setLatencyPreset h hcall _
  next hcall =>
    obtain rfl := Option.some.inj hstep
    exact sound_start h hcall
  next hcall =>
    obtain rfl := Option.some.inj hstep
    exact sound_stop h hcall
  next hcall =>
    obtain rfl := Option.some.inj hstep
    exact sound_submit h hcall _
  next hcall =>
    obtain rfl := Option.some.inj hstep
    exact sound_publishTarget h hcall
  next hcall => exact (sound_join h hcall hstep).1
  next =>
    obtain ⟨thread, hthread, hmoved⟩ := Option.bind_eq_some_iff.1 hstep
    exact sound_stepThread h hthread hmoved

/-- The status is idle exactly when there is no sender. -/
theorem Sound.state_eq_idle_iff (h : runtime.Sound secsF64) (hstop : runtime.call ≠ some .stop) :
    runtime.status.worker.state = .idle ↔ runtime.commandTx = false := by
  refine ⟨fun hidle ↦ ?_, fun hsender ↦ ?_⟩
  · by_contra hsender
    obtain ⟨-, thread, hthread, hlistens, -⟩ := h.listener (Bool.eq_true_of_not_eq_false hsender)
    have hpublished := (h.thread thread hthread).published
    simp only [ReceiverThread.Published] at hpublished
    split at hpublished
    · rw [hpublished.2] at hidle
      exact ReceiverServiceState.noConfusion hidle
    · rw [hpublished.2] at hidle
      exact hpublished.1.serving.busy hidle
    next hphase =>
      rw [ReceiverThread.listens, hphase] at hlistens
      exact absurd hlistens Bool.false_ne_true
    · exact hpublished.elim
  · rw [h.stopped (h.worker_eq_none hsender hstop)]
    rfl

/-- Between calls a runtime without a sender is as good as new. -/
theorem Sound.eq_new (h : runtime.Sound secsF64) (hcall : runtime.call = none)
    (hsender : runtime.commandTx = false) : runtime =
      { withPlaybackEngine secsF64 runtime.config runtime.backendName with
        answers := runtime.answers } := by
  have hworker := h.worker_eq_none hsender fun hstop ↦ nomatch hcall.symm.trans hstop
  have hstatus := h.status_of_stopped hworker fun _ hset ↦ nomatch hcall.symm.trans hset
  obtain ⟨config, backendName, status, commandTx, worker, call, answers⟩ := runtime
  simp only at hcall hsender hworker hstatus
  rw [hcall, hsender, hworker, hstatus]
  rfl

/-- **What a runtime shows and does**, after any calls and any steps of its thread, in any order. No call
fails because the thread is gone. The status shows the configuration, the target at the latest when
`set_playback_target` has returned. Between calls a runtime without a sender is as good as new, and its
status is idle exactly then. A worker in its loop is published as it is, came about as a worker does from
the configuration of the start, and has taken up what was accepted in order, up to what waits in the
channel; when nothing waits it is set to the configured target. -/
theorem runtime_sound
    (hrun : Transition.run (step secsF64) (withPlaybackEngine secsF64 config backendName) inputs =
      some runtime) :
    (∀ error, .error error ∈ runtime.answers → error.isRefusal = true) ∧
    runtime.status = { idleStatus secsF64 runtime.config runtime.backendName with
      playbackTargetId := runtime.status.playbackTargetId
      worker := runtime.status.worker } ∧
    (runtime.call = none →
      runtime.status.playbackTargetId = runtime.config.playbackTargetId ∧
      (runtime.status.worker.state = .idle ↔ runtime.commandTx = false) ∧
      (runtime.commandTx = false → runtime =
        { withPlaybackEngine secsF64 runtime.config runtime.backendName with
          answers := runtime.answers })) ∧
    ∀ thread, runtime.worker = some thread → ∀ worker, thread.phase = .running worker →
      runtime.status.worker = worker.snapshot ∧ thread.Reaches secsF64 worker ∧
      { thread.config with playbackTargetId := runtime.config.playbackTargetId } = runtime.config ∧
      ∃ waiting, thread.accepted = thread.handled ++ waiting ∧
        thread.channel = waiting.map .handle ++
          (if runtime.call = some .stop then [.shutdown] else []) ∧
        (waiting = [] → worker.playbackTargetId = runtime.config.playbackTargetId) := by
  have hsound := Transition.run_invariant (fun _ _ _ ↦ sound_step)
    (sound_new secsF64 config backendName) hrun
  refine ⟨hsound.answers, hsound.identity, fun hcall ↦ ?_, fun thread hthread worker hphase ↦ ?_⟩
  · have hset : ∀ targetId, runtime.call ≠ some (.setPlaybackTarget targetId) :=
      fun targetId hset ↦ nomatch hcall.symm.trans hset
    have hstop : runtime.call ≠ some .stop := fun hstop ↦ nomatch hcall.symm.trans hstop
    exact ⟨hsound.upToDate hset, hsound.state_eq_idle_iff hstop, hsound.eq_new hcall⟩
  · have hthreadSound := hsound.thread thread hthread
    have hpublished := hthreadSound.published
    simp only [ReceiverThread.Published, hphase] at hpublished
    obtain ⟨waiting, haccepted, hwaiting, htarget⟩ := hthreadSound.waits
    refine ⟨hpublished.2, hpublished.1, hthreadSound.sameConfig, waiting, haccepted, ?_, ?_⟩
    · simpa only [ReceiverThread.listens, hphase, Bool.and_true, decide_eq_true_eq] using hwaiting
    · rintro rfl
      exact hpublished.1.serving.target.trans htarget

end ReceiverRuntime

namespace Sample

/-- Packets of 10 ms. -/
def tenMillis : SecsF64 := fun _ _ ↦ 10000000

/-- The target is changed while the runtime runs. -/
def retargetInputs : List RuntimeInput :=
  [.start, .spawn, .setPlaybackTarget (some "headphones"), .deliver (ReceiverWorker.calmEnv 0),
    .publishTarget]

end Sample

namespace ReceiverRuntime

variable {secsF64 : SecsF64} {config : ReceiverConfig} {backendName : String}
  {runtime next : ReceiverRuntime} {inputs : List RuntimeInput}

/-- The target is published when the call returns. -/
theorem runtime_sound_retarget :
    ∃ runtime, Transition.run (step Sample.tenMillis) (withPlaybackEngine Sample.tenMillis {} "pipewire")
        Sample.retargetInputs = some runtime ∧
      runtime.config.playbackTargetId = some "headphones" ∧
      runtime.status.playbackTargetId = runtime.config.playbackTargetId := by
  have hrun : (Transition.run (step Sample.tenMillis) (withPlaybackEngine Sample.tenMillis {} "pipewire")
      Sample.retargetInputs).map (fun runtime ↦ (runtime.call, runtime.config.playbackTargetId)) =
        some (none, some "headphones") := by decide +kernel
  obtain ⟨runtime, hruntime, hfields⟩ := Option.map_eq_some_iff.1 hrun
  obtain ⟨hcall, htarget⟩ := Prod.mk.inj hfields
  exact ⟨runtime, hruntime, htarget, ((runtime_sound hruntime).2.2.1 hcall).1⟩

/-! ### A stop comes to an end -/

end ReceiverRuntime

end SynchroSonic
