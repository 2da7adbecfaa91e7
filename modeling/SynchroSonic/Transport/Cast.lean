import SynchroSonic.Transport.Voices

/-!
# The cast

The sender as a whole: the manager, its connect threads, and behind every session it ever opened the
thread that writes to the socket. The manager tends to entries; a `TargetLine` is what stands behind the
entries of one target — the sessions on their way to the manager, the one in the collection, and those
that are over, whose threads may still have something to say.

The manager's step and the threads' steps meet in the open session. `Cast.InStep` says that they agree on
it: the entry of a target and the live end of its line are one session, in every state of every run
(`cast_inStep`). What the sessions of a target were given is then known: they share out the captured
frames, in order, and no two get the same (`queued_was_captured`).

The threads of a session that is dropped behave as if it had been shut down. A writer thread nobody
listens to any more may still write: whether it is heard is an input.
-/

namespace SynchroSonic

/-! ### The sessions of one target -/

/-- The sessions a target has had, with their threads. -/
structure TargetLine (format : WireFormat) where
  /-- Opened by a connect thread and not in the collection yet, oldest first. -/
  arriving : List (SpokenSession format) := []
  /-- The one in the collection. -/
  live : Option (SpokenSession format) := none
  /-- Those that are over, oldest first. -/
  past : List (SpokenSession format) := []

namespace TargetLine

variable {format : WireFormat}

/-- All of them, in the order in which they were opened. -/
def sessions (line : TargetLine format) : List (SpokenSession format) :=
  line.past ++ line.live.toList ++ line.arriving

/-- The live session is over. -/
def close (reason : Option String) (line : TargetLine format) : TargetLine format :=
  match line.live with
  | none => line
  | some spoken => { line with live := none, past := line.past ++ [spoken.hangUp reason] }

/-- Something was done to the live session, and it stays if it `passes`. -/
def carryOn (passes : Bool) (spoken : SpokenSession format) (line : TargetLine format) :
    TargetLine format :=
  if passes then { line with live := some spoken }
  else { line with live := none, past := line.past ++ [spoken.hangUp none] }

/-- What becomes of the sessions of a target. -/
def follow (line : TargetLine format) : TargetEvent → TargetLine format
  | .queued _ _ =>
    -- an entry that is not busy is replaced, and its session dropped
    if line.live.all fun spoken ↦ spoken.voiced.session.snapshot.state.isBusy then line
    else line.close none
  | .removed => line.close (some "sender removed target")
  | .started _ => line
  | .connected _ =>
    match line.arriving with
    | [] => line
    | spoken :: arriving => { line.close none with arriving, live := some spoken }
  | .failed _ _ failure => if SenderManager.retries failure then line else line.close none
  | .ticked interval env _ =>
    match line.live with
    | none => line
    | some spoken =>
      line.carryOn (spoken.voiced.session.tick interval (spoken.voiced.tickEnv env)).1
        (spoken.ticked interval env)
  | .offered env frame _ =>
    match line.live with
    | none => line
    | some spoken => line.carryOn (spoken.voiced.session.offer env frame).1 (spoken.offered env frame)
  | .errored message => { line with live := line.live.map (SpokenSession.errored message) }

/-- A connect thread has opened a session; nobody may be there to take it. -/
def arrive (taken : Bool) (spoken : SpokenSession format) (line : TargetLine format) :
    TargetLine format :=
  if taken then { line with arriving := line.arriving ++ [spoken] }
  else { line with past := line.past ++ [spoken.hangUp none] }

/-- The oldest session on its way is not wanted any more. -/
def refuse (line : TargetLine format) : TargetLine format :=
  match line.arriving with
  | [] => line
  | spoken :: arriving => { line with
      arriving
      past := line.past ++ [spoken.hangUp (some "sender target was removed before activation")] }

/-- The manager ends. -/
def finish (line : TargetLine format) : TargetLine format :=
  let closed := line.close (some "sender session manager stopping")
  { closed with
    arriving := []
    past := closed.past ++ closed.arriving.map (SpokenSession.hangUp none) }

end TargetLine

/-! ### The whole sender -/

/-- Where a session is. -/
inductive SessionPlace
  | arriving (index : ℕ)
  | live
  | past (index : ℕ)
  deriving DecidableEq, Repr

namespace TargetLine

variable {format : WireFormat}

def at? (line : TargetLine format) : SessionPlace → Option (SpokenSession format)
  | .arriving index => line.arriving[index]?
  | .live => line.live
  | .past index => line.past[index]?

def put (spoken : SpokenSession format) (line : TargetLine format) : SessionPlace → TargetLine format
  | .arriving index => { line with arriving := line.arriving.set index spoken }
  | .live => { line with live := some spoken }
  | .past index => { line with past := line.past.set index spoken }

end TargetLine

/-- The manager with its connect threads, and the sessions with their writer threads. -/
structure Cast (format : WireFormat) where
  system : SenderSystem
  line : DeviceId → TargetLine format
  /-- The frames the capture has given, oldest first. -/
  captured : List FanoutAudioFrame := []

/-- A step of the manager, of a connect thread or of a writer thread. -/
inductive CastInput
  | manager (input : SenderInput)
  | thread (deviceId : DeviceId) (place : SessionPlace) (input : VoicedInput)

/-- A socket that was just opened has carried nothing. -/
def ConnectEnv.onNewSocket (env : ConnectEnv) : ConnectEnv :=
  { env with writer := { env.writer with written := [] } }

/-- The session an attempt opens, with its threads. -/
def ConnectAttempt.spoken? (secsF64 : SecsF64) (format : WireFormat) (env : ConnectEnv)
    (attempt : ConnectAttempt) : Option (SpokenSession format) :=
  match hconnect : attempt.result secsF64 format env.onNewSocket with
  | .ok _ => some (.opened rfl hconnect)
  | .error _ => none

/-- The frame a step takes from the capture. -/
def SenderManager.capturedBy (manager : SenderManager) : SenderInput → List FanoutAudioFrame
  | .capture env =>
    match manager.capture with
    | none => []
    | some capture =>
      match env.tryRecvFrame capture with
      | .ok (some frame) => [manager.stamped env frame]
      | _ => []
  | _ => []

namespace Cast

variable {format : WireFormat}

/-- The sender when its thread starts. -/
def start (format : WireFormat) (secsF64 : SecsF64) (setup : SenderSetup) (now : Instant)
    (target : SenderTarget) : Cast format where
  system := .start secsF64 setup now target
  line _ := {}

/-- A step finds new sockets and, of every open session, what its writer thread has reported. -/
def meets (cast : Cast format) : SenderInput → SenderInput
  | .tick env => .tick { env with tick := fun deviceId ↦
      match (cast.line deviceId).live with
      | none => env.tick deviceId
      | some spoken => spoken.voiced.tickEnv (env.tick deviceId) }
  | .connected attempt env => .connected attempt env.onNewSocket
  | input => input

/-- What a step of the manager means for the sessions of a target. -/
def lineAfter (secsF64 : SecsF64) (cast : Cast format) (input : SenderInput) (deviceId : DeviceId) :
    TargetLine format :=
  let line := cast.line deviceId
  match input with
  | .connected attempt env =>
    if attempt.target.receiverId = deviceId then
      match attempt.spoken? secsF64 format env with
      | none => line
      | some spoken => line.arrive (cast.system.phase ≠ .ended) spoken
    else line
  | .shutdownAll _ => line.finish
  | .connectResult _ =>
    let refused := cast.system.manager.connectRx.head?.any fun result ↦
      match result.2 with
      | .ok session => session.target.receiverId = deviceId ∧
          cast.system.manager.targets.contains deviceId = false
      | .error _ => false
    if refused then line.refuse
    else (cast.system.targetEvents deviceId input).foldl TargetLine.follow line
  | _ => (cast.system.targetEvents deviceId input).foldl TargetLine.follow line

/-- The manager sees what a writer thread has taken out of the queue of an open session. -/
def taken (deviceId : DeviceId) (place : SessionPlace) (spoken : SpokenSession format)
    (system : SenderSystem) : SenderSystem :=
  match place with
  | .live => { system with manager := system.manager.updateActive deviceId fun session ↦
      { session with networkBranch := spoken.voiced.session.networkBranch } }
  | .arriving _ | .past _ => system

/-- One step. -/
def step (secsF64 : SecsF64) (cast : Cast format) : CastInput → Option (Cast format)
  | .manager input =>
    let input := cast.meets input
    (cast.system.step secsF64 format input).map fun system ↦
      { system
        line := cast.lineAfter secsF64 input
        captured := cast.captured ++ cast.system.manager.capturedBy input }
  | .thread deviceId place input =>
    ((cast.line deviceId).at? place).bind fun spoken ↦
      (spoken.thread input).map fun next ↦ { cast with
        system := taken deviceId place next cast.system
        line := Function.update cast.line deviceId ((cast.line deviceId).put next place) }

end Cast

/-! ### A line and its entry -/

/-- The frames an event brings. -/
def TargetEvent.frames : TargetEvent → List FanoutAudioFrame
  | .offered _ frame _ => [frame]
  | _ => []

/-- The session an event brings. -/
def TargetEvent.session? : TargetEvent → Option ManagedTargetSession
  | .connected session => some session
  | _ => none

/-- An event that brings no session and is no tick. -/
def TargetEvent.isPlain : TargetEvent → Bool
  | .connected _ | .ticked _ _ _ => false
  | _ => true

namespace TargetLine

variable {format : WireFormat} {entry : Option TargetSessionEntry}
  {arrivals : List ManagedTargetSession} {captured : List FanoutAudioFrame} {line : TargetLine format}

/-- The frames the sessions were given that are or were in the collection. -/
def queued (line : TargetLine format) : List FanoutAudioFrame :=
  (line.past ++ line.live.toList).flatMap fun spoken ↦ spoken.voiced.pushed

/-- The line belongs to this entry and to these sessions on their way to the manager, and what it was
given has been captured. -/
structure Matches (entry : Option TargetSessionEntry) (arrivals : List ManagedTargetSession)
    (captured : List FanoutAudioFrame) (line : TargetLine format) : Prop where
  live : entry.bind TargetSessionEntry.session = line.live.map SpokenSession.view
  arriving : line.arriving.map (fun spoken ↦ spoken.voiced.session) = arrivals
  unfed : ∀ spoken ∈ line.arriving, spoken.voiced.pushed = []
  isOpen : ∀ spoken ∈ line.live.toList ++ line.arriving, spoken.voiced.closed = false
  queued : line.queued.Sublist captured

/-- What was given has been captured, also when more is captured. -/
theorem Matches.mono (h : line.Matches entry arrivals captured) (more : List FanoutAudioFrame) :
    line.Matches entry arrivals (captured ++ more) :=
  ⟨h.live, h.arriving, h.unfed, h.isOpen, h.queued.trans (List.sublist_append_left _ _)⟩

/-- The live session is over, and so is the one in the entry. -/
theorem Matches.close (h : line.Matches entry arrivals captured) (reason : Option String)
    {entry' : Option TargetSessionEntry} (hentry : entry'.bind TargetSessionEntry.session = none) :
    (line.close reason).Matches entry' arrivals captured ∧ (line.close reason).live = none := by
  obtain ⟨arriving, live, past⟩ := line
  rcases live with - | spoken
  · exact ⟨⟨hentry, h.arriving, h.unfed, h.isOpen, h.queued⟩, rfl⟩
  · refine ⟨⟨hentry, h.arriving, h.unfed, fun other hmem ↦ ?_, ?_⟩, rfl⟩
    · exact h.isOpen other (List.mem_append_right _ hmem)
    · have hqueued := h.queued
      simp only [TargetLine.queued, TargetLine.close, Option.toList, List.flatMap_append,
        List.flatMap_singleton, List.append_nil] at hqueued ⊢
      exact hqueued

/-- The session in the entry changes, and the live one with it. -/
theorem Matches.carryOn (h : line.Matches entry arrivals captured) {spoken next : SpokenSession format}
    (hlive : line.live = some spoken) {passes writerJoined : Bool} {session : ManagedTargetSession}
    (hview : next.view = session) (hopen : next.voiced.closed = spoken.voiced.closed)
    {frames : List FanoutAudioFrame} (hpushed : next.voiced.pushed = spoken.voiced.pushed ++ frames) :
    (line.carryOn passes next).Matches
      (some (TargetSessionEntry.settled writerJoined (passes, session))) arrivals
      (captured ++ frames) := by
  obtain ⟨arriving, live, past⟩ := line
  obtain rfl : live = some spoken := hlive
  have hqueued := h.queued.append (List.Sublist.refl frames)
  simp only [TargetLine.queued, Option.toList, List.flatMap_append, List.flatMap_singleton,
    List.append_assoc] at hqueued
  have hstays : spoken.voiced.closed = false := h.isOpen spoken List.mem_cons_self
  unfold TargetLine.carryOn TargetSessionEntry.settled
  cases passes with
  | true =>
    refine ⟨congrArg some hview.symm, h.arriving, h.unfed, fun other hmem ↦ ?_, ?_⟩
    · rcases List.mem_cons.1 hmem with rfl | hmem
      · exact hopen.trans hstays
      · exact h.isOpen other (List.mem_cons_of_mem _ hmem)
    · simp only [TargetLine.queued, if_true, Option.toList, List.flatMap_append,
        List.flatMap_singleton, hpushed]
      exact hqueued
  | false =>
    refine ⟨rfl, h.arriving, h.unfed, fun other hmem ↦ ?_, ?_⟩
    · exact h.isOpen other (List.mem_cons_of_mem _ hmem)
    · simp only [TargetLine.queued, Bool.false_eq_true, if_false, Option.toList, List.flatMap_append,
        List.flatMap_singleton, List.append_nil]
      exact (congrArg (fun pushed ↦ (past.flatMap fun spoken ↦ spoken.voiced.pushed) ++ pushed)
        hpushed) ▸ hqueued

/-- The entry of a live session. -/
theorem Matches.active (h : line.Matches entry arrivals captured) {spoken : SpokenSession format}
    (hlive : line.live = some spoken) : entry = some (.active spoken.view) := by
  have hsession := h.live
  rw [hlive] at hsession
  obtain ⟨present, rfl, hpresent⟩ := Option.bind_eq_some_iff.1 hsession
  cases present with
  | active session => rw [Option.some.inj hpresent]
  | pending queued => cases hpresent
  | failed snapshot => cases hpresent

/-- Without a live session the entry has none. -/
theorem Matches.idle (h : line.Matches entry arrivals captured) (hlive : line.live = none) :
    entry.bind TargetSessionEntry.session = none := by
  rw [h.live, hlive, Option.map_none]

/-- What happens to the entry does not concern a session. -/
theorem Matches.same (h : line.Matches entry arrivals captured) {entry' : Option TargetSessionEntry}
    (hentry : entry'.bind TargetSessionEntry.session = entry.bind TargetSessionEntry.session) :
    line.Matches entry' arrivals captured :=
  ⟨hentry.trans h.live, h.arriving, h.unfed, h.isOpen, h.queued⟩

/-- A target that is added again may drop its live session. -/
theorem matches_queued (h : line.Matches entry arrivals captured) (now : Instant)
    (target : SenderTarget) :
    (line.follow (.queued now target)).Matches (TargetEvent.apply entry (.queued now target)) arrivals
      captured := by
  rcases hlive : line.live with - | spoken
  · have hidle := h.idle hlive
    simp only [follow, hlive, Option.all_none, if_true, TargetEvent.apply]
    split
    · exact h
    · exact h.same hidle.symm
  · obtain rfl := h.active hlive
    have hbusy : (TargetSessionEntry.active spoken.view).state.isBusy =
        spoken.voiced.session.snapshot.state.isBusy := rfl
    simp only [follow, hlive, Option.all_some, TargetEvent.apply, Option.any_some, hbusy]
    split
    · exact h
    · exact (h.close none rfl).1

/-- A failed attempt has no session. -/
theorem matches_failed (h : line.Matches entry arrivals captured) (now : Instant) (nowUnixMs : ℕ)
    (failure : TargetConnectFailure) :
    (line.follow (.failed now nowUnixMs failure)).Matches
      (TargetEvent.apply entry (.failed now nowUnixMs failure)) arrivals captured := by
  simp only [follow, TargetEvent.apply]
  split
  next hretries =>
    rw [funext (TargetSessionEntry.afterFailure_of_retries hretries now nowUnixMs)]
    refine h.same ?_
    rcases entry with - | queued | session | snapshot <;> rfl
  next hretries =>
    rw [funext (TargetSessionEntry.afterFailure_of_not_retries hretries now nowUnixMs)]
    refine (h.close none ?_).1
    cases entry <;> rfl

/-- An attempt that is started is not on the line yet. -/
theorem matches_started (h : line.Matches entry arrivals captured) (now : Instant) :
    line.Matches (TargetEvent.apply entry (.started now)) arrivals captured := by
  refine h.same ?_
  rcases entry with - | queued | session | snapshot
  · rfl
  · simp only [TargetEvent.apply, Option.map_some, TargetSessionEntry.started, Option.bind_some]
    split <;> rfl
  · rfl
  · rfl

/-- The error of the capture is noted in the session. -/
theorem matches_errored (h : line.Matches entry arrivals captured) (message : String) :
    (line.follow (.errored message)).Matches (TargetEvent.apply entry (.errored message)) arrivals
      captured := by
  obtain ⟨arriving, live, past⟩ := line
  rcases live with - | spoken
  · have hidle := h.idle rfl
    refine h.same ?_
    rcases entry with - | queued | session | snapshot
    · rfl
    · rfl
    · cases hidle
    · rfl
  · obtain rfl := h.active rfl
    refine ⟨rfl, h.arriving, h.unfed, fun other hmem ↦ ?_, ?_⟩
    · rcases List.mem_cons.1 hmem with rfl | hmem
      · exact h.isOpen spoken List.mem_cons_self
      · exact h.isOpen other (List.mem_cons_of_mem _ hmem)
    · have hqueued := h.queued
      simp only [TargetLine.queued, TargetLine.follow, Option.map_some, Option.toList,
        List.flatMap_append, List.flatMap_singleton] at hqueued ⊢
      exact hqueued

/-- A tick takes what the session's own threads have left it. -/
theorem matches_ticked (h : line.Matches entry arrivals captured) {interval : Duration} {env : TickEnv}
    (hmeets : ∀ spoken, line.live = some spoken → spoken.voiced.tickEnv env = env)
    (writerJoined : Bool) :
    (line.follow (.ticked interval env writerJoined)).Matches
      (TargetEvent.apply entry (.ticked interval env writerJoined)) arrivals captured := by
  rcases hlive : line.live with - | spoken
  · have hidle := h.idle hlive
    simp only [follow, hlive]
    refine h.same ?_
    rcases entry with - | queued | session | snapshot
    · rfl
    · rfl
    · cases hidle
    · rfl
  · obtain rfl := h.active hlive
    have htick := ManagedTargetSession.tick_unnamed interval env spoken.voiced.session
    simp only [follow, hlive, hmeets spoken hlive, TargetEvent.apply, Option.map_some,
      TargetSessionEntry.actOn]
    rw [SpokenSession.view, htick]
    have hnext : (spoken.ticked interval env).view = (spoken.voiced.session.tick interval env).2.unnamed := by
      simp only [SpokenSession.view, SpokenSession.ticked, VoicedSession.ticked, hmeets spoken hlive]
    rw [← List.append_nil captured]
    exact h.carryOn hlive hnext rfl (List.append_nil _).symm

/-- A frame that is captured is given to the live session, or to none. -/
theorem matches_offered (h : line.Matches entry arrivals captured) (env : QueueEnv)
    (frame : FanoutAudioFrame) (writerJoined : Bool) :
    (line.follow (.offered env frame writerJoined)).Matches
      (TargetEvent.apply entry (.offered env frame writerJoined)) arrivals (captured ++ [frame]) := by
  rcases hlive : line.live with - | spoken
  · have hidle := h.idle hlive
    simp only [follow, hlive]
    refine (h.mono [frame]).same ?_
    rcases entry with - | queued | session | snapshot
    · rfl
    · rfl
    · cases hidle
    · rfl
  · obtain rfl := h.active hlive
    simp only [follow, hlive, TargetEvent.apply, Option.map_some, TargetSessionEntry.actOn]
    rw [SpokenSession.view, ManagedTargetSession.offer_unnamed]
    refine h.carryOn hlive ?_ ?_ ?_
    · rfl
    · rfl
    · rfl

/-- **An event does to the line what it does to the entry.** -/
theorem Matches.follow (h : line.Matches entry arrivals captured) {event : TargetEvent}
    (hsession : event.session? = none)
    (hticked : ∀ interval env writerJoined, event = .ticked interval env writerJoined →
      ∀ spoken, line.live = some spoken → spoken.voiced.tickEnv env = env) :
    (line.follow event).Matches (event.apply entry) arrivals (captured ++ event.frames) := by
  have hkept := h.mono event.frames
  cases event with
  | queued now target => exact matches_queued hkept now target
  | removed => exact (hkept.close _ rfl).1
  | started now => exact matches_started hkept now
  | connected session => cases hsession
  | failed now nowUnixMs failure => exact matches_failed hkept now nowUnixMs failure
  | ticked interval env writerJoined =>
    exact matches_ticked hkept (hticked interval env writerJoined rfl) writerJoined
  | offered env frame writerJoined => exact matches_offered h env frame writerJoined
  | errored message => exact matches_errored hkept message

/-- The session of a result takes the place of the entry. -/
theorem Matches.connected {session : ManagedTargetSession}
    (h : line.Matches entry (session :: arrivals) captured) :
    (line.follow (.connected session.unnamed)).Matches (some (.active session.unnamed)) arrivals
      captured := by
  obtain ⟨hclosed, hnone⟩ := h.close none
    (show (none : Option TargetSessionEntry).bind TargetSessionEntry.session = none from rfl)
  have harriving := h.arriving
  obtain ⟨arriving, live, past⟩ := line
  rcases arriving with - | ⟨spoken, arriving⟩
  · cases harriving
  obtain ⟨hhead, hrest⟩ := List.cons.inj harriving
  have hunfed := List.forall_mem_cons.1 h.unfed
  have hopen : ∀ other ∈ spoken :: arriving, other.voiced.closed = false :=
    fun other hmem ↦ h.isOpen other (List.mem_append_right _ hmem)
  refine ⟨?_, hrest, hunfed.2, hopen, ?_⟩
  · rw [← hhead]
    rfl
  have hqueued := hclosed.queued
  simp only [TargetLine.queued, hnone] at hqueued
  simp only [TargetLine.queued, TargetLine.follow, Option.toList, List.flatMap_append,
    List.flatMap_singleton, hunfed.1, List.append_nil] at hqueued ⊢
  exact hqueued

/-- A session that is opened is on its way, or past if nobody is there to take it. -/
theorem Matches.arrive (h : line.Matches entry arrivals captured) {spoken : SpokenSession format}
    (hunfed : spoken.voiced.pushed = []) (hopen : spoken.voiced.closed = false) :
    (line.arrive true spoken).Matches entry (arrivals ++ [spoken.voiced.session]) captured ∧
      (line.arrive false spoken).Matches entry arrivals captured := by
  refine ⟨⟨h.live, ?_, fun other hmem ↦ ?_, fun other hmem ↦ ?_, h.queued⟩,
    ⟨h.live, h.arriving, h.unfed, h.isOpen, ?_⟩⟩
  · rw [← h.arriving]
    exact List.map_append
  · rcases List.mem_append.1 hmem with hmem | hmem
    · exact h.unfed other hmem
    · rw [List.mem_singleton.1 hmem]
      exact hunfed
  · change other ∈ line.live.toList ++ (line.arriving ++ [spoken]) at hmem
    rw [← List.append_assoc] at hmem
    rcases List.mem_append.1 hmem with hmem | hmem
    · exact h.isOpen other hmem
    · rw [List.mem_singleton.1 hmem]
      exact hopen
  · have hqueued := h.queued
    have hnothing : (spoken.hangUp none).voiced.pushed = [] := hunfed
    simp only [TargetLine.queued, TargetLine.arrive, Bool.false_eq_true, if_false, List.flatMap_append,
      List.flatMap_singleton, hnothing, List.append_nil] at hqueued ⊢
    exact hqueued

/-- One that nobody wants any more leaves the line. -/
theorem Matches.refuse {session : ManagedTargetSession}
    (h : line.Matches entry (session :: arrivals) captured) :
    line.refuse.Matches entry arrivals captured := by
  have harriving := h.arriving
  obtain ⟨arriving, live, past⟩ := line
  rcases arriving with - | ⟨spoken, arriving⟩
  · cases harriving
  obtain ⟨-, hrest⟩ := List.cons.inj harriving
  have hunfed := List.forall_mem_cons.1 h.unfed
  refine ⟨h.live, hrest, hunfed.2, fun other hmem ↦ h.isOpen other ?_, ?_⟩
  · rcases List.mem_append.1 hmem with hmem | hmem
    · exact List.mem_append_left _ hmem
    · exact List.mem_append_right _ (List.mem_cons_of_mem _ hmem)
  · have hqueued := h.queued
    have hnothing (reason : Option String) : (spoken.hangUp reason).voiced.pushed = [] := hunfed.1
    simp only [TargetLine.queued, TargetLine.refuse, List.flatMap_append, List.flatMap_singleton,
      hnothing, List.append_nil] at hqueued ⊢
    exact hqueued

/-- In the end the line is empty. -/
theorem Matches.finish (h : line.Matches entry arrivals captured) :
    line.finish.Matches none [] captured := by
  obtain ⟨hclosed, hnone⟩ := h.close (some "sender session manager stopping")
    (show (none : Option TargetSessionEntry).bind TargetSessionEntry.session = none from rfl)
  refine ⟨?_, rfl, fun _ hmem ↦ absurd hmem List.not_mem_nil, fun other hmem ↦ ?_, ?_⟩
  · simp only [TargetLine.finish, hnone]
    rfl
  · simp only [TargetLine.finish, hnone] at hmem
    exact absurd hmem List.not_mem_nil
  · have hnothing : ((line.close (some "sender session manager stopping")).arriving.map
        (SpokenSession.hangUp none)).flatMap (fun spoken ↦ spoken.voiced.pushed) = [] := by
      rw [List.flatMap_eq_nil_iff]
      intro spoken hmem
      obtain ⟨other, hother, rfl⟩ := List.mem_map.1 hmem
      exact hclosed.unfed other hother
    have hqueued := hclosed.queued
    simp only [TargetLine.queued, TargetLine.finish, hnone, List.flatMap_append, hnothing,
      List.append_nil] at hqueued ⊢
    exact hqueued

/-- To put something in a place that looks the same from outside. -/
theorem map_set_of_same {α β : Type} {f : α → β} {as : List α} {index : ℕ} {a b : α}
    (hindex : as[index]? = some a) (hsame : f b = f a) : (as.set index b).map f = as.map f := by
  obtain ⟨hlt, rfl⟩ := List.getElem?_eq_some_iff.1 hindex
  rw [List.map_set, hsame, ← List.map_set, List.set_getElem_self]

/-- A thread goes on whose session is on its way. -/
theorem Matches.put_arriving (h : line.Matches entry arrivals captured) {index : ℕ}
    {spoken after : SpokenSession format} (hspoken : line.arriving[index]? = some spoken)
    (hsession : after.voiced.session = spoken.voiced.session)
    (hclosed : after.voiced.closed = spoken.voiced.closed)
    (hpushed : after.voiced.pushed = spoken.voiced.pushed) :
    (line.put after (.arriving index)).Matches entry arrivals captured := by
  have hmem := List.mem_of_getElem? hspoken
  refine ⟨h.live, ?_, fun other hother ↦ ?_, fun other hother ↦ ?_, h.queued⟩
  · rw [← h.arriving]
    exact map_set_of_same hspoken hsession
  · rcases List.mem_or_eq_of_mem_set hother with hother | rfl
    · exact h.unfed other hother
    · exact hpushed.trans (h.unfed spoken hmem)
  · rcases List.mem_append.1 hother with hother | hother
    · exact h.isOpen other (List.mem_append_left _ hother)
    · rcases List.mem_or_eq_of_mem_set hother with hother | rfl
      · exact h.isOpen other (List.mem_append_right _ hother)
      · exact hclosed.trans (h.isOpen spoken (List.mem_append_right _ hmem))

/-- A thread goes on whose session is in the collection. -/
theorem Matches.put_live (h : line.Matches entry arrivals captured) {spoken after : SpokenSession format}
    (hlive : line.live = some spoken) (hclosed : after.voiced.closed = spoken.voiced.closed)
    (hpushed : after.voiced.pushed = spoken.voiced.pushed) :
    (line.put after .live).Matches (some (.active after.view)) arrivals captured := by
  obtain ⟨arriving, live, past⟩ := line
  obtain rfl : live = some spoken := hlive
  refine ⟨rfl, h.arriving, h.unfed, fun other hmem ↦ ?_, ?_⟩
  · rcases List.mem_cons.1 hmem with rfl | hmem
    · exact hclosed.trans (h.isOpen spoken List.mem_cons_self)
    · exact h.isOpen other (List.mem_cons_of_mem _ hmem)
  · have hqueued := h.queued
    simp only [TargetLine.queued, TargetLine.put, Option.toList, List.flatMap_append,
      List.flatMap_singleton, hpushed] at hqueued ⊢
    exact hqueued

/-- A thread goes on whose session is over. -/
theorem Matches.put_past (h : line.Matches entry arrivals captured) {index : ℕ}
    {spoken after : SpokenSession format} (hspoken : line.past[index]? = some spoken)
    (hpushed : after.voiced.pushed = spoken.voiced.pushed) :
    (line.put after (.past index)).Matches entry arrivals captured := by
  refine ⟨h.live, h.arriving, h.unfed, h.isOpen, ?_⟩
  have hsame : (line.past.set index after).flatMap (fun spoken ↦ spoken.voiced.pushed) =
      line.past.flatMap fun spoken ↦ spoken.voiced.pushed :=
    congrArg List.flatten (@map_set_of_same _ _ (fun spoken : SpokenSession format ↦
      spoken.voiced.pushed) _ _ _ _ hspoken hpushed)
  have hqueued := h.queued
  simp only [TargetLine.queued, TargetLine.put, List.flatMap_append, hsame] at hqueued ⊢
  exact hqueued

/-- The same for several events that bring no session and are no ticks. -/
theorem Matches.foldl (h : line.Matches entry arrivals captured) {events : List TargetEvent}
    (hplain : ∀ event ∈ events, event.isPlain = true) :
    (events.foldl TargetLine.follow line).Matches (events.foldl TargetEvent.apply entry) arrivals
      (captured ++ events.flatMap TargetEvent.frames) := by
  induction events generalizing line entry captured with
  | nil =>
    rw [List.flatMap_nil, List.append_nil]
    exact h
  | cons event events ih =>
    obtain ⟨hevent, hevents⟩ := List.forall_mem_cons.1 hplain
    rw [List.flatMap_cons, ← List.append_assoc]
    refine ih (h.follow ?_ ?_) hevents
    · cases event <;> first | rfl | cases hevent
    · rintro interval env writerJoined rfl
      cases hevent

end TargetLine

/-! ### Every step keeps them together -/

/-- An input that neither sends nor takes a result of a connect thread. -/
def SenderInput.isCall : SenderInput → Bool
  | .connectResult _ | .shutdownAll _ | .connected _ _ => false
  | _ => true

/-- The session of a result, if it was opened for this target. -/
def sessionFor? (deviceId : DeviceId) : ConnectAttempt × TargetConnectResult →
    Option ManagedTargetSession
  | (_, .ok session) => if session.target.receiverId = deviceId then some session else none
  | (_, .error _) => none

namespace Cast

variable {secsF64 : SecsF64} {format : WireFormat} {cast next : Cast format}

/-- The lines belong to the entries. -/
structure InStep (cast : Cast format) : Prop where
  wellKept : cast.system.manager.WellKept
  line : ∀ deviceId, (cast.line deviceId).Matches (cast.system.manager.view deviceId)
    (cast.system.manager.connectRx.filterMap (sessionFor? deviceId)) cast.captured

section Calls

variable {system after : SenderSystem} {input : SenderInput} {deviceId : DeviceId}

/-- Only results and the end of the manager touch the channel of the connect threads. -/
theorem connectRx_of_isCall (hkeyed : system.manager.Keyed) (hcall : input.isCall = true)
    (hstep : system.step secsF64 format input = some after) :
    after.manager.connectRx = system.manager.connectRx := by
  cases step_effect hkeyed hstep with
  | tended quiet running phase tended => exact tended.sameThreads.connectRx
  | queued env target running phase manager =>
    rw [manager]
    rcases SenderManager.queueTargetConnect_cases env.now target system.manager with
      ⟨-, -, -, hsame⟩ | ⟨-, hreplaced⟩
    · rw [hsame]
    · exact hreplaced.connectRx
  | launched env running phase walked manager =>
    rw [manager]
    exact @SenderManager.processPendingTargets_invariant _
      (fun next ↦ next.connectRx = system.manager.connectRx)
      (fun _ _ _ _ hsame hlaunched ↦ hlaunched.connectRx.trans hsame) env walked rfl
  | result | ended | sent | unsent => cases hcall

/-- The events of such a call are plain, and they bring what the capture gives. -/
theorem plain_of_isCall (hcall : input.isCall = true) (htick : ∀ env, input ≠ .tick env) :
    (∀ event ∈ system.targetEvents deviceId input, event.isPlain = true) ∧
      ((system.targetEvents deviceId input).flatMap TargetEvent.frames).Sublist
        (system.manager.capturedBy input) := by
  have hnone {events : List TargetEvent} (hevents : events = []) :
      (∀ event ∈ events, event.isPlain = true) ∧ (events.flatMap TargetEvent.frames).Sublist
        (system.manager.capturedBy input) := by
    rw [hevents]
    exact ⟨fun _ hmem ↦ absurd hmem List.not_mem_nil, List.nil_sublist _⟩
  have hone {events : List TargetEvent} (event : TargetEvent) (hevents : events = [event])
      (hplain : event.isPlain = true)
      (hframes : event.frames.Sublist (system.manager.capturedBy input)) :
      (∀ event ∈ events, event.isPlain = true) ∧ (events.flatMap TargetEvent.frames).Sublist
        (system.manager.capturedBy input) := by
    rw [hevents]
    exact ⟨List.forall_mem_singleton.2 hplain, by rwa [List.flatMap_singleton]⟩
  cases input with
  | command env command =>
    cases command with
    | addTarget target =>
      by_cases heq : target.receiverId = deviceId
      · exact hone (.queued env.now target) (if_pos heq) rfl (List.nil_sublist _)
      · exact hnone (if_neg heq)
    | removeTarget removed =>
      by_cases heq : removed = deviceId
      · exact hone .removed (if_pos heq) rfl (List.nil_sublist _)
      · exact hnone (if_neg heq)
    | _ => exact hnone rfl
  | pendingTargets env => exact hone (.started env.now) rfl rfl (List.nil_sublist _)
  | capture env =>
    rcases hcapture : system.manager.capture with - | capture
    · exact hnone (by simp only [SenderSystem.targetEvents, SenderManager.captureEvents, hcapture])
    rcases hframe : env.tryRecvFrame capture with error | - | frame
    · obtain ⟨message, herrored⟩ : ∃ message,
          system.targetEvents deviceId (.capture env) = [.errored message] := by
        simp only [SenderSystem.targetEvents, SenderManager.captureEvents, hcapture, hframe]
        cases error <;> exact ⟨_, rfl⟩
      exact hone (.errored message) herrored rfl (List.nil_sublist _)
    · exact hnone (by simp only [SenderSystem.targetEvents, SenderManager.captureEvents, hcapture,
        hframe])
    · refine hone (.offered (env.queue deviceId) (system.manager.stamped env frame)
        (env.writerJoined deviceId)) ?_ rfl ?_
      · simp only [SenderSystem.targetEvents, SenderManager.captureEvents, hcapture, hframe]
      · simp only [SenderManager.capturedBy, hcapture, hframe]
        exact List.Sublist.refl _
  | tick env => exact absurd rfl (htick env)
  | connectResult env => cases hcall
  | shutdownAll env => cases hcall
  | connected attempt env => cases hcall
  | noCommand | noConnectResult | mirrorEvents env | idle env | refresh env => exact hnone rfl

end Calls

/-- A new session, or none. -/
theorem spoken?_cases (attempt : ConnectAttempt) (env : ConnectEnv) :
    (∃ session spoken, attempt.result secsF64 format env.onNewSocket = .ok session ∧
      attempt.spoken? secsF64 format env = some spoken ∧ spoken.voiced.session = session ∧
      spoken.voiced.pushed = [] ∧ spoken.voiced.closed = false ∧
      session.target.receiverId = attempt.target.receiverId) ∨
    ∃ failure, attempt.result secsF64 format env.onNewSocket = .error failure ∧
      attempt.spoken? secsF64 format env = none := by
  unfold ConnectAttempt.spoken?
  split
  next session hconnect =>
    have hanswers := ManagedTargetSession.connect_answers secsF64 format env.onNewSocket
      ⟨attempt.attempt⟩ attempt.target attempt.attemptCount attempt.request
    rw [show ManagedTargetSession.connect _ _ _ _ _ _ _ = _ from hconnect] at hanswers
    exact Or.inl ⟨session, _, hconnect, rfl, rfl, rfl, rfl,
      congrArg SenderTarget.receiverId hanswers.2.1⟩
  next failure hconnect => exact Or.inr ⟨failure, hconnect, rfl⟩

/-- The manager takes a result. -/
theorem matches_connectResult {env : ManagerEnv} {attempt : ConnectAttempt}
    {result : TargetConnectResult} {connectRx : List (ConnectAttempt × TargetConnectResult)}
    (h : cast.InStep) (hhead : cast.system.manager.connectRx = (attempt, result) :: connectRx)
    (deviceId : DeviceId) :
    (cast.lineAfter secsF64 (.connectResult env) deviceId).Matches
      ((cast.system.targetEvents deviceId (.connectResult env)).foldl TargetEvent.apply
        (cast.system.manager.view deviceId))
      (connectRx.filterMap (sessionFor? deviceId)) cast.captured := by
  have hline := h.line deviceId
  rw [hhead] at hline
  simp only [lineAfter, SenderSystem.targetEvents, hhead, List.head?_cons, Option.any_some]
  have hplain {events : List TargetEvent}
      (hevents : events = [] ∨ ∃ event, events = [event] ∧ event.isPlain = true ∧ event.frames = [])
      {line : TargetLine format} {entry : Option TargetSessionEntry}
      (hmatches : line.Matches entry (connectRx.filterMap (sessionFor? deviceId)) cast.captured) :
      (events.foldl TargetLine.follow line).Matches (events.foldl TargetEvent.apply entry)
        (connectRx.filterMap (sessionFor? deviceId)) cast.captured := by
    rcases hevents with rfl | ⟨event, rfl, hevent, hframes⟩
    · exact hmatches
    · have hfolded := hmatches.foldl (List.forall_mem_singleton.2 hevent)
      rw [List.flatMap_singleton, hframes, List.append_nil] at hfolded
      exact hfolded
  cases result with
  | error failure =>
    refine hplain ?_ hline
    by_cases heq : failure.snapshot.receiverId = deviceId
    · exact Or.inr ⟨.failed env.now env.nowUnixMs failure, if_pos heq, rfl, rfl⟩
    · exact Or.inl (if_neg heq)
  | ok session =>
    by_cases heq : session.target.receiverId = deviceId
    · have hmine : sessionFor? deviceId (attempt, .ok session) = some session := if_pos heq
      rw [List.filterMap_cons_some hmine] at hline
      rcases hcontains : cast.system.manager.targets.contains deviceId with - | -
      · simp only [heq, true_and, hcontains, SenderManager.resultEvents, Bool.false_eq_true, if_false,
          decide_true, if_true, List.foldl_nil]
        exact hline.refuse
      · obtain ⟨entry, hentry⟩ := SenderManager.view_isSome hcontains
        simp only [heq, true_and, hcontains, SenderManager.resultEvents, Bool.true_eq_false,
          if_true, decide_false, Bool.false_eq_true, if_false, List.foldl_append, List.foldl_cons,
          List.foldl_nil]
        refine hplain ?_ (by rw [hentry]; exact hline.connected)
        -- the capture that is started for the session may fail
        split
        · exact Or.inl rfl
        · exact Or.inr ⟨_, rfl, rfl, rfl⟩
    · have hother : sessionFor? deviceId (attempt, .ok session) = none := if_neg heq
      rw [List.filterMap_cons_none hother] at hline
      simp only [heq, false_and, decide_false, Bool.false_eq_true, if_false,
        SenderManager.resultEvents, List.nil_append]
      refine hplain ?_ hline
      split
      · split
        · exact Or.inl rfl
        · exact Or.inr ⟨_, rfl, rfl, rfl⟩
      · exact Or.inl rfl

/-- A connect thread comes back. -/
theorem matches_connected {attempt : ConnectAttempt} {env : ConnectEnv} {system : SenderSystem}
    (h : cast.InStep)
    (hstep : cast.system.step secsF64 format (.connected attempt env.onNewSocket) = some system)
    (deviceId : DeviceId) :
    (cast.lineAfter secsF64 (.connected attempt env.onNewSocket) deviceId).Matches
      (cast.system.manager.view deviceId)
      (system.manager.connectRx.filterMap (sessionFor? deviceId)) cast.captured := by
  have hline := h.line deviceId
  have hconnectRx : system.manager.connectRx = cast.system.manager.connectRx ++
      if cast.system.phase = .ended then []
      else [(attempt, attempt.result secsF64 format env.onNewSocket)] := by
    cases step_effect h.wellKept.keyed hstep with
    | tended quiet => cases quiet
    | sent attempt env phase running thread manager =>
      rw [manager, if_neg running]
      rfl
    | unsent attempt env phase closed thread manager =>
      rw [manager, if_pos closed, List.append_nil]
      rfl
  rw [hconnectRx, List.filterMap_append]
  simp only [lineAfter]
  rcases @spoken?_cases secsF64 format attempt env with
    ⟨session, spoken, hresult, hspoken, hsession, hunfed, hopen, hreceiver⟩ | ⟨failure, hresult, hspoken⟩
  · rw [show attempt.spoken? secsF64 format env.onNewSocket = some spoken from hspoken, hresult]
    obtain ⟨htaken, hleft⟩ := hline.arrive hunfed hopen
    by_cases heq : attempt.target.receiverId = deviceId
    · rw [if_pos heq]
      by_cases hended : cast.system.phase = .ended
      · rw [if_pos hended, List.filterMap_nil, List.append_nil, decide_eq_false (not_not.2 hended)]
        exact hleft
      · have hmine : sessionFor? deviceId (attempt, .ok session) = some session :=
          if_pos (hreceiver.trans heq)
        rw [if_neg hended, List.filterMap_cons_some hmine, List.filterMap_nil,
          decide_eq_true hended, ← hsession]
        exact htaken
    · have hother : sessionFor? deviceId (attempt, .ok session) = none :=
        if_neg (by rw [hreceiver]; exact heq)
      rw [if_neg heq]
      split
      · rw [List.filterMap_nil, List.append_nil]
        exact hline
      · rw [List.filterMap_cons_none hother, List.filterMap_nil, List.append_nil]
        exact hline
  · rw [show attempt.spoken? secsF64 format env.onNewSocket = none from hspoken, hresult, ite_self]
    split
    · rw [List.filterMap_nil, List.append_nil]
      exact hline
    · rw [List.filterMap_cons_none rfl, List.filterMap_nil, List.append_nil]
      exact hline

/-- A tick finds what the writer threads of the open sessions have reported. -/
theorem meets_tick (cast : Cast format) (env : ManagerEnv) : ∃ met, cast.meets (.tick env) = .tick met ∧
    ∀ deviceId spoken, (cast.line deviceId).live = some spoken →
      met.tick deviceId = spoken.voiced.tickEnv (env.tick deviceId) := by
  refine ⟨_, rfl, fun deviceId spoken hlive ↦ ?_⟩
  dsimp only
  rw [hlive]

/-- **The manager's step.** -/
theorem inStep_manager {input : SenderInput} (h : cast.InStep)
    (hstep : cast.step secsF64 (.manager input) = some next) : next.InStep := by
  simp only [step] at hstep
  obtain ⟨system, hsystem, rfl⟩ := Option.map_eq_some_iff.1 hstep
  have hview := step_view h.wellKept.keyed hsystem
  refine ⟨step_wellKept h.wellKept hsystem, fun deviceId ↦ ?_⟩
  rw [hview deviceId]
  have hline := h.line deviceId
  have hcall {met : SenderInput} (hmet : cast.meets input = met) (hcall : met.isCall = true)
      (htick : ∀ env, met ≠ .tick env) (hafter : cast.lineAfter secsF64 met deviceId =
        (cast.system.targetEvents deviceId met).foldl TargetLine.follow (cast.line deviceId)) :
      (cast.lineAfter secsF64 (cast.meets input) deviceId).Matches
        ((cast.system.targetEvents deviceId (cast.meets input)).foldl TargetEvent.apply
          (cast.system.manager.view deviceId))
        (system.manager.connectRx.filterMap (sessionFor? deviceId))
        (cast.captured ++ cast.system.manager.capturedBy (cast.meets input)) := by
    rw [hmet] at hsystem ⊢
    obtain ⟨hplain, hframes⟩ := @plain_of_isCall cast.system met deviceId hcall htick
    rw [hafter, connectRx_of_isCall h.wellKept.keyed hcall hsystem]
    have hfolded := hline.foldl hplain
    exact ⟨hfolded.live, hfolded.arriving, hfolded.unfed, hfolded.isOpen,
      hfolded.queued.trans ((List.Sublist.refl _).append hframes)⟩
  cases input with
  | tick env =>
    obtain ⟨met, hmet, htick⟩ := meets_tick cast env
    rw [hmet] at hsystem ⊢
    have hticked := @TargetLine.Matches.follow _ _ _ _ _ hline
      (.ticked cast.system.manager.heartbeatInterval (met.tick deviceId) (met.writerJoined deviceId)) rfl
      (by
        rintro interval tickEnv writerJoined hevent spoken hlive
        obtain ⟨-, rfl, -⟩ := TargetEvent.ticked.inj hevent
        rw [htick deviceId spoken hlive]
        rfl)
    rw [connectRx_of_isCall h.wellKept.keyed rfl hsystem]
    exact hticked
  | connectResult env =>
    rcases hhead : cast.system.manager.connectRx with - | ⟨⟨attempt, result⟩, connectRx⟩
    · simp only [meets, SenderSystem.step, hhead] at hsystem
      cases hsystem
    · have hrest : system.manager.connectRx = connectRx := by
        simp only [meets, SenderSystem.step, hhead] at hsystem
        obtain ⟨-, -, rfl⟩ := call_eq_some hsystem
        exact (SenderManager.processConnectResult_effect env result
          (cast.system.manager.received connectRx)).sameThreads.connectRx
      rw [hrest]
      exact (@matches_connectResult secsF64 _ _ _ _ _ _ h hhead deviceId).mono _
  | shutdownAll env =>
    obtain ⟨-, -, rfl⟩ := call_eq_some hsystem
    exact hline.finish.mono _
  | connected attempt env => exact (matches_connected h hsystem deviceId).mono _
  | _ => exact hcall rfl rfl (by rintro env ⟨⟩) rfl

/-- **A thread's step.** -/
theorem inStep_thread {deviceId : DeviceId} {place : SessionPlace} {input : VoicedInput}
    (h : cast.InStep) (hstep : cast.step secsF64 (.thread deviceId place input) = some next) :
    next.InStep := by
  simp only [step] at hstep
  obtain ⟨spoken, hspoken, hstep⟩ := Option.bind_eq_some_iff.1 hstep
  obtain ⟨after, hafter, rfl⟩ := Option.map_eq_some_iff.1 hstep
  obtain ⟨hthread, hvoiced⟩ := SpokenSession.thread_eq_some hafter
  obtain ⟨hsession, hclosed, hpushed⟩ := VoicedSession.session_of_thread hthread hvoiced
  have hline := h.line deviceId
  have hrefreshed : cast.system.manager.Refreshed (taken deviceId place after cast.system).manager := by
    cases place with
    | live =>
      exact @SenderManager.refreshed_updateActive (fun session ↦ { session with
        networkBranch := after.voiced.session.networkBranch }) (fun session ↦ ⟨rfl, rfl, rfl⟩)
        deviceId cast.system.manager
    | arriving index => exact .refl _
    | past index => exact .refl _
  have hwellKept := h.wellKept.tended (.of_refreshed hrefreshed)
  refine ⟨hwellKept, fun other ↦ ?_⟩
  dsimp only
  rw [hrefreshed.connectRx]
  rcases eq_or_ne other deviceId with rfl | hne
  · rw [Function.update_self]
    cases place with
    | arriving index =>
      have hunfed := hline.unfed spoken (List.mem_of_getElem? hspoken)
      exact hline.put_arriving hspoken
        (VoicedSession.session_of_unfed spoken.speaks hunfed hthread hvoiced) hclosed hpushed
    | live =>
      have hview : (taken other .live after cast.system).manager.view other =
          some (.active after.view) := by
        obtain ⟨entry, hentry, hunnamed⟩ := Option.map_eq_some_iff.1 (hline.active hspoken)
        cases entry with
        | active session =>
          rw [SenderManager.view, taken, SenderManager.entryOf_updateActive, hentry]
          have hbefore := TargetSessionEntry.active.inj hunnamed
          refine congrArg some (congrArg TargetSessionEntry.active ?_)
          have hbranch : after.voiced.session = { spoken.voiced.session with
              networkBranch := after.voiced.session.networkBranch } := by
            rcases hsession with hsame | ⟨-, htaken⟩
            · rw [hsame]
            · rw [htaken]
              rfl
          rw [SpokenSession.view, hbranch]
          exact congrArg (fun session : ManagedTargetSession ↦ { session with
            networkBranch := after.voiced.session.networkBranch }) hbefore
        | pending queued => cases hunnamed
        | failed snapshot => cases hunnamed
      rw [hview]
      exact hline.put_live hspoken hclosed hpushed
    | past index => exact hline.put_past hspoken hpushed
  · rw [Function.update_of_ne hne]
    have hview : (taken deviceId place after cast.system).manager.view other =
        cast.system.manager.view other := by
      cases place with
      | live => exact SenderManager.view_of_entryOf (SenderManager.entryOf_updateActive_ne hne _ _)
      | arriving index => rfl
      | past index => rfl
    rw [hview]
    exact h.line other

/-- In the beginning every line is empty. -/
theorem inStep_start (secsF64 : SecsF64) (setup : SenderSetup) (now : Instant)
    (target : SenderTarget) : (start format secsF64 setup now target).InStep := by
  refine ⟨start_wellKept secsF64 setup now target, fun deviceId ↦
    ⟨?_, rfl, fun _ hmem ↦ absurd hmem List.not_mem_nil, fun _ hmem ↦ absurd hmem List.not_mem_nil,
      List.Sublist.refl _⟩⟩
  show (((SenderManager.new secsF64 setup).queueTargetConnect now target).view deviceId).bind
    TargetSessionEntry.session = none
  rw [SenderManager.view_queueTargetConnect]
  split
  · rfl
  · rfl

/-- **The manager and the threads mean the same session.** In every state of every run the entry of a
target is an open session exactly when its line has a live one, and they agree on all of it. -/
theorem cast_inStep {setup : SenderSetup} {now : Instant} {target : SenderTarget}
    {inputs : List CastInput}
    (hrun : Transition.run (step secsF64) (start format secsF64 setup now target) inputs = some cast) :
    cast.InStep :=
  Transition.run_invariant (fun _ input _ h hstep ↦ by
    cases input with
    | manager input => exact inStep_manager h hstep
    | thread deviceId place input => exact inStep_thread h hstep)
    (inStep_start secsF64 setup now target) hrun

/-- **What is queued was captured.** The sessions of a target, in the order in which they were opened,
were given frames of the capture, in order and each at most once. -/
theorem queued_was_captured (h : cast.InStep) (deviceId : DeviceId) :
    ((cast.line deviceId).sessions.flatMap fun spoken ↦ spoken.voiced.pushed).Sublist
      cast.captured := by
  have hline := h.line deviceId
  rw [TargetLine.sessions, List.flatMap_append, (List.flatMap_eq_nil_iff).2 hline.unfed,
    List.append_nil]
  exact hline.queued

end Cast

end SynchroSonic
