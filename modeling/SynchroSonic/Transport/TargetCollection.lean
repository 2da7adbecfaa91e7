import SynchroSonic.Transport.TargetSession

/-!
# The target collection

What the manager knows about each target: a connection it is working on, an open session, or the
snapshot of a failure. The collection is a hash map, so whoever walks through it gives the order.

A pending entry records which attempt was started for it last; only proofs look at that.
-/

namespace SynchroSonic

/-- `PendingTargetSession`. -/
structure PendingTargetSession where
  target : SenderTarget
  snapshot : StreamTargetSnapshot
  nextAttemptAt : Instant
  inFlight : Bool := false
  /-- The attempt that was started last. -/
  launched : Option ℕ := none
  deriving DecidableEq, Repr

namespace PendingTargetSession

/-- `PendingTargetSession::new`. -/
def new (now : Instant) (target : SenderTarget) : PendingTargetSession where
  target := target
  snapshot := pendingTargetSnapshot target 0
  nextAttemptAt := now

def scheduleRetry (now : Instant) (nowUnixMs : ℕ) (snapshot : StreamTargetSnapshot)
    (backoff : Duration) (pending : PendingTargetSession) : PendingTargetSession :=
  { pending with
    snapshot := { snapshot with
      nextRetryAtUnixMs := some (Word.satAdd 64 nowUnixMs (Duration.asMillis backoff)) }
    nextAttemptAt := now + backoff
    inFlight := false }

/-- `mark_in_flight`, for the attempt that is about to start. -/
def markInFlight (attempt : ℕ) (pending : PendingTargetSession) : PendingTargetSession :=
  { pending with
    inFlight := true
    launched := some attempt
    snapshot := { pending.snapshot with
      state := .connecting
      health := .pending
      nextRetryAtUnixMs := none
      attemptCount := Word.satAdd 32 pending.snapshot.attemptCount 1 } }

end PendingTargetSession

/-- `TargetSessionEntry`. -/
inductive TargetSessionEntry
  | pending (pending : PendingTargetSession)
  | active (session : ManagedTargetSession)
  | failed (snapshot : StreamTargetSnapshot)

/-- The states in which a target is left alone when it is added again. -/
def StreamSessionState.isBusy : StreamSessionState → Bool
  | .connecting | .negotiating | .streaming => true
  | .idle | .stopping | .error => false

namespace TargetSessionEntry

def snapshot : TargetSessionEntry → StreamTargetSnapshot
  | .pending queued => queued.snapshot
  | .active session => session.snapshot
  | .failed snapshot => snapshot

def state (entry : TargetSessionEntry) : StreamSessionState := entry.snapshot.state

def isPending : TargetSessionEntry → Bool
  | .pending _ => true
  | _ => false

def isActive : TargetSessionEntry → Bool
  | .active _ => true
  | _ => false

/-- A pending entry whose next attempt may start. -/
def isDue (now : Instant) : TargetSessionEntry → Bool
  | .pending queued => !queued.inFlight && decide (queued.nextAttemptAt ≤ now)
  | _ => false

/-- The streams an entry owns. -/
def streams : TargetSessionEntry → List TcpStream
  | .active session => [session.stream]
  | _ => []

end TargetSessionEntry

/-- `TargetSessionCollection`. -/
structure TargetSessionCollection where
  entries : AList fun _ : DeviceId ↦ TargetSessionEntry := ∅

namespace TargetSessionCollection

def stateFor (deviceId : DeviceId) (targets : TargetSessionCollection) :
    Option StreamSessionState :=
  (targets.entries.lookup deviceId).map TargetSessionEntry.state

def contains (deviceId : DeviceId) (targets : TargetSessionCollection) : Bool :=
  (targets.entries.lookup deviceId).isSome

/-- What every `insert_*` does. -/
def insert (deviceId : DeviceId) (entry : TargetSessionEntry) (targets : TargetSessionCollection) :
    TargetSessionCollection :=
  ⟨targets.entries.insert deviceId entry⟩

def remove (deviceId : DeviceId) (targets : TargetSessionCollection) : TargetSessionCollection :=
  ⟨targets.entries.erase deviceId⟩

def hasActiveTargets (targets : TargetSessionCollection) : Bool :=
  targets.entries.entries.any fun entry ↦ entry.2.isActive

def hasPendingTargets (targets : TargetSessionCollection) : Bool :=
  targets.entries.entries.any fun entry ↦ entry.2.isPending

/-- The entry is an open session. -/
def activeSession (deviceId : DeviceId) (targets : TargetSessionCollection) :
    Option ManagedTargetSession :=
  match targets.entries.lookup deviceId with
  | some (.active session) => some session
  | _ => none

/-- The entry is pending. -/
def pendingSession (deviceId : DeviceId) (targets : TargetSessionCollection) :
    Option PendingTargetSession :=
  match targets.entries.lookup deviceId with
  | some (.pending pending) => some pending
  | _ => none

/-- `active_ids`, on a walk in this order. -/
def activeIds (order : List DeviceId) (targets : TargetSessionCollection) : List DeviceId :=
  order.filter fun deviceId ↦ (targets.activeSession deviceId).isSome

/-- `due_pending_targets`, on a walk in this order. -/
def duePendingTargets (order : List DeviceId) (now : Instant) (targets : TargetSessionCollection) :
    List DeviceId :=
  order.filter fun deviceId ↦ (targets.entries.lookup deviceId).any (TargetSessionEntry.isDue now)

/-- The order of `collect_snapshots`: by name, then by identifier. -/
def snapshotLe (left right : StreamTargetSnapshot) : Bool :=
  decide (left.receiverName < right.receiverName) ||
    (left.receiverName == right.receiverName
      && !decide (right.receiverId.value < left.receiverId.value))

/-- `collect_snapshots`, on a walk in this order. -/
def collectSnapshots (order : List DeviceId) (targets : TargetSessionCollection) :
    List StreamTargetSnapshot :=
  (order.filterMap fun deviceId ↦
    (targets.entries.lookup deviceId).map TargetSessionEntry.snapshot).mergeSort snapshotLe

/-! ### Reading after writing -/

variable {deviceId other : DeviceId} {entry : TargetSessionEntry} {targets : TargetSessionCollection}

@[simp] theorem lookup_insert :
    (targets.insert deviceId entry).entries.lookup deviceId = some entry :=
  AList.lookup_insert targets.entries

theorem lookup_insert_ne (h : other ≠ deviceId) :
    (targets.insert deviceId entry).entries.lookup other = targets.entries.lookup other :=
  AList.lookup_insert_ne h

@[simp] theorem lookup_remove : (targets.remove deviceId).entries.lookup deviceId = none :=
  AList.lookup_erase deviceId targets.entries

theorem lookup_remove_ne (h : other ≠ deviceId) :
    (targets.remove deviceId).entries.lookup other = targets.entries.lookup other :=
  AList.lookup_erase_ne h

theorem activeSession_eq_some {session : ManagedTargetSession} :
    targets.activeSession deviceId = some session ↔
      targets.entries.lookup deviceId = some (.active session) := by
  unfold activeSession
  split <;> simp_all

theorem pendingSession_eq_some {pending : PendingTargetSession} :
    targets.pendingSession deviceId = some pending ↔
      targets.entries.lookup deviceId = some (.pending pending) := by
  unfold pendingSession
  split <;> simp_all

end TargetSessionCollection

end SynchroSonic
