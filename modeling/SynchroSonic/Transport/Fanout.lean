import SynchroSonic.Core.Error
import SynchroSonic.Core.Streaming

/-!
# Branch queues and the local mirror

Every consumer of captured audio — a target's writer thread, the local playback mirror — has a bounded
queue of its own. `BufferedBranchQueue` is the sender's view of one: what is in it, and how many frames
were dropped. The consumer takes frames at any time, inside a call of the sender too (`QueueEnv`).

`LocalMirrorBranch` is the manager's end of the mirror: the queue, and the controls sent so far. The
thread behind it is not part of this module, so whether it still listens is an answer of its
surroundings.
-/

namespace SynchroSonic

/-- `FanoutAudioFrame`. -/
structure FanoutAudioFrame where
  sequence : ℕ
  capturedAtMs : ℕ
  capturedAtUnixMs : ℕ
  payload : List UInt8
  deriving DecidableEq, Repr

/-- `BufferedPushOutcome`. -/
inductive BufferedPushOutcome
  | enqueued
  | droppedOldest
  | droppedNewest
  deriving DecidableEq, Repr

/-- `BufferedBranchQueue`: a bounded channel, of which the queue itself keeps both ends. -/
structure BufferedBranchQueue (T : Type) where
  capacity : ℕ
  /-- The items on their way, oldest first. -/
  items : List T := []
  droppedPackets : ℕ := 0
  deriving DecidableEq, Repr

/-- What happens at the other end of a queue during a `push`. -/
structure QueueEnv where
  /-- The channel says that it is closed. -/
  disconnected : Bool := false
  /-- How many items the consumer takes after the queue was found full and before the oldest item is
  taken out. -/
  taken : ℕ := 0
  deriving DecidableEq, Repr

namespace BufferedBranchQueue

variable {T : Type}

/-- `BufferedBranchQueue::new`. -/
def new (capacity : ℕ) : BufferedBranchQueue T where
  capacity := max capacity 1

def snapshot (queue : BufferedBranchQueue T) : StreamBranchBufferSnapshot where
  queuedPackets := Word.wrap 32 (min queue.items.length queue.capacity)
  maxPackets := Word.wrap 32 queue.capacity
  droppedPackets := queue.droppedPackets

/-- The consumer takes items out. -/
def consume (taken : ℕ) (queue : BufferedBranchQueue T) : BufferedBranchQueue T :=
  { queue with items := queue.items.drop taken }

def clear (queue : BufferedBranchQueue T) : BufferedBranchQueue T := { queue with items := [] }

/-- `push`, by the only producer. -/
def push (env : QueueEnv) (item : T) (queue : BufferedBranchQueue T) :
    Except TransportError BufferedPushOutcome × BufferedBranchQueue T :=
  if env.disconnected then (.error .channelClosed, queue)
  else if queue.items.length < queue.capacity then
    (.ok .enqueued, { queue with items := queue.items ++ [item] })
  else
    match queue.items.drop env.taken with
    | _ :: rest => (.ok .droppedOldest, { queue with
        items := rest ++ [item]
        droppedPackets := queue.droppedPackets + 1 })
    -- a full queue that the consumer has emptied: the source gives up the new item
    | [] => (.ok .droppedNewest, { queue with
        items := []
        droppedPackets := queue.droppedPackets + 1 })

end BufferedBranchQueue

/-! ### The local mirror -/

/-- `LocalMirrorControl`. -/
inductive LocalMirrorControl
  | start (request : PlaybackStartRequest)
  | stop
  | shutdown
  deriving DecidableEq, Repr

/-- `LocalMirrorEvent`. -/
inductive LocalMirrorEvent
  | started (backendName : String) (targetId : Option String)
  | played (bytes : ℕ)
  | stateChanged (state : LocalMirrorState)
  | error (message : String)
  deriving DecidableEq, Repr

/-- `LocalMirrorBranch`, as the manager holds it. -/
structure LocalMirrorBranch where
  queue : BufferedBranchQueue FanoutAudioFrame
  /-- The controls sent, oldest first. -/
  controls : List LocalMirrorControl := []
  deriving DecidableEq, Repr

namespace LocalMirrorBranch

/-- Send a control, to a thread that `listens`. -/
def send (listens : Bool) (control : LocalMirrorControl) (branch : LocalMirrorBranch) :
    Except TransportError Unit × LocalMirrorBranch :=
  if listens then (.ok (), { branch with controls := branch.controls ++ [control] })
  else (.error .channelClosed, branch)

end LocalMirrorBranch

/-- `finalize_local_mirror_state`. -/
def finalizeLocalMirrorState (snapshot : LocalMirrorSnapshot) (captureActive : Bool) :
    LocalMirrorSnapshot :=
  if snapshot.state = .error then snapshot
  else { snapshot with
    state :=
      if captureActive then
        if snapshot.desiredEnabled then
          if snapshot.state = .mirroring ∨ snapshot.state = .starting then snapshot.state
          else .starting
        else .disabled
      else if snapshot.desiredEnabled then .idle
      else .disabled }

end SynchroSonic
