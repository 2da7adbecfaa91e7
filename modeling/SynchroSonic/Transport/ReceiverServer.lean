import SynchroSonic.Transport.SessionEvents

/-!
# The listener of a receiver

`LanReceiverTransportServer` binds a listener and runs `receiver_listener_loop` in a thread of its own,
which serves one sender after the other. `stop` leaves a message in the stop channel, drops the sender
and joins the thread.

The thread asks the stop channel at the head of either loop, and accepts a connection or reads a frame
afterwards; a `stop` may come in between. What the callback answers is an argument of a step, and what
it was given is the step's output.

The numbers of the packets wrap, as they do in a release build. Where an overflow is caught, the packet
behind the largest number ends the thread with a panic (`Transport.SequenceGaps`), which is not a step here.
-/

namespace SynchroSonic

/-- `ReceiverServerSnapshot`, in full. -/
structure ReceiverServerStatus where
  active : Bool := false
  bindAddr : SocketAddr
  session : ReceiverServerSnapshot := {}
  deriving DecidableEq, Repr

/-- Where the listener thread is. -/
inductive ListenerPhase
  /-- At the head of its loop. -/
  | checking
  | accepting
  /-- At the head of the streaming loop. -/
  | serving (session : ReceiverSession)
  | reading (session : ReceiverSession)
  | ended

/-- The session in its streaming loop. -/
def ListenerPhase.session? : ListenerPhase → Option ReceiverSession
  | .serving session | .reading session => some session
  | .checking | .accepting | .ended => none

/-- `LanReceiverTransportServer`, without the clone of the stream that `stop` shuts down: reads may fail
at any time anyway. -/
structure LanReceiverTransportServer where
  bindAddr : SocketAddr
  receiverName : String
  latencyPreset : ReceiverLatencyPreset
  heartbeatIntervalMs : UInt16
  snapshot : ReceiverServerStatus
  /-- `stop_tx` is there. -/
  stopTx : Bool := false
  /-- A message waits in the stop channel. -/
  stopSent : Bool := false
  worker : Option ListenerPhase := none

/-- What `start` finds. -/
structure ListenerSetup where
  bind : Except IoError Unit
  localAddr : Except IoError SocketAddr
  setNonblocking : Except IoError Unit

/-- A step of the listener thread. -/
inductive ListenerInput
  /-- It asks the stop channel. -/
  | check
  /-- A peer connects, and its handshake runs. -/
  | accept (peerAddr : SocketAddr) (setup : SessionSetup) (reader : Reader) (writer : Writer)
  /-- Nobody connects. -/
  | acceptBlocked
  | acceptFailed (source : IoError) (localAddr : Option SocketAddr)
  /-- A round of the streaming loop. -/
  | read

namespace LanReceiverTransportServer

/-- `new`. -/
def new (bindAddr : SocketAddr) (receiverName : String) (latencyPreset : ReceiverLatencyPreset)
    (heartbeatIntervalMs : UInt16) : LanReceiverTransportServer where
  bindAddr := bindAddr
  receiverName := receiverName
  latencyPreset := latencyPreset
  heartbeatIntervalMs := heartbeatIntervalMs
  snapshot := { bindAddr }

/-- `start`. -/
def start (setup : ListenerSetup) (server : LanReceiverTransportServer) :
    Except TransportError Unit × LanReceiverTransportServer :=
  if server.stopTx then (.ok (), server)
  else
    match setup.bind with
    | .error source => (.error (.bind server.bindAddr.display source), server)
    | .ok () =>
    match setup.localAddr with
    | .error source => (.error (.io "reading receiver listener local address" source), server)
    | .ok boundAddr =>
    match setup.setNonblocking with
    | .error source =>
      (.error (.io ("setting listener " ++ boundAddr.display ++ " nonblocking") source), server)
    | .ok () =>
      (.ok (), { server with
        bindAddr := boundAddr
        snapshot :=
          { active := true
            bindAddr := boundAddr
            session := { server.snapshot.session with lastError := none } }
        worker := some .checking
        stopTx := true
        stopSent := false })

/-- The status of a listener that has ended. -/
def inactive (server : LanReceiverTransportServer) : ReceiverServerStatus :=
  { server.snapshot with
    active := false
    session := { server.snapshot.session with sessionId := none, connectedPeer := none } }

/-- `stop`, up to the join. -/
def stop (server : LanReceiverTransportServer) :
    Except TransportError Unit × LanReceiverTransportServer :=
  if server.stopTx then
    match server.worker with
    | some .ended | none => (.error .channelClosed, { server with stopTx := false })
    | some _ => (.ok (), { server with stopTx := false, stopSent := true })
  else (.ok (), server)

/-- The rest of `stop`. It waits for the thread. -/
def join (server : LanReceiverTransportServer) : Option LanReceiverTransportServer :=
  match server.worker with
  | none | some .ended => some { server with worker := none, snapshot := server.inactive }
  | some _ => none

/-! ### The thread -/

/-- `stop_rx.try_recv()` finds a message or no sender. -/
def stopRequested (server : LanReceiverTransportServer) : Bool := server.stopSent || !server.stopTx

/-- The arguments of a session. -/
def sessionArgs (peerAddr : SocketAddr) (server : LanReceiverTransportServer) : SessionArgs :=
  ⟨peerAddr, server.receiverName, server.latencyPreset, server.heartbeatIntervalMs⟩

/-- A session is over; an error is left in the status. -/
def closeSession (result : Except TransportError Unit) (final : ReceiverServerSnapshot)
    (server : LanReceiverTransportServer) : LanReceiverTransportServer :=
  { server with
    worker := some .checking
    snapshot := { server.snapshot with
      session :=
        match result with
        | .ok () => final
        | .error error => ⟨none, none, some error.display⟩ } }

/-- A round of the streaming loop. -/
def round (format : WireFormat) (input : RoundInput) (session : ReceiverSession)
    (server : LanReceiverTransportServer) : LanReceiverTransportServer × List ReceiverTransportEvent :=
  match streamingRound format input session with
  | .again next =>
    ({ server with
      worker := some (.serving next)
      snapshot := { server.snapshot with session := next.snapshot } },
      next.emitted.drop session.emitted.length)
  | .done (result, final) =>
    (server.closeSession result final.snapshot, final.emitted.drop session.emitted.length)

/-- A step of the thread, and the events it hands to a callback that answers `answer`. -/
def stepListener (format : WireFormat) (answer : Except ReceiverError Unit)
    (server : LanReceiverTransportServer) (input : ListenerInput) :
    Option (LanReceiverTransportServer × List ReceiverTransportEvent) :=
  match input, server.worker with
  | .check, some .checking =>
    if server.stopRequested then
      some ({ server with worker := some .ended, snapshot := server.inactive, stopSent := false }, [])
    else some ({ server with worker := some .accepting }, [])
  | .accept peerAddr setup reader writer, some .accepting =>
    match handshake format (server.sessionArgs peerAddr) { setup with onConnected := answer }
        { reader, writer } with
    | (.error error, session) =>
      some (server.closeSession (.error error) server.snapshot.session, session.emitted)
    | (.ok (), session) =>
      some ({ server with
        worker := some (.serving session)
        snapshot := { server.snapshot with session := session.snapshot } }, session.emitted)
  | .acceptBlocked, some .accepting => some ({ server with worker := some .checking }, [])
  | .acceptFailed source localAddr, some .accepting =>
    let address := (localAddr.map SocketAddr.display).getD "receiver-listener"
    some ({ server with
      worker := some .checking
      snapshot := { server.snapshot with
        session := { server.snapshot.session with
          lastError := some (TransportError.io ("accepting connection on " ++ address) source).display } } },
      [])
  | .check, some (.serving session) =>
    if server.stopRequested then
      some ({ server with stopSent := false }.round format ⟨true, answer⟩ session)
    else some ({ server with worker := some (.reading session) }, [])
  | .read, some (.reading session) => some (server.round format ⟨false, answer⟩ session)
  | _, _ => none

end LanReceiverTransportServer

end SynchroSonic
