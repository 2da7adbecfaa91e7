import Mathlib.Tactic

/-!
# Errors

The error types of the workspace, with the texts their `Display` implementations produce: the
transport hands those texts on as events and snapshot fields, so they are part of what it does.

An I/O error is its kind, on which the code branches, together with its own text, which only
travels.
-/

namespace SynchroSonic

/-- The kinds of I/O error the code distinguishes, and every other kind. -/
inductive ErrorKind
  | unexpectedEof
  | connectionReset
  | connectionRefused
  | wouldBlock
  | timedOut
  | interrupted
  | brokenPipe
  | other (code : ℕ)
  deriving DecidableEq, Repr

/-- An `io::Error`: its kind and its text. -/
structure IoError where
  kind : ErrorKind
  message : String
  deriving DecidableEq, Repr

namespace IoError

/-- `read_exact` retries an interrupted call. -/
def isInterrupted (error : IoError) : Bool := error.kind == .interrupted

/-- What `read_exact` reports when the stream ends early. -/
def readExactEof : IoError := ⟨.unexpectedEof, "failed to fill whole buffer"⟩

/-- A read timeout: `ErrorKind::WouldBlock | ErrorKind::TimedOut`. -/
def isTimeout (error : IoError) : Bool := error.kind == .wouldBlock || error.kind == .timedOut

/-- The peer is gone: `ErrorKind::UnexpectedEof | ErrorKind::ConnectionReset`. -/
def isDisconnect (error : IoError) : Bool :=
  error.kind == .unexpectedEof || error.kind == .connectionReset

theorem isInterrupted_of_isTimeout {error : IoError} (h : error.isTimeout = true) :
    error.isInterrupted = false := by
  rcases error with ⟨kind, message⟩
  cases kind <;> simp_all [isTimeout, isInterrupted]

theorem isDisconnect_of_isTimeout {error : IoError} (h : error.isTimeout = true) :
    error.isDisconnect = false := by
  rcases error with ⟨kind, message⟩
  cases kind <;> simp_all [isTimeout, isDisconnect]

end IoError

/-- `AudioError`. -/
inductive AudioError
  | backendUnavailable (message : String)
  | commandUnavailable (command : String)
  | commandFailed (command stderr : String)
  | processStart (command : String) (source : IoError)
  | processIo (context : String) (source : IoError)
  | invalidSettings (message : String)
  | captureEnded
  | notActive (message : String)
  deriving DecidableEq, Repr

/-- The `Display` text of an audio error. -/
def AudioError.display : AudioError → String
  | .backendUnavailable message => "audio backend is unavailable: " ++ message
  | .commandUnavailable command => "audio command is unavailable: " ++ command
  | .commandFailed command stderr => "audio command `" ++ command ++ "` failed: " ++ stderr
  | .processStart command source =>
    "failed to start audio process `" ++ command ++ "`: " ++ source.message
  | .processIo context source =>
    "audio process I/O failed while " ++ context ++ ": " ++ source.message
  | .invalidSettings message => "invalid capture settings: " ++ message
  | .captureEnded => "capture stream ended"
  | .notActive message => "audio operation is not active in this build phase: " ++ message

/-- `TransportError`. -/
inductive TransportError
  | bind (address : String) (source : IoError)
  | connect (address : String) (source : IoError)
  | io (context : String) (source : IoError)
  | invalidProtocol (message : String)
  | negotiation (message : String)
  | alreadyRunning
  | notRunning
  | channelClosed
  | threadJoin
  | audio (error : AudioError)
  | receiverCallback (message : String)
  | notActive (message : String)
  deriving DecidableEq, Repr

/-- The `Display` text of a transport error. -/
def TransportError.display : TransportError → String
  | .bind address source =>
    "failed to bind transport listener on " ++ address ++ ": " ++ source.message
  | .connect address source =>
    "failed to connect transport socket to " ++ address ++ ": " ++ source.message
  | .io context source => "transport I/O failed while " ++ context ++ ": " ++ source.message
  | .invalidProtocol message => "transport protocol is invalid: " ++ message
  | .negotiation message => "transport negotiation failed: " ++ message
  | .alreadyRunning => "transport worker is already running"
  | .notRunning => "transport worker is not running"
  | .channelClosed => "transport worker channel is closed"
  | .threadJoin => "transport worker thread failed to join cleanly"
  | .audio error => "transport audio capture failed: " ++ error.display
  | .receiverCallback message => "transport receiver callback failed: " ++ message
  | .notActive message => "transport is not active in this build phase: " ++ message

/-- `DiscoveryError`. -/
inductive DiscoveryError
  | daemon (message : String)
  | serviceInfo (message : String)
  | register (message : String)
  | browse (message : String)
  | stop (message : String)
  | event (message : String)
  | notActive (message : String)
  deriving DecidableEq, Repr

/-- The `Display` text of a discovery error. -/
def DiscoveryError.display : DiscoveryError → String
  | .daemon message => "failed to start discovery daemon: " ++ message
  | .serviceInfo message => "failed to build mDNS service info: " ++ message
  | .register message => "failed to register mDNS service: " ++ message
  | .browse message => "failed to browse mDNS service: " ++ message
  | .stop message => "failed to stop discovery service: " ++ message
  | .event message => "failed to process discovery event: " ++ message
  | .notActive message => "discovery is not active in this build phase: " ++ message

/-- `ReceiverError`, as far as the receiver runtime and its buffer produce it. -/
inductive ReceiverError
  | invalidTransport (message : String)
  | notStarted
  | channelClosed
  | threadJoin
  deriving DecidableEq, Repr

/-- The `Display` text of a receiver error. -/
def ReceiverError.display : ReceiverError → String
  | .invalidTransport message => "receiver transport event is invalid: " ++ message
  | .notStarted => "receiver runtime is not started"
  | .channelClosed => "receiver runtime channel is closed"
  | .threadJoin => "receiver runtime thread failed to join cleanly"

end SynchroSonic
