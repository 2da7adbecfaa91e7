import SynchroSonic.Core.TextIo
import SynchroSonic.Machine.Word

/-!
# The browser join page

The request handler of the browser join prototype. Everybody in the network can connect; the join link
carries a token, and the join routes look for it in the path.

`sameResponse_iff` compares the answers under two tokens, for a request that contains neither: they differ
exactly when the request is for the home page, which prints the token.
-/

namespace SynchroSonic

/-! ### The state behind the page -/

/-- `BrowserJoinSnapshot`. -/
structure BrowserJoinSnapshot where
  active : Bool := false
  bindAddr : Option String := none
  joinUrl : Option String := none
  tokenExpiresAtUnixMs : Option UInt64 := none
  requestsServed : ℕ := 0
  lastRequestPath : Option String := none
  lastRequestAtUnixMs : Option UInt64 := none
  lastError : Option String := none
  deriving DecidableEq, Repr

/-- `BrowserJoinState`, without the handles of the listener thread. -/
structure BrowserJoinState where
  snapshot : BrowserJoinSnapshot
  currentToken : Option String
  deriving DecidableEq, Repr

/-- `metadata::APP_NAME`. -/
def appName : String := "SynchroSonic"

/-- `metadata::APP_VERSION`. -/
def appVersion : String := "0.1.11"

/-! ### Requests -/

/-- Read lines until one is empty, or the stream ends. -/
def skipHeaders (stream : ByteSource) : List (List UInt8) → Except IoError Unit
  | [] => stream.atEnd
  | line :: rest => (stream.readLine line).bind fun header ↦
    if header = "\r\n" then .ok () else skipHeaders stream rest

/-- Method and path of a request, or nothing if the request line is blank. -/
def readRequest (stream : ByteSource) : Except IoError (Option (String × String)) :=
  match Text.lines stream.bytes with
  | [] => stream.atEnd.map fun () ↦ none
  | line :: rest => (stream.readLine line).bind fun requestLine ↦
    if isBlank requestLine then .ok none
    else (skipHeaders stream rest).map fun () ↦
      let parts := splitWhitespace requestLine
      some (parts.headD "", parts.tail.headD "/")

/-- `path.rsplit('/').next()`. -/
def lastSegment (path : String) : String :=
  String.ofList (path.toList.reverse.takeWhile (· ≠ '/')).reverse

def startsWith (start path : String) : Bool := start.toList.isPrefixOf path.toList

/-! ### Responses -/

/-- `write_http_response`. -/
def httpResponse (status contentType : String) (body : List UInt8) : List UInt8 :=
  Text.encode ("HTTP/1.1 " ++ status ++ "\r\nContent-Type: " ++ contentType ++
    "\r\nContent-Length: " ++ toString body.length ++
    "\r\nCache-Control: no-store\r\nConnection: close\r\n\r\n") ++ body

/-- How a page shows a moment. -/
def showExpiry (missing : String) : Option UInt64 → String
  | none => missing
  | some expiresAt => toString expiresAt.toNat

/-- What the home page shows of the token. -/
def showToken (token : Option String) : String := token.getD "not generated"

def prototypeHomePage (token : Option String) (expiresAtUnixMs : Option UInt64) : String :=
  "<!doctype html><html><head><meta charset=\"utf-8\"><title>" ++ appName ++
    " Browser Join Prototype</title></head><body><h1>" ++ appName ++
    " Browser Join Prototype</h1><p>This page is an honest prototype boundary for future no-install guest joining.</p><p>Browser audio playback is not implemented in this build.</p><p>Current token: " ++
    showToken token ++ "</p><p>Expires: " ++ showExpiry "not generated" expiresAtUnixMs ++
    "</p></body></html>"

def prototypeJoinPage (expiresAtUnixMs : Option UInt64) : String :=
  "<!doctype html><html><head><meta charset=\"utf-8\"><title>" ++ appName ++
    " Guest Join Prototype</title></head><body><h1>" ++ appName ++
    " Guest Join Prototype</h1><p>This join link is valid and the host-side prototype endpoint is reachable.</p><p>Browser playback has not been implemented yet, so this page does not start audio.</p><p>Token expiry: " ++
    showExpiry "unknown" expiresAtUnixMs ++
    "</p><p>Future work: signaling, WebRTC transport, AudioWorklet playback, and guest diagnostics export.</p></body></html>"

def prototypeDeniedPage : String :=
  "<!doctype html><html><head><meta charset=\"utf-8\"><title>" ++ appName ++
    " Join Link Rejected</title></head><body><h1>Join Link Rejected</h1><p>The token is missing, invalid, or expired.</p><p>This prototype does not provide browser playback yet.</p></body></html>"

/-- The answer of `/api/join/`, as `to_string_pretty` prints it: the keys are sorted. -/
def joinApiBody (validToken : Bool) (expiresAtUnixMs : Option UInt64) : String :=
  "\x7b\n  \"app_name\": \"" ++ appName ++ "\",\n  \"app_version\": \"" ++ appVersion ++
    "\",\n  \"browser_audio_streaming_implemented\": false,\n  \"message\": \"This endpoint is only a signaling/session prototype boundary. Browser playback is not implemented in this build.\",\n  \"prototype\": true,\n  \"token_expires_at_unix_ms\": " ++
    showExpiry "null" expiresAtUnixMs ++ ",\n  \"valid_token\": " ++ toString validToken ++ "\n\x7d"

/-! ### The handler -/

namespace BrowserJoinState

/-- The request is noted down. -/
def noteRequest (path : String) (now : UInt64) (state : BrowserJoinState) : BrowserJoinState :=
  { state with snapshot := { state.snapshot with
      requestsServed := Word.satAdd 64 state.snapshot.requestsServed 1
      lastRequestPath := some path
      lastRequestAtUnixMs := some now } }

/-- The path ends with the token, and the token has not expired. -/
def validToken (path : String) (now : UInt64) (state : BrowserJoinState) : Bool :=
  (state.currentToken == some (lastSegment path)) &&
    state.snapshot.tokenExpiresAtUnixMs.any fun expiresAt ↦ now ≤ expiresAt

/-- The state with another token and its link. -/
def withSecret (token joinUrl : Option String) (state : BrowserJoinState) : BrowserJoinState :=
  { snapshot := { state.snapshot with joinUrl }, currentToken := token }

end BrowserJoinState

/-- The routes of the handler. -/
def respond (method path : String) (token : Option String) (validToken : Bool)
    (expiresAtUnixMs : Option UInt64) : List UInt8 :=
  if method ≠ "GET" then
    httpResponse "405 Method Not Allowed" "text/plain; charset=utf-8"
      (Text.encode "Only GET is supported by the browser join prototype.\n")
  else if path = "/" then
    httpResponse "200 OK" "text/html; charset=utf-8"
      (Text.encode (prototypeHomePage token expiresAtUnixMs))
  else if startsWith "/join/" path then
    if validToken then
      httpResponse "200 OK" "text/html; charset=utf-8"
        (Text.encode (prototypeJoinPage expiresAtUnixMs))
    else
      httpResponse "403 Forbidden" "text/html; charset=utf-8" (Text.encode prototypeDeniedPage)
  else if startsWith "/api/join/" path then
    httpResponse (if validToken then "200 OK" else "403 Forbidden") "application/json; charset=utf-8"
      (Text.encode (joinApiBody validToken expiresAtUnixMs))
  else
    httpResponse "404 Not Found" "text/plain; charset=utf-8"
      (Text.encode "Browser join prototype route not found.\n")

/-- What the handler leaves, what it writes to the socket, and what it returns. -/
structure HandledRequest where
  state : BrowserJoinState
  written : List UInt8
  result : Except IoError Unit

/-- `handle_browser_join_request`, over a socket that takes the whole response. `now` are the clock
readings. -/
def handleBrowserJoinRequest (now : ℕ → UInt64) (stream : ByteSource) (state : BrowserJoinState) :
    HandledRequest :=
  match readRequest stream with
  | .error error => ⟨state, [], .error error⟩
  | .ok none => ⟨state, [], .ok ()⟩
  | .ok (some (method, path)) =>
    let state := state.noteRequest path (now 0)
    ⟨state, respond method path state.currentToken (state.validToken path (now 1))
      state.snapshot.tokenExpiresAtUnixMs, .ok ()⟩

/-! ### What a response tells -/

/-- **A response tells its body.** The length in its header is written in digits, so it ends where the
next line begins. -/
theorem httpResponse_inj {status contentType : String} {body body' : List UInt8} :
    httpResponse status contentType body = httpResponse status contentType body' ↔ body = body' := by
  refine ⟨fun h ↦ ?_, fun h ↦ h ▸ rfl⟩
  have hlength (n : ℕ) : (13 : UInt8) ∉ Text.encode (toString n) := fun hmem ↦
    absurd (Text.digit_of_mem_encode_toString hmem).1 (by decide)
  have hheader : Text.encode "\r\nCache-Control: no-store\r\nConnection: close\r\n\r\n" =
      13 :: Text.encode "\nCache-Control: no-store\r\nConnection: close\r\n\r\n" := by
    decide +kernel
  simp only [httpResponse, Text.encode_append, List.append_assoc, List.append_cancel_left_eq] at h
  rw [hheader, List.cons_append, List.cons_append] at h
  exact List.append_cancel_left (Text.append_cons_inj (hlength _) (hlength _) h).2

theorem prototypeHomePage_inj {token token' : Option String} {expiresAtUnixMs : Option UInt64} :
    Text.encode (prototypeHomePage token expiresAtUnixMs) =
      Text.encode (prototypeHomePage token' expiresAtUnixMs) ↔ showToken token = showToken token' := by
  delta prototypeHomePage
  constructor
  · intro h
    simp only [Text.encode_append, List.append_assoc, List.append_cancel_left_eq] at h
    simp only [← List.append_assoc, List.append_cancel_right_eq] at h
    exact Text.encode_injective h
  · intro h
    rw [h]

/-- **Without a valid token, the token shows on the home page and nowhere else.** -/
theorem respond_eq_iff {method path : String} {token token' : Option String}
    {expiresAtUnixMs : Option UInt64} :
    respond method path token false expiresAtUnixMs = respond method path token' false expiresAtUnixMs ↔
      ¬(method = "GET" ∧ path = "/") ∨ showToken token = showToken token' := by
  by_cases hmethod : method = "GET"
  · by_cases hpath : path = "/"
    · simp only [respond, hmethod, hpath, ne_eq, not_true_eq_false, if_false, if_true, and_self,
        false_or]
      rw [httpResponse_inj, prototypeHomePage_inj]
    · simp only [respond, hmethod, hpath, ne_eq, not_true_eq_false, if_false, and_false,
        not_false_eq_true, true_or]
  · simp only [respond, hmethod, ne_eq, not_false_eq_true, if_true, false_and, true_or]

/-! ### Two runs -/

/-- The token occurs in the path. -/
def tokenIn (path : String) (token : Option String) : Prop :=
  ∃ text ∈ token, text.toList <:+: path.toList

instance (path : String) (token : Option String) : Decidable (tokenIn path token) :=
  Option.decidableExistsMem _

theorem validToken_of_not_tokenIn {path : String} {now : UInt64} {state : BrowserJoinState}
    (h : ¬tokenIn path state.currentToken) : state.validToken path now = false := by
  have hne : (state.currentToken == some (lastSegment path)) = false := by
    refine beq_eq_false_iff_ne.2 fun htoken ↦ h ⟨lastSegment path, htoken, ?_⟩
    have hsuffix := List.reverse_suffix.2 (path.toList.reverse.takeWhile_prefix (· ≠ '/'))
    rw [List.reverse_reverse] at hsuffix
    rw [lastSegment, String.toList_ofList]
    exact hsuffix.isInfix
  rw [BrowserJoinState.validToken, hne, Bool.false_and]

/-- **Who does not hold the token learns it from the home page, and from nothing else.** Take a state and
another one with another token and another link, and a request whose path contains neither token. The
handler writes the same bytes in both exactly if the request is not `GET /`, or the two tokens look the
same on the home page. -/
theorem sameResponse_iff (now : ℕ → UInt64) (stream : ByteSource) (state : BrowserJoinState)
    (token joinUrl : Option String)
    (hpath : ∀ method path, readRequest stream = .ok (some (method, path)) →
      ¬tokenIn path state.currentToken ∧ ¬tokenIn path token) :
    (handleBrowserJoinRequest now stream state).written =
        (handleBrowserJoinRequest now stream (state.withSecret token joinUrl)).written ↔
      readRequest stream ≠ .ok (some ("GET", "/")) ∨ showToken state.currentToken = showToken token := by
  rw [handleBrowserJoinRequest, handleBrowserJoinRequest]
  rcases hrequest : readRequest stream with error | request
  · exact iff_of_true rfl (Or.inl (fun h ↦ nomatch h))
  rcases request with - | ⟨method, path⟩
  · exact iff_of_true rfl (Or.inl (fun h ↦ nomatch h))
  obtain ⟨hstate, htoken⟩ := hpath method path hrequest
  dsimp only
  have hleft : (state.noteRequest path (now 0)).validToken path (now 1) = false :=
    validToken_of_not_tokenIn hstate
  have hright : ((state.withSecret token joinUrl).noteRequest path (now 0)).validToken path (now 1) =
      false := validToken_of_not_tokenIn htoken
  rw [hleft, hright]
  show respond method path state.currentToken false _ = respond method path token false _ ↔ _
  rw [show ((state.withSecret token joinUrl).noteRequest path (now 0)).snapshot.tokenExpiresAtUnixMs =
    (state.noteRequest path (now 0)).snapshot.tokenExpiresAtUnixMs from rfl, respond_eq_iff]
  simp only [ne_eq, Except.ok.injEq, Option.some.injEq, Prod.mk.injEq]

/-! ### A guest without a link -/

namespace Sample

/-- A request with this path, as a browser sends it. -/
def getRequest (path : String) : ByteSource where
  bytes := Text.encode ("GET " ++ path ++ " HTTP/1.1\r\nHost: 192.168.1.20:40123\r\n\r\n")

/-- A join page with a token that has not expired. -/
def joinState : BrowserJoinState where
  snapshot := { active := true, tokenExpiresAtUnixMs := some 900000 }
  currentToken := some "0c6f52b1"

end Sample

/-- **The home page shows the token to everybody.** -/
theorem home_page_shows_token :
    readRequest (Sample.getRequest "/") = .ok (some ("GET", "/")) ∧
      ¬tokenIn "/" Sample.joinState.currentToken ∧ ¬tokenIn "/" (some "77d0e9aa") ∧
      (handleBrowserJoinRequest (fun _ ↦ 0) (Sample.getRequest "/") Sample.joinState).written ≠
        (handleBrowserJoinRequest (fun _ ↦ 0) (Sample.getRequest "/")
          (Sample.joinState.withSecret (some "77d0e9aa") none)).written ∧
      Text.encode "Current token: 0c6f52b1" <:+:
        (handleBrowserJoinRequest (fun _ ↦ 0) (Sample.getRequest "/") Sample.joinState).written := by
  decide +kernel

/-- A guess at a join route tells nothing. -/
theorem sameResponse_iff_guess :
    (handleBrowserJoinRequest (fun _ ↦ 0) (Sample.getRequest "/join/77d0e9ab") Sample.joinState).written =
        (handleBrowserJoinRequest (fun _ ↦ 0) (Sample.getRequest "/join/77d0e9ab")
          (Sample.joinState.withSecret (some "77d0e9aa") none)).written ↔
      readRequest (Sample.getRequest "/join/77d0e9ab") ≠ .ok (some ("GET", "/")) ∨
        showToken Sample.joinState.currentToken = showToken (some "77d0e9aa") := by
  refine sameResponse_iff (fun _ ↦ 0) (Sample.getRequest "/join/77d0e9ab") Sample.joinState
    (some "77d0e9aa") none ?_
  intro method path hrequest
  have hread : readRequest (Sample.getRequest "/join/77d0e9ab") =
      .ok (some ("GET", "/join/77d0e9ab")) := by decide +kernel
  obtain ⟨rfl, rfl⟩ := Prod.mk.inj (Option.some.inj (Except.ok.inj (hread.symm.trans hrequest)))
  decide +kernel

end SynchroSonic
