import Mathlib.Logic.Function.Basic
import Mathlib.Data.Finset.Basic

/-!
# The websocket manipulator: data and state (`manipwebsocket`)

The request/response side of `websocketManipulator` as a system of goroutines over one shared
state (`State`). The shared part is the manipulator's fields (`responsesChanRegistry`,
`password`, `running`, `ws`) and what the client did to the network (`sockets` dialed, `closed`);
each goroutine has a program counter: the constructor's `connect` followed by `listen`
(`Phase`), every caller of `send` (`SendPc`, one per request ID), the caller of the stop
function (`StopPc`) and `renewMidgardToken` (`RenewPc`). Channels made by
`registerResponseChannel` are numbered; `chanOwner` remembers which request's `send` made each.
The steps are in `Manipulate/Websocket/Step.lean`.
-/

namespace Manipulate.Websocket

/-- A response frame (`elemental.Response`): the fields the manipulator reads. -/
structure Response where
  requestID : String
  statusCode : Int
  total : Int
  body : String
  deriving DecidableEq, Repr

/-- The errors the manipulator returns: one decoded from a response (`decodeErrors`), or another
package's error as it is. -/
inductive ManipError where
  | cannotCommunicate (msg : String)
  | cannotMarshal (msg : String)
  | cannotUnmarshal (msg : String)
  | notImplemented (msg : String)
  | decoded (r : Response)
  | other (msg : String)
  deriving DecidableEq, Repr

/-- Modelled from the spec: `decodeErrors` is not in the source; it is the error the server's
response carries, decoded from its error list. -/
def decodeErrors (r : Response) : ManipError := .decoded r

/-- What `mclient.IssueFromCertificate` returns: a token and an error. -/
structure IssueResult where
  token : String
  err : Option String
  deriving DecidableEq, Repr

/-- The fields of `websocketManipulator` that its constructors set and nothing changes; `renews`
marks the certificate constructor, whose stop function also signals `renewMidgardToken`. -/
structure Config where
  username : String
  password : String
  url : String
  «namespace» : String
  skipTLSVerify : Bool
  receiveAll : Bool
  renews : Bool
  deriving DecidableEq, Repr

def newWebSocketManipulatorWithRootCAAndNamespace (username password url ns : String)
    (skipTLSVerify : Bool) : Config :=
  ⟨username, password, url, ns, skipTLSVerify, false, false⟩

def newWebSocketManipulatorWithRootCA (username password url : String) (skipTLSVerify : Bool) :
    Config :=
  newWebSocketManipulatorWithRootCAAndNamespace username password url "" skipTLSVerify

def newWebSocketManipulatorWithNamespace (username password url ns : String) : Config :=
  newWebSocketManipulatorWithRootCAAndNamespace username password url ns true

def newWebSocketManipulator (username password url : String) : Config :=
  newWebSocketManipulatorWithNamespace username password url ""

/-- The certificate constructor, given what the first `IssueFromCertificate` returned: its token
is the password of user `Bearer`. -/
def newWebSocketManipulatorWithMidgardCertAuthentication (url : String) (issued : IssueResult)
    (ns : String) (skipInsecure : Bool) : Except ManipError Config :=
  match issued.err with
  | some e => .error (.other e)
  | none =>
    .ok { newWebSocketManipulatorWithRootCAAndNamespace "Bearer" issued.token url ns
      skipInsecure with renews := true }

/-! ## URLs -/

/-- `strings.Replace(s, old, new, 1)` on characters: the first occurrence of `old` replaced. -/
def replaceFirst : List Char → List Char → List Char → List Char
  | [], old, new => if old.isEmpty then new else []
  | c :: cs, old, new =>
    if old.isPrefixOf (c :: cs) then new ++ (c :: cs).drop old.length
    else c :: replaceFirst cs old new

/-- The base URL with `http://` and `https://` turned into `ws://` and `wss://`. -/
def wsBase (url : String) : String :=
  String.mk (replaceFirst (replaceFirst url.toList "http://".toList "ws://".toList)
    "https://".toList "wss://".toList)

/-- The URL `connect` dials with the token `password`. -/
def connectURL (cfg : Config) (password : String) : String :=
  wsBase cfg.url ++ "/wsapi?token=" ++ password ++ "&namespace=" ++ cfg.«namespace» ++
    if cfg.receiveAll then "&mode=all" else ""

/-! ## Goroutines -/

/-- Where `connect` is: at `unregisterAllResponseChannels`, building the URL at
`s.currentPassword()`, dialing the URL built (`websocket.NewConfig`, `websocket.DialConfig`), or
reading the handshake response. -/
inductive ConnectPc where
  | clearing
  | building
  | dialing (url : String)
  | handshaking
  deriving DecidableEq, Repr

/-- Where the constructor, then `listen`, is: `listen` waits at `websocket.JSON.Receive`, has read
`r` (before `responseChannelForID`), delivers it at `ch <- response`, got a receive error (before
it checks `running`), reconnects, or has returned. -/
inductive Phase where
  | constructing (k : ConnectPc)
  | constructFailed (e : ManipError)
  | reading
  | received (r : Response)
  | delivering (c : Nat) (r : Response)
  | failed
  | reconnecting (k : ConnectPc)
  | exited
  deriving DecidableEq, Repr

/-- The constructor returned the manipulator: its callers and its stop function exist. -/
def Phase.built : Phase → Bool
  | .constructing _ | .constructFailed _ => false
  | _ => true

instance decidableEqExcept {ε α : Type} [DecidableEq ε] [DecidableEq α] :
    DecidableEq (Except ε α)
  | .error a, .error b => decidable_of_iff (a = b) (by simp)
  | .ok a, .ok b => decidable_of_iff (a = b) (by simp)
  | .error _, .ok _ => isFalse Except.noConfusion
  | .ok _, .error _ => isFalse Except.noConfusion

/-- Where a call of `send` for one request ID is: past the check that `s.ws` is set, the request
written (before `registerResponseChannel`), in the `select` on channel `c` or the 30 s timer,
answered or timed out (before the deferred `unregisterResponseChannel`), returned, or panicked on a
nil `s.ws`. -/
inductive SendPc where
  | idle
  | checked
  | written
  | waiting (c : Nat)
  | answered (c : Nat) (r : Response)
  | timedOut (c : Nat)
  | done (res : Except ManipError Response)
  | panicked
  deriving DecidableEq, Repr

/-- Where the caller of the stop function is; the certificate constructor's stop signals at
`stopCh <- true`. -/
inductive StopPc where
  | idle
  | signalling
  deriving DecidableEq, Repr

/-- Where `renewMidgardToken` is: not started (another constructor, or before it returns), at its
`select` on the ticker and the stop channel, calling `IssueFromCertificate`, or returned. -/
inductive RenewPc where
  | idle
  | selecting
  | issuing
  | exited
  deriving DecidableEq, Repr

/-- The shared state and every goroutine's program counter. Channel `c` was made by the `send` of
`chanOwner c`, socket `k` was dialed at the `k`-th URL of `sockets`, and `closed` holds the sockets
the client closed. -/
structure State where
  cfg : Config
  responsesChanRegistry : String → Option Nat
  chanOwner : Nat → Option String
  nextChan : Nat
  password : String
  running : Bool
  ws : Option Nat
  sockets : List String
  closed : Finset Nat
  phase : Phase
  callers : String → SendPc
  stopper : StopPc
  stopCalls : Nat
  renew : RenewPc

/-- The state the constructor starts from: `running` is set and the registry is empty. -/
def State.init (cfg : Config) : State where
  cfg := cfg
  responsesChanRegistry _ := none
  chanOwner _ := none
  nextChan := 0
  password := cfg.password
  running := true
  ws := none
  sockets := []
  closed := ∅
  phase := .constructing .clearing
  callers _ := .idle
  stopper := .idle
  stopCalls := 0
  renew := .idle

namespace State

variable (s : State)

def currentPassword : String := s.password

def setPassword (password : String) : State := { s with password := password }

def responseChannelForID (rid : String) : Option Nat := s.responsesChanRegistry rid

def unregisterAllResponseChannels : State := { s with responsesChanRegistry := fun _ => none }

def unregisterResponseChannel (rid : String) : State :=
  { s with responsesChanRegistry := Function.update s.responsesChanRegistry rid none }

def setCaller (rid : String) (pc : SendPc) : State :=
  { s with callers := Function.update s.callers rid pc }

/-- `registerResponseChannel(rid)` by the `send` for `rid`, which then waits on the new channel. -/
def registerResponseChannel (rid : String) : State :=
  { s with
    responsesChanRegistry := Function.update s.responsesChanRegistry rid (some s.nextChan)
    chanOwner := Function.update s.chanOwner s.nextChan (some rid)
    nextChan := s.nextChan + 1
    callers := Function.update s.callers rid (.waiting s.nextChan) }

/-- `s.ws, err = websocket.DialConfig(config)` succeeding: a new socket, dialed at `url`. -/
def dialed (url : String) : State :=
  { s with ws := some s.sockets.length, sockets := s.sockets ++ [url] }

/-- The stop function of `NewWebSocketManipulatorWithRootCAAndNamespace`, under `wsLock`: if `s.ws`
is set, `running` is cleared and the socket closed. -/
def stopSocket : State :=
  match s.ws with
  | some k => { s with running := false, closed := insert k s.closed }
  | none => s

@[simp] theorem stopSocket_eq : s.stopSocket =
    { s with
      running := match s.ws with
        | some _ => false
        | none => s.running
      closed := match s.ws with
        | some k => insert k s.closed
        | none => s.closed } := by
  obtain ⟨_, _, _, _, _, _, _ | _, _⟩ := s <;> rfl

end State

end Manipulate.Websocket
