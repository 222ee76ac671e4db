import Directory.World

/-!
# Transports

A transport holds at most one handle to a server. Its settings apply when it connects next.
`isBound` and `boundAs` say as whom the server knows it: a transport that was closed has no host and
is bound as no one.
-/

namespace Directory

/-- A wire client that was made for a host. It keeps the result of the last operation and the items
that it found. -/
structure Handle where
  isClosed : Bool := true
  result : Value := .null
  found : Value := .null

/-- What a transport reaches its server with: directly, or over a wire client. A direct link has a
number and remembers the last response to a bind; before the first bind it is a success. -/
inductive Link where
  | direct (number : Nat) (isOpen : Bool) (last : Response)
  | wire (handle : Option Handle)

/-- A transport with its settings. Whether it uses SSL and TLS is kept as it was given. `history`
lists the exchanges with its wire clients, the latest first. -/
structure Transport where
  link : Link
  host : Value := .null
  isBound : Bool := false
  boundAs : Value := .null
  usesSsl : Value := .bool false
  usesTls : Value := .bool false
  options : List (Value × Value) := []
  history : List Exchange := []

instance : Inhabited Transport := ⟨{ link := .wire none }⟩

/-- The usual port. -/
def plainPort : Int := 389

/-- The usual port under SSL. -/
def sslPort : Int := 636

/-- The result codes of a search that gives what it can: success, a base that does not exist, and
more entries than asked for. -/
def searchSuccessCodes : List Int := [0, 32, 4]

/-- The result code for a server that cannot be reached. -/
def serverDownCode : Int := 81

/-- The message for a server that cannot be reached. -/
def serverDownMessage : String := "Can't contact LDAP server"

namespace Handle

/-- What the wire client holds as the result, as a response. -/
def response (handle : Handle) : Except Failure Response := do
  let result := handle.result.orElse (.dict [])
  return {
    code := ← result.get "result" (.int 0)
    matchedName := ← result.get "dn" (.str "")
    message := ← result.get "description" (.str "")
    diagnostic := ← result.get "message" (.str "")
    referrals := ← result.get "referrals" .null
    controls := (← result.get "controls" .null).orElse (.dict []) }

/-- The handle after a call. A call that does not fail settles whether the client is closed, and all
but an opening leave their result with it. -/
def afterCall (handle : Handle) : WireRequest → Outcome → Handle
  | _, .fails _ | .server .., _ | .client .., _ => handle
  | .open_, .gives _ => { handle with isClosed := false }
  | .unbind, .gives answer => ⟨true, answer.result, answer.found⟩
  | _, .gives answer => ⟨false, answer.result, answer.found⟩

/-- The message for the last operation. -/
def lastError (handle : Handle) : Except Failure Value := do
  if !handle.result.isTrue then return .null
  let message ← handle.result.get "message" .null
  if message.isTrue then return message
  handle.result.get "description" .null

/-- The result code of the last operation. -/
def errorCode (handle : Handle) : Except Failure Value := do
  if !handle.result.isTrue then return .null
  handle.result.get "result" .null

/-- The details of the last operation, if it failed. -/
def detail (handle : Handle) : Except Failure (Option Detail) := do
  if !(← handle.errorCode).isTrue then return none
  (← handle.response).detail

end Handle

namespace Transport

/-- A transport with a direct link. -/
def direct (number : Nat) : Transport :=
  { link := .direct number false {} }

/-- A transport over a wire client. -/
def wire : Transport :=
  { link := .wire none }

/-- The transport holds a handle. -/
def isConnected (transport : Transport) : Bool :=
  match transport.link with
  | .direct _ isOpen _ => isOpen
  | .wire handle => handle.isSome

/-- The handle of the wire client. -/
def handle? (transport : Transport) : Option Handle :=
  match transport.link with
  | .direct .. => none
  | .wire handle => handle

/-- The address of a host. A host that is an address already stands for itself; under SSL the usual
port means the usual port for SSL. -/
def address (transport : Transport) (host port : Value) : Except Failure Value := do
  if ← host.holds (.str "://") then return host
  let mut port := port
  if transport.usesSsl.isTrue then
    if (← port.toInt) = plainPort then port := .int sslPort
  let scheme := if transport.usesSsl.isTrue then "ldaps" else "ldap"
  return .str (scheme ++ "://" ++ (← host.text) ++ ":" ++ (← port.text))

/-- Set options. The others keep their values. -/
def withOptions (transport : Transport) (options : List (Value × Value)) : Transport :=
  { transport with
    options := options.foldl (fun all entry => Value.insert all entry.1 entry.2) transport.options }

/-- The value of an option, or a default if it was never set. -/
def option (transport : Transport) (name default : Value) : Except Failure Value :=
  return (Value.lookup? transport.options (← name.requireKey)).getD default

/-- What a response to a bind means for the transport. -/
def afterBind (transport : Transport) (isSuccess : Bool) (username : Value) : Transport :=
  { transport with isBound := isSuccess, boundAs := if isSuccess then username else .null }

/-- The transport after a call on its wire client. -/
def afterCall (transport : Transport) (request : WireRequest) (outcome : Outcome) : Transport :=
  { transport with
    link :=
      match transport.link with
      | .wire handle => .wire (handle.map (·.afterCall request outcome))
      | link => link
    history := ⟨request, transport.usesTls, outcome⟩ :: transport.history }

/-- The transport without a host and bound as no one. -/
def released (transport : Transport) : Transport :=
  { transport with host := .null, isBound := false, boundAs := .null }

/-- The message for the last operation. -/
def lastError (transport : Transport) : Except Failure Value :=
  match transport.link with
  | .direct _ _ last => .ok ((last.diagnostic.orElse last.message).orElse .null)
  | .wire none => .ok .null
  | .wire (some handle) => handle.lastError

/-- The result code of the last operation. -/
def errorCode (transport : Transport) : Except Failure Value :=
  match transport.link with
  | .direct _ _ last => .ok last.code
  | .wire none => .ok .null
  | .wire (some handle) => handle.errorCode

/-- The details of the last operation, if it failed. -/
def detail (transport : Transport) : Except Failure (Option Detail) :=
  match transport.link with
  | .direct _ _ last => last.detail
  | .wire none => .ok none
  | .wire (some handle) => handle.detail

end Transport

end Directory
