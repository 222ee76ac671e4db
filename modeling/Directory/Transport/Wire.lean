import Directory.Action
import Directory.Transport.Basic

/-!
# Transports over a wire client

A wire client reports a failed operation by its result, and fails itself only if it cannot carry the
operation out. `guarded` turns its failures into the ones of this library: a lost server becomes a
failure of the connection that can be recognised as such, and leaves the transport unbound. Every
operation is noted before it begins.
-/

namespace Directory.Transport.Wire

/-- The failure of an operation that cannot reach the server, with a diagnostic text. -/
def serverDown (text diagnostic : String) (cause : Option Failure) : Failure :=
  { kind := .connection
    text := some (serverDownMessage ++ text)
    detail := some ⟨.int serverDownCode, .str serverDownMessage, .str diagnostic⟩
    cause }

/-- Run an operation on the handle, with the failures of the wire client turned into those of this
library. -/
def guarded (name : String) (operation : Action Transport α) : Action Transport α := do
  if !(← Action.state).isConnected then
    throw (serverDown (" - no connection for [" ++ name ++ "]") "" none)
  match ← operation.observe with
  | .ok result => return result
  | .error failure =>
    if failure.isA (.wire .communication) then
      Action.change ({ · with isBound := false })
      throw (serverDown (" (" ++ failure.report ++ ")") failure.report (some failure))
    else if failure.isA (.wire .general) then
      let detail ← (← Action.state).detail
      throw { kind := .directory, text := some failure.report, detail, cause := some failure }
    else throw failure

/-- What comes of a request. Making a new client cannot fail. -/
def outcomeOf (request : WireRequest) : Action Transport Outcome :=
  match request.queue? with
  | none => return .gives {}
  | some queue => do
    match ← (Action.outside (Effect.take queue)).observe with
    | .ok answer => return .gives answer
    | .error failure => return .fails failure

/-- Ask the wire client for something. -/
def ask (request : WireRequest) : Action Transport Answer := do
  Action.outside (Effect.record (.wire request))
  let outcome ← outcomeOf request
  Action.change (·.afterCall request outcome)
  match outcome with
  | .gives answer => return answer
  | .fails failure => throw failure

/-- The failure of an operation that the server refused. -/
def refused (name : String) : Action Transport α := do
  let transport ← Action.state
  let text ← (← transport.lastError).text
  let detail ← transport.detail
  throw { kind := .operational, text := some ("LDAP operation [" ++ name ++ "] failed: " ++ text),
          detail }

/-- Check what the wire client returned for an operation. -/
def check (value : Value) (name : String) : Action Transport Value :=
  if value.isTrue then return .bool true else refused name

/-- The names of entries in a request for a change. -/
def namesIn : WireRequest → List Value
  | .add name _ | .modify name _ | .delete name => [name]
  | .rename name newName _ _ => [name, newName]
  | _ => []

/-- Carry out a change. -/
def perform (name : String) (request : WireRequest) : Action Transport Value := do
  Value.note (namesIn request)
  guarded name do check (← ask request).value name

/-- The response to the last operation. -/
def response : Action Transport Response := do
  (((← Action.state).handle?).getD {}).response

/-- Drop the handle, asking the wire client to unbind first. It does not matter if it cannot. -/
def close : Action Transport Value := do
  let wasClosed ←
    if (← Action.state).isConnected then do
      Value.note [(← Action.state).host]
      match ← (ask .unbind).observe with
      | .ok _ => pure true
      | .error failure => if failure.isA (.wire .general) then pure false else throw failure
    else pure false
  Action.change fun transport => { transport with link := .wire none }
  Action.change released
  return .bool wasClosed

/-- Make a wire client for a host, in the place of the one before. It is opened when it is used. -/
def connect (host port : Value) : Action Transport Value := do
  let _ ← close
  let address ← (← Action.state).address host port
  Action.change ({ · with host := address })
  Value.note [address]
  let transport ← Action.state
  let timeout ← transport.option (.str "timeout") .null
  let _ ← ask (.server address transport.usesSsl timeout)
  let version ← transport.option (.str "version") (.int 3)
  let followReferrals ← transport.option (.str "follow_referrals") (.bool false)
  let _ ← ask (.client version timeout followReferrals.isTrue)
  Action.change fun transport => { transport with link := .wire (some {}) }
  return .bool true

/-- Start TLS, on an opened client. -/
def startTls : Action Transport Value := do
  Value.note [(← Action.state).host]
  guarded "start_tls" do
    if (((← Action.state).handle?).getD {}).isClosed then
      let _ ← ask .open_
    check (← ask .startTls).value "start_tls"

/-- Bind as a user. -/
def bind (username password : Value) : Action Transport Response := do
  Value.note [(← Action.state).host, username.orElse (.str "")]
  guarded "bind" do
    let _ ← ask (.bind username password)
  let response ← response
  let isSuccess ← response.successful
  Action.change (·.afterBind isSuccess username)
  return response

/-- The paging that a control asks for. -/
def pagingOf (control : Control) : Except Failure WirePaging := do
  let entries ←
    match control.value with
    | .dict entries => pure entries
    | _ => throw Failure.wrongType
  match Value.lookup? entries (.str "size") with
  | none => throw (Failure.misuse .missingKey)
  | some size =>
    let cookie := (Value.lookup? entries (.str "cookie")).getD .null
    return ⟨size, cookie.orElse .null, control.critical⟩

/-- The controls of a search apart from those for paging, and the paging that the last of those asks
for. -/
def splitControls : List Control → Except Failure (List Control × Option WirePaging)
  | [] => .ok ([], none)
  | control :: controls => do
    if control.oid.isStr pagedResultsOid then
      let paging ← pagingOf control
      let (others, later) ← splitControls controls
      return (others, later.or (some paging))
    else
      let (others, paging) ← splitControls controls
      return (control :: others, paging)

/-- The text of a value that is bytes in UTF-8; any other value stays as it is. -/
def decoded : Value → Value
  | .bytes bs =>
    match String.fromUTF8? (ByteArray.mk bs.toArray) with
    | some s => .str s
    | none => .bytes bs
  | value => value

/-- An item that the wire client found, as an entry: its attributes with their values, and its name.
Items of other types are none. -/
def entryOf? (item : Value) : Except Failure (Option Value) := do
  if !(← item.get "type" .null).isStr "searchResEntry" then return none
  let attrs ← (← (← item.get "raw_attributes" (.dict [])).entries).mapM fun (name, values) =>
    return (name, Value.list ((← values.items).map decoded))
  match Value.lookup? (← item.entries) (.str "dn") with
  | none => throw (Failure.misuse .missingKey)
  | some name => return some (.dict (Value.insert attrs (.str "dn") name))

/-- The entries among the items that the wire client found. -/
def entriesOf (items : Value) : Except Failure (List Value) := do
  let entries ← (← (items.orElse (.list [])).items).mapM entryOf?
  return entries.filterMap id

/-- Search. -/
def search (scope : Scope) (base filter attrs limit : Value) (controls : Option (List Control)) :
    Action Transport SearchResult := do
  Value.note [base, filter]
  let (others, paging) ← splitControls (controls.getD [])
  guarded scope.name do
    let _ ← ask (.search scope base filter (attrs.orElse (.str "*")) limit others paging)
    let response ← response
    if !searchSuccessCodes.any fun code => response.code.same (.int code) then
      refused scope.name
    let entries ← entriesOf (((← Action.state).handle?).getD {}).found
    return ⟨.list entries, response⟩

end Directory.Transport.Wire
