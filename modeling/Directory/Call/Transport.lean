import Directory.Call.Basic
import Directory.Guard

/-!
# Calls on transports and guards

The operations of transports and guards by the names under which they are called, with the defaults
of their parameters.
-/

namespace Directory

/-- What a call gives: that on which it was made, or something else. -/
inductive Returned where
  | self
  | value (value : Value)
  | response (response : Response)
  | found (result : SearchResult)
  | detail (detail : Option Detail)
  | authentication (result : AuthResult)

/-- A control as a value. -/
def Control.toValue (control : Control) : Value :=
  .list [control.oid, control.critical, control.value]

/-- The arguments of a request, in order. -/
def Request.arguments : Request → List Value
  | .startTls | .close => []
  | .connect host port options => [host, port, .dict options]
  | .bind username password => [username, password]
  | .search _ base filter attrs limit controls =>
    [base, filter, attrs, limit,
      controls.elim .null fun controls => .list (controls.map Control.toValue)]
  | .add name attrs => [name, attrs]
  | .modify name changes => [name, changes]
  | .delete name => [name]
  | .rename name newName newParent deleteOld => [name, newName, newParent, deleteOld]

/-- The call that a request stands for. -/
def Request.call (request : Request) : Call :=
  ⟨request.queue.name, request.arguments, []⟩

namespace Transport

/-- The controls that a value stands for: none, or no more than an empty list of them. -/
def noControls (controls : Value) : Except Failure (Option (List Control)) :=
  match controls with
  | .null => .ok none
  | controls =>
    if !controls.isTrue then .ok (some [])
    else if controls.items?.isSome then .error Call.unknown
    else .error Failure.wrongType

/-- Search by a call. -/
def callSearch (scope : Scope) (call : Call) : Action Transport SearchResult := do
  match ← call.argumentsOr ["base_dn", "filter_str"]
      [("attributes", .null), ("size_limit", .int 0), ("controls", .null)] with
  | [base, filter, attrs, limit, controls] =>
    search scope base filter attrs limit (← noControls controls)
  | _ => throw Failure.wrongType

/-- Switch SSL or TLS by a call. -/
def callSwitch (call : Call) (change : Value → Transport → Transport) :
    Action Transport Returned := do
  match ← call.argumentsOr [] [("enabled", .bool true)] with
  | [enabled] =>
    Action.change (change enabled)
    return .self
  | _ => throw Failure.wrongType

/-- A call with an entry's name and one more argument. -/
def callEntry (call : Call) (param : String) (operation : Value → Value → Action Transport Value) :
    Action Transport Returned := do
  match ← call.arguments ["dn", param] with
  | [name, argument] => return .value (← operation name argument)
  | _ => throw Failure.wrongType

/-- What can be read off a transport by the name of a call without arguments. -/
def reading? (transport : Transport) : String → Option (Except Failure Returned)
  | "get_last_error" => some (.value <$> transport.lastError)
  | "err_no" => some (.value <$> transport.errorCode)
  | "get_detailed_error" => some (.detail <$> transport.detail)
  | "is_connected" => some (.ok (.value (.bool transport.isConnected)))
  | "is_bound" => some (.ok (.value (.bool transport.isBound)))
  | "is_using_ssl" => some (.ok (.value transport.usesSsl))
  | "is_using_tls" => some (.ok (.value transport.usesTls))
  | _ => none

/-- Carry out a call. What a transport has, but does not do, cannot be called. -/
def call (call : Call) : Action Transport Returned := do
  let transport ← Action.state
  match call.name with
  | "connect" =>
    match ← call.argumentsOr ["host"] [("port", .int plainPort)] with
    | [host, port] => return .value (← connect host port)
    | _ => throw Failure.wrongType
  | "start_tls" => do
    let _ ← call.arguments []
    return .value (← startTls)
  | "bind" =>
    match ← call.argumentsOr [] [("username", .null), ("password", .null)] with
    | [username, password] => return .response (← bind username password)
    | _ => throw Failure.wrongType
  | "search" => return .found (← callSearch .subtree call)
  | "list" => return .found (← callSearch .children call)
  | "read" => return .found (← callSearch .entry call)
  | "add" => callEntry call "attributes" add
  | "modify" => callEntry call "modifications" modify
  | "mod_add" => callEntry call "attributes" (modifyEach .add)
  | "mod_replace" => callEntry call "attributes" (modifyEach .replace)
  | "mod_delete" => callEntry call "attributes" (modifyEach .delete)
  | "delete" =>
    match ← call.arguments ["dn"] with
    | [name] => return .value (← delete name)
    | _ => throw Failure.wrongType
  | "rename" =>
    match ← call.argumentsOr ["dn", "new_rdn"]
        [("new_parent_dn", .null), ("delete_old_rdn", .bool true)] with
    | [name, newName, newParent, deleteOld] =>
      return .value (← rename name newName newParent deleteOld)
    | _ => throw Failure.wrongType
  | "close" => do
    let _ ← call.arguments []
    return .value (← close)
  | "ssl" => callSwitch call fun usesSsl transport => { transport with usesSsl }
  | "tls" => callSwitch call fun usesTls transport => { transport with usesTls }
  | "set_options" =>
    match ← call.arguments ["options"] with
    | [options] => do
      setOptions options
      return .value .null
    | _ => throw Failure.wrongType
  | "get_option" =>
    match ← call.argumentsOr ["name"] [("default", .null)] with
    | [name, default] => return .value (← transport.option name default)
    | _ => throw Failure.wrongType
  | "make_uri" =>
    match ← call.arguments ["host", "port"] with
    | [host, port] => return .value (← transport.address host port)
    | _ => throw Failure.wrongType
  | "host" | "bound_as" => throw Failure.wrongType
  | name =>
    match transport.reading? name with
    | some reading => do
      let _ ← call.arguments []
      reading
    | none => throw Call.unknown

end Transport

namespace Guard

/-- The username, the password and whether to stay bound, in a call. -/
def loginOf (call : Call) : Except Failure (Value × Value × Bool) := do
  match ← call.argumentsOr ["username", "password"] [("stay_bound", .bool false)] with
  | [username, password, staysBound] => return (username, password, staysBound.isTrue)
  | _ => throw Failure.wrongType

/-- Carry out a call. -/
def call (guard : Guard) (call : Call) : Action Transport Returned := do
  match call.name with
  | "authenticate" => do
    let (username, password, staysBound) ← loginOf call
    return .authentication (← guard.authenticate username password staysBound)
  | "attempt" => do
    let (username, password, staysBound) ← loginOf call
    return .value (.bool (← guard.attempt username password staysBound))
  | "bind" =>
    match ← call.argumentsOr [] [("username", .null), ("password", .null)] with
    | [username, password] => do
      guard.bind username password
      return .value .null
    | _ => throw Failure.wrongType
  | "bind_as_configured_user" => do
    let _ ← call.arguments []
    guard.bindAsConfigured
    return .value .null
  | _ => throw Call.unknown

end Guard

end Directory
