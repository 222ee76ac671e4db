import Directory.Call.Transport
import Directory.Pool

/-!
# Calls on connections and their registry

The operations of a connection and of a registry by the names under which they are called.
-/

namespace Directory

namespace Connection

/-- Carry out a call. -/
def call (call : Call) : Action Connection Returned := do
  match call.name with
  | "connect" =>
    match ← call.argumentsOr [] [("username", .null), ("password", .null)] with
    | [username, password] => do
      connect username password
      return .self
    | _ => throw Failure.wrongType
  | "disconnect" => do
    let _ ← call.arguments []
    disconnect
    return .value .null
  | "reconnect" => do
    let _ ← call.arguments []
    reconnect
    return .self
  | "initialize" =>
    match ← call.argumentsOr [] [("hostname", .null)] with
    | [hostname] => do
      openHost hostname
      return .self
    | _ => throw Failure.wrongType
  | _ => throw Call.unknown

end Connection

namespace Pool

/-- Carry out a call on the registry. Those that give connections need no more than the registry to
be answered; here they are calls whose arguments do not fit. -/
def call (call : Call) : Action Pool Returned := do
  let registry := (← Action.state).registry
  match call.name with
  | "default_name" => return .value registry.default
  | "exists" =>
    match ← call.arguments ["name"] with
    | [name] => return .value (.bool (← registry.has name))
    | _ => throw Failure.wrongType
  | "set_default" =>
    match ← call.argumentsOr [] [("name", .null)] with
    | [name] => do
      changeRegistry (·.withDefault name)
      return .self
    | _ => throw Failure.wrongType
  | "remove" =>
    match ← call.arguments ["name"] with
    | [name] => do
      remove name
      return .self
    | _ => throw Failure.wrongType
  | "flush" => do
    let _ ← call.arguments []
    flush
    return .self
  | "unset_logger" => do
    let _ ← call.arguments []
    unsetLogger
    return .self
  | "get" | "get_default" | "all" => throw Failure.wrongType
  | _ => throw Call.unknown

end Pool

end Directory
