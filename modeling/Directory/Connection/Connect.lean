import Directory.Connection.Basic

/-!
# Connecting

A connection tries the configured hosts in order until it can open one of them and bind to it. A
host counts as tried however it failed, as long as the failure is a report of a directory operation.
-/

namespace Directory.Connection

/-- Bind as a user, or as the configured account if no user is given. -/
def bind (username password : Value) : Action Connection Unit := do
  let guard := (← Action.state).guard
  match username, password with
  | .null, .null => onTransport guard.bindAsConfigured
  | username, password => onTransport (guard.bind username password)
  Action.change ({ · with state := .bound })

/-- Open the transport for a host and bind to it. -/
def connectTo (hostname username password : Value) : Action Connection Unit := do
  Action.change ({ · with state := .connecting })
  announce (.connecting hostname)
  openHost hostname
  bind username password
  announce (.connected hostname)

/-- Try a host, and further hosts in order until one can be used. If none can, the answer is the
failure of the last one. -/
def connectToAny (username password : Value) :
    Value → List Value → Action Connection (Option Failure)
  | hostname, hostnames => do
    match ← (connectTo hostname username password).observe with
    | .ok () => return none
    | .error failure =>
      if !failure.isDirectory then throw failure
      Value.note [hostname]
      noteAttempt hostname
      match hostnames with
      | [] => return some failure
      | hostname :: hostnames => connectToAny username password hostname hostnames

/-- The failure when no host could be used, given the hosts tried and the failure of the last
one. -/
def noServer (attempted : List Value) (last : Failure) : Except Failure Failure := do
  let hostnames ← Value.join ", " attempted
  return {
    kind := .noServer
    text := some ("No LDAP server available (attempted: " ++ hostnames ++ ")")
    detail := last.detail
    attempted }

/-- Connect and bind to the first host that can be used. -/
def connect (username password : Value) : Action Connection Unit := do
  match (← Action.state).configuration.hosts with
  | [] => throw Refusal.noHosts.toFailure
  | hostname :: hostnames =>
    match ← connectToAny username password hostname hostnames with
    | none => return
    | some last =>
      disconnect
      let failure ← noServer (← Action.state).attempted last
      announce (.connectionFailed (hostnames.getLastD hostname) (some failure))
      throw { failure with cause := some last }

/-- Close the transport and connect again from the first host. -/
def reconnect : Action Connection Unit := do
  disconnect
  connect .null .null

end Directory.Connection
