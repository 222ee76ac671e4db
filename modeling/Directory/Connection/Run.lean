import Directory.Connection.Connect

/-!
# Running operations

An operation that fails because the server was lost is run again, first on the same host, and after
each further loss on the next configured host. There are at most as many retries as configured
hosts. Every other failure of a directory operation is classified and raised.
-/

namespace Directory.Connection

/-- The configured host after a host, going around at the end. A host that is not configured is
followed by the first one. -/
def hostAfter (hostnames : List Value) (hostname : Value) : Value :=
  let next :=
    match hostnames.findIdx? hostname.same with
    | some index => (index + 1) % hostnames.length
    | none => 0
  hostnames.getD next .null

/-- Disconnect, and connect to a host as the configured account. -/
def reconnectTo (hostname : Value) : Action Connection Unit := do
  disconnect
  connectTo hostname .null .null

/-- The failure to raise for a failure that is no lost connection. -/
def classified (failure : Failure) : Action Connection Failure := do
  (← Action.state).classifier.classify failure none

/-- One more run of an operation after the connection was lost, and further ones, each on the host
after the one before. The number is that of the retries left after this one. -/
def retry (focus : Focus σ Connection) (operation : Action σ α) :
    Nat → Value → Action σ α
  | retries, hostname => do
    match ← (do (reconnectTo hostname).on focus; operation).observe with
    | .ok result => return result
    | .error failure =>
      if !failure.isDirectory then throw failure
      if !(← failure.causedByLostConnection) then throw (← (classified failure).on focus)
      (noteAttempt hostname).on focus
      match retries with
      | 0 => throw failure
      | retries + 1 =>
        let hostnames := (focus.get (← Action.state)).configuration.hosts
        let next := hostAfter hostnames hostname
        Value.note [next]
        retry focus operation retries next

/-- Run an operation on a state that has a connection as a part, connecting first if that is
needed. -/
def runWithin (focus : Focus σ Connection) (operation : Action σ α) : Action σ α := do
  if !(focus.get (← Action.state)).isConnected then (connect .null .null).on focus
  let connection := focus.get (← Action.state)
  let hostname := connection.hostname
  match ← operation.observe with
  | .ok result => return result
  | .error failure =>
    if !failure.isDirectory then throw failure
    if !(← failure.causedByLostConnection) then throw (← (classified failure).on focus)
    match connection.configuration.hosts.length with
    | 0 => do
      (noteAttempt hostname).on focus
      throw failure
    | retries + 1 => do
      Value.note [hostname]
      retry focus operation retries hostname

/-- Run an operation on the connection. -/
def run (operation : Action Connection α) : Action Connection α :=
  runWithin .whole operation

end Directory.Connection
