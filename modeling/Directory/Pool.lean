import Directory.Connection.Run

/-!
# Pools of connections

A pool holds connections, known by their numbers, and a registry that gives some of them names. One
name is the default. Every connection that is registered announces its events to the registry's
dispatcher.
-/

namespace Directory

/-- A registry: the names of connections in the order in which they came up, the default name, and
the logger that hears the events of the registered connections. -/
structure Registry where
  dispatcher : Nat
  names : List (Value × Nat) := []
  default : Value := .str "default"
  logger : Option Listener := none

/-- Connections and their registry. -/
structure Pool where
  connections : List Connection
  registry : Registry

namespace Registry

/-- The name that is the default at first. -/
def firstDefault : Value :=
  .str "default"

/-- The name that is meant by a value: no name is the default one. -/
def meant (registry : Registry) (name : Value) : Value :=
  name.orElse registry.default

/-- The connection with a name. -/
def get (registry : Registry) (name : Value) : Except Failure Nat := do
  let name ← (registry.meant name).requireKey
  match Value.lookup? registry.names name with
  | some number => return number
  | none => throw (Refusal.unknownConnection (← name.text)).toFailure

/-- A name is that of a connection. -/
def has (registry : Registry) (name : Value) : Except Failure Bool :=
  return (Value.lookup? registry.names (← name.requireKey)).isSome

/-- The registry without a name. -/
def without (registry : Registry) (name : Value) : Registry :=
  { registry with names := registry.names.filter fun entry => !entry.1.same name }

/-- The registry with a default name; no name is the first default. -/
def withDefault (registry : Registry) (name : Value) : Registry :=
  { registry with default := name.orElse firstDefault }

end Registry

namespace Pool

/-- The connection with a number. -/
def connection (number : Nat) : Focus Pool Connection :=
  ⟨fun pool => pool.connections.getD number default,
    fun pool connection => { pool with connections := pool.connections.set number connection }⟩

/-- Change the registry. -/
def changeRegistry (change : Registry → Registry) : Action Pool Unit :=
  Action.change fun pool => { pool with registry := change pool.registry }

/-- Take a connection into the pool. -/
def append (connection : Connection) : Action Pool Nat := do
  let number := (← Action.state).connections.length
  Action.change fun pool => { pool with connections := pool.connections ++ [connection] }
  return number

/-- Take a replica of a connection into the pool. -/
def replicate (number : Nat) : Action Pool Nat := do
  append (← Connection.replica.on (connection number))

/-- Run an action on a state that has the pool as a part, and disconnect a connection when it ends,
whether or not it fails. -/
def during (focus : Focus σ Pool) (number : Nat) (action : Action σ α) : Action σ α :=
  action.ensuring (Connection.disconnect.on (focus.andThen (connection number)))

/-- Run an action with a replica of a connection, which is disconnected when it ends. -/
def isolate (focus : Focus σ Pool) (number : Nat) (action : Nat → Action σ α) : Action σ α := do
  let replica ← (replicate number).on focus
  during focus replica (action replica)

/-- Register a connection under a name; no name is the default one. -/
def add (number : Nat) (name : Value) : Action Pool Unit := do
  let registry := (← Action.state).registry
  let name := registry.meant name
  Value.note [name]
  (Action.change fun connection : Connection =>
    { connection with dispatcher := some registry.dispatcher }).on (connection number)
  let name ← name.requireKey
  changeRegistry fun registry => { registry with names := Value.insert registry.names name number }

/-- Forget a name. The connection that had it is disconnected. -/
def remove (name : Value) : Action Pool Unit := do
  let name ← name.requireKey
  let registry := (← Action.state).registry
  changeRegistry (·.without name)
  match Value.lookup? registry.names name with
  | some number => Connection.disconnect.on (connection number)
  | none => pure ()

/-- Stop logging. -/
def unsetLogger : Action Pool Unit := do
  let registry := (← Action.state).registry
  match registry.logger with
  | none => pure ()
  | some listener =>
    Action.outside
      (Effect.changeDispatcher (some registry.dispatcher) (·.forget (some .event) (some listener)))
    changeRegistry ({ · with logger := none })

/-- Log the events of the registered connections to a log, and to no other one. -/
def setLogger (log : Option String) : Action Pool Unit := do
  unsetLogger
  let registry := (← Action.state).registry
  let listener ← Action.outside do
    let listener ← Effect.newLogger log
    Effect.changeDispatcher (some registry.dispatcher) (·.listen [.event] listener)
    return listener
  changeRegistry ({ · with logger := some listener })

/-- Forget the names in order. -/
def removeAll : List Value → Action Pool Unit
  | [] => pure ()
  | name :: names => do
    remove name
    removeAll names

/-- Forget every name, restore the default one, and stop logging. -/
def flush : Action Pool Unit := do
  removeAll ((← Action.state).registry.names.map Prod.fst)
  changeRegistry (·.withDefault .null)
  unsetLogger

end Pool

end Directory
