import Directory.Guard

/-!
# Connections

A connection to a domain: a configuration, a transport, and how far the two have come. Its state and
its host name follow what was done through the connection, whatever the transport has gone through
since.
-/

namespace Directory

/-- How far a connection has come. -/
inductive ConnectionState where
  | disconnected
  | connecting
  | connected
  | bound
deriving DecidableEq, Repr

/-- The name of a state. -/
def ConnectionState.name : ConnectionState → String
  | .disconnected => "disconnected"
  | .connecting => "connecting"
  | .connected => "connected"
  | .bound => "bound"

/-- A connection. `hostname` is the configured host in use, and `attempted` lists the hosts that
could not be used, each once. -/
structure Connection where
  configuration : Configuration
  transport : Transport
  dispatcher : Option Nat := none
  classifier : Classifier := {}
  attempted : List Value := []
  state : ConnectionState := .disconnected
  hostname : Value := .null

instance : Inhabited Connection := ⟨{ configuration := {}, transport := default }⟩

namespace Connection

/-- A connection with the given options. -/
def ofOptions (options : Value) (transport : Transport) (dispatcher : Option Nat)
    (classifier : Classifier) : Except Failure Connection :=
  return { configuration := ← Configuration.ofOptions options, transport, dispatcher, classifier }

/-- The transport of a connection. -/
def link : Focus Connection Transport :=
  ⟨transport, fun connection transport => { connection with transport }⟩

/-- Run an action on the transport. -/
def onTransport (action : Action Transport α) : Action Connection α :=
  action.on link

/-- The transport is open and bound. -/
def isConnected (connection : Connection) : Bool :=
  connection.transport.isConnected && connection.transport.isBound

/-- A guard for the transport. -/
def guard (connection : Connection) : Guard :=
  ⟨connection.configuration, connection.dispatcher, connection.classifier⟩

/-- Announce what happens to the connection. -/
def announce (happening : Happening) : Action Connection Unit := do
  let connection ← Action.state
  Action.outside
    (Effect.deliver connection.dispatcher ⟨connection.transport.host, happening⟩)

/-- Note that a host could not be used. -/
def noteAttempt (hostname : Value) : Action Connection Unit := do
  let hostname ← hostname.requireKey
  Action.change fun connection =>
    if connection.attempted.any hostname.same then connection
    else { connection with attempted := connection.attempted ++ [hostname] }

/-- The options that a transport is given: the configured ones, and those that have a place of their
own in the configuration. -/
def transportOptions (configuration : Configuration) : Except Failure (List (Value × Value)) := do
  let options ← (configuration.value .options).entries
  let own := [OptionName.version, .timeout, .followReferrals].map fun name =>
    (Value.str name.key, configuration.value name)
  return own.foldl (fun all entry => Value.insert all entry.1 entry.2) options

/-- The settings of a transport under a configuration: SSL goes before TLS. -/
def configured (configuration : Configuration) (options : List (Value × Value))
    (transport : Transport) : Transport :=
  let transport :=
    if (configuration.value .useSsl).isTrue then { transport with usesSsl := .bool true }
    else if (configuration.value .useTls).isTrue then { transport with usesTls := .bool true }
    else transport
  transport.withOptions options

/-- Apply the configuration to the transport. -/
def configure : Action Connection Unit := do
  let configuration := (← Action.state).configuration
  let options ← transportOptions configuration
  onTransport (Action.change (configured configuration options))

/-- The host to use where none is given. -/
def firstHost (configuration : Configuration) : Except Failure Value :=
  match configuration.hosts with
  | [] => .error Refusal.noHosts.toFailure
  | hostname :: _ => .ok hostname

/-- Open the transport for a host, or for the first configured host. A handle that is open is closed
first. -/
def openHost (hostname : Value) : Action Connection Unit := do
  let connection ← Action.state
  let hostname ←
    match hostname with
    | .null => firstHost connection.configuration
    | hostname => pure hostname
  if connection.transport.isConnected then
    let _ ← onTransport Transport.close
  configure
  Value.note [hostname]
  let _ ← onTransport (Transport.connect hostname (connection.configuration.value .port))
  Action.change ({ · with hostname, state := .connected })

/-- A guard for the transport, which is opened if it is not open. -/
def auth : Action Connection Guard := do
  if !(← Action.state).transport.isConnected then openHost .null
  return (← Action.state).guard

/-- Close the transport. -/
def disconnect : Action Connection Unit := do
  if (← Action.state).transport.isConnected then
    let _ ← onTransport Transport.close
  Action.change ({ · with state := .disconnected, hostname := .null })

/-- Run an action, and disconnect when it ends, whether or not it fails. -/
def during (action : Action Connection α) : Action Connection α :=
  action.ensuring disconnect

/-- A new connection with the same configuration and a new transport of the same kind. -/
def replica : Action Connection Connection := do
  let connection ← Action.state
  let transport ← Action.outside connection.transport.renewed
  ofOptions (.dict connection.configuration.all) transport connection.dispatcher
    connection.classifier

end Connection

end Directory
