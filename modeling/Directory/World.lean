import Directory.Dispatcher
import Directory.Response

/-!
# The world outside

Everything that the library does not decide itself: what servers answer, what the clock shows, who
listens to events. The world is a script with a queue of outcomes for each kind of call, and it
keeps a record of everything that was asked of it, in order. A law that holds for every script holds
whatever the servers do.
-/

namespace Directory

/-- The calls on a wire client. -/
inductive WireCall where
  | open_
  | unbind
  | startTls
  | bind
  | search
  | add
  | modify
  | delete
  | rename
deriving DecidableEq, Repr

namespace WireCall

/-- The calls on a wire client. -/
def all : List WireCall :=
  [.open_, .unbind, .startTls, .bind, .search, .add, .modify, .delete, .rename]

/-- Every call on a wire client is listed. -/
theorem mem_all (call : WireCall) : call ∈ all := by
  cases call <;> simp [all]

/-- The name of a call on a wire client. -/
def name : WireCall → String
  | .open_ => "open"
  | .unbind => "unbind"
  | .startTls => "start_tls"
  | .bind => "bind"
  | .search => "search"
  | .add => "add"
  | .modify => "modify"
  | .delete => "delete"
  | .rename => "modify_dn"

end WireCall

/-- The queues of the script: one for each kind of request to a direct transport, and one for each
call on a wire client. -/
inductive Queue where
  | connect
  | startTls
  | bind
  | search (scope : Scope)
  | add
  | modify
  | delete
  | rename
  | close
  | wire (call : WireCall)
deriving DecidableEq, Repr

namespace Queue

/-- The queues for requests to direct transports. -/
def direct : List Queue :=
  [.connect, .startTls, .bind, .search .subtree, .search .children, .search .entry, .add, .modify,
    .delete, .rename, .close]

/-- The name of a queue, which is that of the operation that it answers. -/
def name : Queue → String
  | .connect => "connect"
  | .startTls => "start_tls"
  | .bind => "bind"
  | .search scope => scope.name
  | .add => "add"
  | .modify => "modify"
  | .delete => "delete"
  | .rename => "rename"
  | .close => "close"
  | .wire call => call.name

end Queue

/-- What a call gives. `value` is what it returns. A direct transport reads the response, the
entries and the cookie of a further page; a wire client keeps the result and the found items. -/
structure Answer where
  value : Value := .bool true
  response : Response := {}
  entries : Value := .list []
  cookie : Option Value := none
  result : Value := .dict [(.str "result", .int 0), (.str "description", .str "success"),
    (.str "message", .str ""), (.str "dn", .str ""), (.str "referrals", .null)]
  found : Value := .list []

/-- The outcome of a call: it fails before anything else happens, or it gives an answer. -/
inductive Outcome where
  | fails (failure : Failure)
  | gives (answer : Answer)

/-- A request to a direct transport. -/
inductive Request where
  | connect (host port : Value) (options : List (Value × Value))
  | startTls
  | bind (username password : Value)
  | search (scope : Scope) (base filter attrs limit : Value) (controls : Option (List Control))
  | add (name attrs : Value)
  | modify (name changes : Value)
  | delete (name : Value)
  | rename (name newName newParent deleteOld : Value)
  | close

/-- The queue that answers a request. -/
def Request.queue : Request → Queue
  | .connect .. => .connect
  | .startTls => .startTls
  | .bind .. => .bind
  | .search scope .. => .search scope
  | .add .. => .add
  | .modify .. => .modify
  | .delete .. => .delete
  | .rename .. => .rename
  | .close => .close

/-- The paging of a search by a wire client. -/
structure WirePaging where
  size : Value
  cookie : Value
  critical : Value

/-- What is asked of a wire client. The first two make a new client, for which there is no
outcome. -/
inductive WireRequest where
  | server (uri useSsl timeout : Value)
  | client (version timeout : Value) (followReferrals : Bool)
  | open_
  | unbind
  | startTls
  | bind (username password : Value)
  | search (scope : Scope) (base filter attrs limit : Value) (controls : List Control)
      (paging : Option WirePaging)
  | add (name attrs : Value)
  | modify (name changes : Value)
  | delete (name : Value)
  | rename (name newName newParent deleteOld : Value)

/-- The queue that answers a request, for those that have an outcome. -/
def WireRequest.queue? : WireRequest → Option Queue
  | .server .. | .client .. => none
  | .open_ => some (.wire .open_)
  | .unbind => some (.wire .unbind)
  | .startTls => some (.wire .startTls)
  | .bind .. => some (.wire .bind)
  | .search .. => some (.wire .search)
  | .add .. => some (.wire .add)
  | .modify .. => some (.wire .modify)
  | .delete .. => some (.wire .delete)
  | .rename .. => some (.wire .rename)

/-- An exchange with a wire client: what it was asked, whether TLS was wanted at that time, and what
came of it. -/
structure Exchange where
  request : WireRequest
  usesTls : Value
  outcome : Outcome

/-- A record of something that was asked of the world or told to it. -/
inductive Record where
  | direct (transport : Nat) (request : Request)
  | wire (request : WireRequest)
  | event (event : Event)
  | heard (listener : String) (eventClass : EventClass)
  | logged (log : Option String) (level : Level) (text : String)
  | operation (hostname : Value)
  | page (number : Nat) (entries : Value)

namespace Record

/-- The record of an operation that a connection ran. -/
def isOperation : Record → Bool
  | .operation _ => true
  | _ => false

/-- The record of a page that was handed over. -/
def isPage : Record → Bool
  | .page .. => true
  | _ => false

end Record

/-- Something that is asked of a dispatcher. The name of a log stands for the logger that was last
installed for it, and any other name for the listener of that name. -/
inductive Instruction where
  | listen (eventClasses : List EventClass) (name : Option String)
  | forget (eventClass : Option EventClass) (name : Option (Option String))
  | hasListeners (eventClass : EventClass)
  | dispatch (event : Event)
  | describe (event : Event)
  | install (log : Option String)
  | uninstall (log : Option String)

/-- What a listener with a name does when it hears an event: carry out instructions, and then fail,
if it has a failure. -/
structure Reaction where
  instructions : List Instruction := []
  failure : Option Failure := none

/-- A failure that the monitor raises when it hears an event of exactly one class: each time, or
only the time with a number, counted from one. -/
structure Trigger where
  eventClass : EventClass
  time : Option Int
  failure : Failure

/-- The world: the outcomes and clock readings still to come, the records so far, and everyone who
listens. `announced` lists the events that dispatchers were given to deliver, whether or not anyone
listened, and `heard` counts those that the monitor heard. Dispatchers are known by their place in
the list. -/
structure World where
  script : Queue → List Outcome := fun _ => []
  clock : List Value := []
  records : List Record := []
  announced : List Event := []
  dispatchers : List Dispatcher := []
  reactions : List (String × Reaction) := []
  triggers : List Trigger := []
  heard : EventClass → Nat := fun _ => 0
  loggers : List (Option String × Nat) := []
  transports : Nat := 0

/-- An effect on the world. What was done before a failure stays. -/
abbrev Effect := ExceptT Failure (StateM World)

namespace Effect

/-- Add a record. -/
def record (record : Record) : Effect Unit :=
  modify fun world => { world with records := world.records ++ [record] }

/-- Take the next outcome of a queue. A call beyond the end of the script gives the usual answer. -/
def take (queue : Queue) : Effect Answer := do
  let world ← get
  match world.script queue with
  | [] => return {}
  | outcome :: outcomes =>
    set { world with
      script := fun other => if other = queue then outcomes else world.script other }
    match outcome with
    | .fails failure => throw failure
    | .gives answer => return answer

/-- The reading of the clock, in seconds. Beyond the end of the script it is zero. -/
def now : Effect Value := do
  let world ← get
  match world.clock with
  | [] => return .float .zero
  | reading :: readings =>
    set { world with clock := readings }
    return reading

/-- A number for a new direct transport. -/
def newTransport : Effect Nat := do
  let world ← get
  set { world with transports := world.transports + 1 }
  return world.transports

/-- A new logger for a log. -/
def newLogger (log : Option String) : Effect Listener := do
  let world ← get
  let number := world.loggers.length
  set { world with loggers := (log, number) :: world.loggers }
  return .logger number log

end Effect

end Directory
