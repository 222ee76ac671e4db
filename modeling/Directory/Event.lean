import Directory.Value.Access
import Directory.Value.Text

/-!
# Events

What happens to connections, binds and queries is announced as events. The classes of events form a
hierarchy, so that a listener for a class hears the events of every class below it. `Event.text` is
the line that a logger writes for an event; it never shows a password.
-/

namespace Directory

/-- The classes of events. The first three stand above others and have no events of their own. -/
inductive EventClass where
  | event
  | connectionEvent
  | authEvent
  | connecting
  | connected
  | connectionFailed
  | attempting
  | passed
  | binding
  | bound
  | failed
  | queryExecuted
deriving DecidableEq, Repr

namespace EventClass

/-- The name of a class. -/
def name : EventClass → String
  | .event => "Event"
  | .connectionEvent => "ConnectionEvent"
  | .authEvent => "AuthEvent"
  | .connecting => "Connecting"
  | .connected => "Connected"
  | .connectionFailed => "ConnectionFailed"
  | .attempting => "Attempting"
  | .passed => "Passed"
  | .binding => "Binding"
  | .bound => "Bound"
  | .failed => "Failed"
  | .queryExecuted => "QueryExecuted"

/-- The classes. -/
def all : List EventClass :=
  [.event, .connectionEvent, .authEvent, .connecting, .connected, .connectionFailed, .attempting,
    .passed, .binding, .bound, .failed, .queryExecuted]

/-- Every class is listed. -/
theorem mem_all (eventClass : EventClass) : eventClass ∈ all := by
  cases eventClass <;> simp [all]

/-- The class with a name. -/
def ofName? (name : String) : Option EventClass :=
  all.find? (·.name == name)

/-- The class followed by the classes above it, nearest first. -/
def line : EventClass → List EventClass
  | .event => [.event]
  | .connectionEvent => [.connectionEvent, .event]
  | .authEvent => [.authEvent, .event]
  | .connecting => [.connecting, .connectionEvent, .event]
  | .connected => [.connected, .connectionEvent, .event]
  | .connectionFailed => [.connectionFailed, .connectionEvent, .event]
  | .queryExecuted => [.queryExecuted, .connectionEvent, .event]
  | .attempting => [.attempting, .authEvent, .event]
  | .passed => [.passed, .authEvent, .event]
  | .binding => [.binding, .authEvent, .event]
  | .bound => [.bound, .authEvent, .event]
  | .failed => [.failed, .authEvent, .event]

/-- An event of the first class is also one of the second. -/
def isA (eventClass above : EventClass) : Bool :=
  eventClass.line.contains above

end EventClass

/-- What happened. -/
inductive Happening where
  | connecting (hostname : Value)
  | connected (hostname : Value)
  | connectionFailed (hostname : Value) (failure : Option Failure)
  | attempting (username password : Value)
  | passed (username password : Value)
  | binding (username password : Value)
  | bound (username password : Value)
  | failed (username password : Value) (failure : Option Failure)
  | queryExecuted (query base filter elapsed : Value)

/-- The class of the events in which something happens. -/
def Happening.eventClass : Happening → EventClass
  | .connecting .. => .connecting
  | .connected .. => .connected
  | .connectionFailed .. => .connectionFailed
  | .attempting .. => .attempting
  | .passed .. => .passed
  | .binding .. => .binding
  | .bound .. => .bound
  | .failed .. => .failed
  | .queryExecuted .. => .queryExecuted

/-- An event: what happened, and the host that the transport was connected to at that time. -/
structure Event where
  host : Value
  happening : Happening

/-- How serious a line of a log is. -/
inductive Level where
  | info
  | warning
deriving DecidableEq, Repr

/-- The name of a level. -/
def Level.name : Level → String
  | .info => "INFO"
  | .warning => "WARNING"

namespace Event

/-- The class of an event. -/
def eventClass (event : Event) : EventClass :=
  event.happening.eventClass

/-- Failures are warnings; everything else is information. -/
def level (event : Event) : Level :=
  match event.happening with
  | .connectionFailed .. | .failed .. => .warning
  | _ => .info

/-- The words for a failure. -/
def reasonText (failure : Option Failure) : String :=
  (failure.map Failure.report).getD "None"

/-- What an event's text shows of what happened: each value with the words before and after it. -/
def shownParts : Happening → List (String × Value × String)
  | .connecting hostname | .connected hostname => [("Host: ", hostname, "")]
  | .connectionFailed hostname failure =>
    [("Host: ", hostname, ""), ("Reason: ", .str (reasonText failure), "")]
  | .attempting username _ | .passed username _ | .binding username _ | .bound username _ =>
    [("Username: ", username, "")]
  | .failed username _ failure =>
    [("Username: ", username, ""), ("Reason: ", .str (reasonText failure), "")]
  | .queryExecuted query base filter elapsed =>
    [("Type: ", query, ""), ("Base DN: ", base, ""), ("Filter: ", filter, ""),
      ("Time: ", elapsed, "ms")]

/-- The text of an event. -/
def text (event : Event) : Except Failure String := do
  let host ← (event.host.orElse (.str "")).text
  let parts ← (shownParts event.happening).mapM fun (before, value, after) =>
    return before ++ (← value.text) ++ after
  return " - ".intercalate
    (["LDAP (" ++ host ++ ")", "Operation: " ++ event.eventClass.name] ++ parts)

end Event

end Directory
