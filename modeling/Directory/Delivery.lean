import Directory.World

/-!
# Delivering events

A dispatcher delivers an event to everyone who listens for a class that the event is of. Listeners
act on the dispatcher while they are called: the classes to go through are settled when the delivery
begins, and the listeners of a class when its turn comes. A listener may have further events
delivered, up to a depth.
-/

namespace Directory

namespace Effect

/-- The listener that a name stands for. -/
def listenerNamed (name : Option String) : Effect Listener := do
  match (← get).loggers.lookup name with
  | some number => return .logger number name
  | none => return .named (name.getD "")

/-- The dispatcher of a number. Where there is none, nobody listens. -/
def dispatcher (number : Option Nat) : Effect Dispatcher := do
  let world ← get
  return ((number.bind (world.dispatchers[·]?))).getD {}

/-- Change a dispatcher. Where there is none, nothing changes. -/
def changeDispatcher (number : Option Nat) (change : Dispatcher → Dispatcher) : Effect Unit :=
  match number with
  | none => pure ()
  | some number => modify fun world =>
    { world with dispatchers := world.dispatchers.modify number change }

/-- The failure of a trigger that an event sets off, given how many events of its class the monitor
has heard. -/
def triggered? (triggers : List Trigger) (eventClass : EventClass) (time : Nat) : Option Failure :=
  let isSetOff (trigger : Trigger) : Bool :=
    trigger.eventClass = eventClass && (trigger.time.isNone || trigger.time = some (time : Int))
  (triggers.find? isSetOff).map Trigger.failure

/-- The monitor hears an event: it is recorded, and sets off the triggers for it. -/
def monitor (event : Event) : Effect Unit := do
  let _ ← event.text
  record (.event event)
  let world ← get
  let time := world.heard event.eventClass + 1
  set { world with
    heard := fun other => if other = event.eventClass then time else world.heard other }
  match triggered? world.triggers event.eventClass time with
  | some failure => throw failure
  | none => pure ()

/-- A logger hears an event and writes a line. -/
def writeLine (log : Option String) (event : Event) : Effect Unit := do
  record (.logged log event.level (← event.text))

/-- Carry out an instruction, given how events are delivered. -/
def carryOut (deliver : Event → Effect Unit) (number : Option Nat) :
    Instruction → Effect Value
  | .listen eventClasses name => do
    let listener ← listenerNamed name
    changeDispatcher number (·.listen eventClasses listener)
    return .bool true
  | .forget eventClass name => do
    let listener ← name.mapM listenerNamed
    changeDispatcher number (·.forget eventClass listener)
    return .null
  | .hasListeners eventClass => return .bool ((← dispatcher number).hasListeners eventClass)
  | .dispatch event => do
    deliver event
    return .null
  | .describe event => return .str (← event.text)
  | .install log => do
    let listener ← newLogger log
    changeDispatcher number (·.listen [.event] listener)
    return .bool true
  | .uninstall log => do
    let listener ← listenerNamed log
    changeDispatcher number (·.forget (some .event) (some listener))
    return .bool true

/-- A listener hears an event, given how further events are delivered. -/
def hear (deliver : Event → Effect Unit) (number : Option Nat) (event : Event) :
    Listener → Effect Unit
  | .monitor => monitor event
  | .logger _ log => writeLine log event
  | .named name => do
    record (.heard name event.eventClass)
    let reaction := ((← get).reactions.lookup name).getD {}
    for instruction in reaction.instructions do
      let _ ← carryOut deliver number instruction
    match reaction.failure with
    | some failure => throw failure
    | none => pure ()

/-- Deliver an event, with deliveries inside deliveries up to a depth. A failure of a listener ends
the delivery. -/
def deliverWithin : Nat → Option Nat → Event → Effect Unit
  | 0, _, _ => throw (Failure.misuse .tooDeep)
  | depth + 1, number, event => do
    for roll in (← dispatcher number).rollsFor event.eventClass do
      for listener in (← dispatcher number).roll roll do
        hear (deliverWithin depth number) number event listener

/-- How deep deliveries may be inside one another. -/
def deepest : Nat :=
  1000

/-- Deliver an event to the listeners of a dispatcher. -/
def deliver (number : Option Nat) (event : Event) : Effect Unit := do
  modify fun world => { world with announced := world.announced ++ [event] }
  deliverWithin deepest number event

/-- Carry out an instruction on a dispatcher. -/
def instruct (number : Option Nat) (instruction : Instruction) : Effect Value :=
  carryOut (deliver number) number instruction

end Effect

end Directory
