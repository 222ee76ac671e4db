import Directory.Event

/-!
# Dispatchers

A dispatcher knows who listens for which class of events. The listeners of a class are on a roll.
Listening adds to the roll at its end; forgetting one listener opens a new roll without it, and the
old roll stays as it was for a dispatch that is still going through it.
-/

namespace Directory

/-- Someone who hears events: a listener with a name, a logger that writes to the log of a name
(none is the default log), or the monitor, which records every event. A logger has a number of its
own, so two loggers for one log are different listeners. -/
inductive Listener where
  | named (name : String)
  | logger (number : Nat) (log : Option String)
  | monitor
deriving DecidableEq, Repr

/-- The classes listened for, in the order in which they came up, each with the number of its
roll. -/
structure Dispatcher where
  classes : List (EventClass × Nat) := []
  rolls : List (List Listener) := []

namespace Dispatcher

/-- The listeners on a roll. -/
def roll (dispatcher : Dispatcher) (number : Nat) : List Listener :=
  (dispatcher.rolls[number]?).getD []

/-- The listeners for a class. -/
def listeners (dispatcher : Dispatcher) (eventClass : EventClass) : List Listener :=
  ((dispatcher.classes.lookup eventClass).map dispatcher.roll).getD []

/-- Someone listens for the class itself. -/
def hasListeners (dispatcher : Dispatcher) (eventClass : EventClass) : Bool :=
  !(dispatcher.listeners eventClass).isEmpty

/-- Open a new roll for a class: in the place of the old one, or as that of a further class. -/
def openRoll (dispatcher : Dispatcher) (eventClass : EventClass) (listeners : List Listener) :
    Dispatcher :=
  let number := dispatcher.rolls.length
  let classes :=
    if (dispatcher.classes.lookup eventClass).isSome then
      dispatcher.classes.map fun entry =>
        if entry.1 = eventClass then (eventClass, number) else entry
    else dispatcher.classes ++ [(eventClass, number)]
  { classes, rolls := dispatcher.rolls ++ [listeners] }

/-- Listen for a class. -/
def listenFor (dispatcher : Dispatcher) (listener : Listener) (eventClass : EventClass) :
    Dispatcher :=
  match dispatcher.classes.lookup eventClass with
  | some number =>
    { dispatcher with rolls := dispatcher.rolls.set number (dispatcher.roll number ++ [listener]) }
  | none => dispatcher.openRoll eventClass [listener]

/-- Listen for several classes. -/
def listen (dispatcher : Dispatcher) (eventClasses : List EventClass) (listener : Listener) :
    Dispatcher :=
  eventClasses.foldl (·.listenFor listener) dispatcher

/-- Forget a listener for a class. -/
def forgetListener (dispatcher : Dispatcher) (listener : Listener) (eventClass : EventClass) :
    Dispatcher :=
  dispatcher.openRoll eventClass ((dispatcher.listeners eventClass).filter (· ≠ listener))

/-- Forget all who listen for a class. -/
def forgetClass (dispatcher : Dispatcher) (eventClass : EventClass) : Dispatcher :=
  { dispatcher with classes := dispatcher.classes.filter (·.1 ≠ eventClass) }

/-- Forget a listener, or all of them, for a class, or for all classes. -/
def forget (dispatcher : Dispatcher) (eventClass : Option EventClass) (listener : Option Listener) :
    Dispatcher :=
  let eventClasses := eventClass.elim (dispatcher.classes.map Prod.fst) ([·])
  match listener with
  | none => eventClasses.foldl forgetClass dispatcher
  | some listener => eventClasses.foldl (·.forgetListener listener) dispatcher

/-- The rolls that an event is read out to, in order. -/
def rollsFor (dispatcher : Dispatcher) (eventClass : EventClass) : List Nat :=
  (dispatcher.classes.filter fun entry => eventClass.isA entry.1).map Prod.snd

end Dispatcher

end Directory
