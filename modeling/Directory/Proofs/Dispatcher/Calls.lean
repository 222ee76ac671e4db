import Directory.Proofs.Delivery
import Directory.Proofs.Dispatcher.Requests

/-!
# Calling listeners

Delivering an event comes to calling listeners one after the other (`calls_called`). Who is called
is settled roll by roll: it depends on what the listeners called before made of the dispatcher.
-/

namespace Directory

/-- The name of the listener that heard something. -/
def Record.hearer? : Record → Option String
  | .heard name _ => some name
  | _ => none

namespace World

/-- The dispatcher of a number. Where there is none, nobody listens. -/
def dispatcher (world : World) (number : Option Nat) : Dispatcher :=
  (number.bind (world.dispatchers[·]?)).getD {}

/-- The world when an event was given to a dispatcher. -/
def announcing (world : World) (event : Event) : World :=
  { world with announced := world.announced ++ [event] }

end World

namespace Effect

variable {number : Option Nat} {event : Event} {world : World}

/-- Call a listener with an event that is delivered. -/
def call (number : Option Nat) (event : Event) (listener : Listener) : Effect Unit :=
  hear (deliverWithin (deepest - 1) number) number event listener

/-- Call listeners with an event, one after the other. -/
def callAll (number : Option Nat) (event : Event) (listeners : List Listener) : Effect Unit := do
  for listener in listeners do
    call number event listener

/-- Call the listeners on rolls, reading each roll when its turn comes. -/
def callRolls (number : Option Nat) (event : Event) (rolls : List Nat) : Effect Unit := do
  for roll in rolls do
    for listener in (← dispatcher number).roll roll do
      call number event listener

/-- Delivering an event comes to calling listeners, each as often as it is listed and in that
order. -/
def Calls (number : Option Nat) (world : World) (event : Event) (listeners : List Listener) :
    Prop :=
  (deliver number event).run.run world =
    (callAll number event listeners).run.run (world.announcing event)

theorem run_record (entry : Record) (world : World) :
    (record entry).run.run world =
      (.ok (), { world with records := world.records ++ [entry] }) :=
  rfl

theorem run_dispatcher (number : Option Nat) (world : World) :
    (dispatcher number).run.run world = (.ok (world.dispatcher number), world) :=
  rfl

theorem callAll_nil : callAll number event [] = pure () :=
  rfl

theorem callAll_cons (listener : Listener) (listeners : List Listener) :
    callAll number event (listener :: listeners) = (do
      call number event listener
      callAll number event listeners) := by
  unfold callAll
  rw [List.forIn_cons]
  simp only [bind_assoc, pure_bind]

theorem callAll_append (listeners others : List Listener) :
    callAll number event (listeners ++ others) = (do
      callAll number event listeners
      callAll number event others) := by
  induction listeners with
  | nil => rw [callAll_nil, pure_bind]; rfl
  | cons listener listeners ih => rw [List.cons_append, callAll_cons, callAll_cons, ih, bind_assoc]

theorem callRolls_cons (roll : Nat) (rolls : List Nat) :
    callRolls number event (roll :: rolls) = (do
      callAll number event ((← dispatcher number).roll roll)
      callRolls number event rolls) := by
  unfold callRolls callAll
  rw [List.forIn_cons]
  simp only [bind_assoc, pure_bind]

/-- Which listeners are called when rolls are read in turn. -/
def called (number : Option Nat) (event : Event) : List Nat → World → List Listener
  | [], _ => []
  | roll :: rolls, world =>
    let listeners := (world.dispatcher number).roll roll
    listeners ++ called number event rolls ((callAll number event listeners).run.run world).2

theorem run_callRolls (rolls : List Nat) (world : World) :
    (callRolls number event rolls).run.run world =
      (callAll number event (called number event rolls world)).run.run world := by
  induction rolls generalizing world with
  | nil => rfl
  | cons roll rolls ih =>
      rw [callRolls_cons, run_bind, run_dispatcher, called, callAll_append]
      dsimp only
      rw [run_bind, run_bind]
      rcases (callAll number event ((world.dispatcher number).roll roll)).run.run world with
        ⟨_ | _, between⟩
      · rfl
      · exact ih between

/-- The listeners that are called when an event is delivered. -/
theorem calls_called (number : Option Nat) (world : World) (event : Event) :
    Calls number world event (called number event
      ((world.dispatcher number).rollsFor event.eventClass) (world.announcing event)) := by
  rw [Calls, ← run_callRolls]
  rfl

end Effect

/-! ## Listeners that listen and forget -/

namespace World

/-- The listener that a name stands for. -/
def listenerNamed (world : World) (name : Option String) : Listener :=
  match world.loggers.lookup name with
  | some number => .logger number name
  | none => .named (name.getD "")

/-- What a listener with a name does when it hears an event. -/
def reaction (world : World) (name : String) : Reaction :=
  (world.reactions.lookup name).getD {}

/-- What an instruction asks a dispatcher for, if it is one to listen or to forget. -/
def request? (world : World) : Instruction → Option Dispatcher.Request
  | .listen eventClasses name => some (.listen eventClasses (world.listenerNamed name))
  | .forget eventClass name => some (.forget eventClass (name.map world.listenerNamed))
  | _ => none

/-- What a listener asks the dispatcher for when it is called. -/
def requestsOf (world : World) : Listener → List Dispatcher.Request
  | .named name => (world.reaction name).instructions.filterMap world.request?
  | _ => []

/-- Listeners do no more than listen and forget when they are called, and do not fail. -/
structure OnlyRegisters (world : World) : Prop where
  triggers : world.triggers = []
  requests : ∀ name, ∀ instruction ∈ (world.reaction name).instructions,
    (world.request? instruction).isSome
  failure : ∀ name, (world.reaction name).failure = none

/-- Between two worlds a dispatcher was asked for something, and a number of listeners was called.
The listeners react as they did. -/
structure Registers (number : Nat) (requests : List Dispatcher.Request) (calls : Nat)
    (before after : World) : Prop where
  dispatchers : after.dispatchers =
    before.dispatchers.modify number fun dispatcher => dispatcher.performed requests
  records : after.records.length = before.records.length + calls
  reactions : after.reactions = before.reactions
  triggers : after.triggers = before.triggers
  loggers : after.loggers = before.loggers

end World

namespace World.Registers

variable {number calls more : Nat} {requests others : List Dispatcher.Request}
  {before between after : World}

theorem refl (number : Nat) (world : World) : Registers number [] 0 world world where
  dispatchers := (List.modify_id number world.dispatchers).symm
  records := rfl
  reactions := rfl
  triggers := rfl
  loggers := rfl

theorem trans (h : Registers number requests calls before between)
    (hnext : Registers number others more between after) :
    Registers number (requests ++ others) (calls + more) before after where
  dispatchers := by
    rw [hnext.dispatchers, h.dispatchers, List.modify_modify_eq]
    congr 1
    funext dispatcher
    exact List.foldl_append.symm
  records := by rw [hnext.records, h.records, Nat.add_assoc]
  reactions := hnext.reactions.trans h.reactions
  triggers := hnext.triggers.trans h.triggers
  loggers := hnext.loggers.trans h.loggers

theorem request?_eq (h : Registers number requests calls before after) :
    after.request? = before.request? := by
  funext instruction
  unfold request? listenerNamed
  rw [h.loggers]

theorem reaction_eq (h : Registers number requests calls before after) :
    after.reaction = before.reaction := by
  funext name
  unfold reaction
  rw [h.reactions]

theorem requestsOf_eq (h : Registers number requests calls before after) :
    after.requestsOf = before.requestsOf := by
  funext listener
  cases listener with
  | named name => rw [requestsOf, requestsOf, h.reaction_eq, h.request?_eq]
  | _ => rfl

theorem onlyRegisters (h : Registers number requests calls before after)
    (honly : before.OnlyRegisters) : after.OnlyRegisters where
  triggers := h.triggers.trans honly.triggers
  requests := by
    rw [h.reaction_eq, h.request?_eq]
    exact honly.requests
  failure := by
    rw [h.reaction_eq]
    exact honly.failure

/-- The dispatcher was asked for it. -/
theorem getElem?_dispatchers (h : Registers number requests calls before after) :
    after.dispatchers[number]? =
      before.dispatchers[number]?.map fun dispatcher => dispatcher.performed requests := by
  rw [h.dispatchers, List.getElem?_modify]
  simp

end World.Registers

namespace Effect

variable {event : Event} {world : World} {text : String} (deliver : Event → Effect Unit)
  (number : Nat)

theorem run_listenerNamed (name : Option String) (world : World) :
    (listenerNamed name).run.run world = (.ok (world.listenerNamed name), world) := by
  unfold listenerNamed World.listenerNamed
  rw [run_bind, run_get]
  dsimp only
  cases world.loggers.lookup name <;> rfl

theorem run_mapM_listenerNamed (name : Option (Option String)) (world : World) :
    (name.mapM listenerNamed).run.run world = (.ok (name.map world.listenerNamed), world) := by
  cases name with
  | none => rfl
  | some name =>
      show (listenerNamed name >>= fun listener => pure (some listener)).run.run world = _
      rw [run_bind, run_listenerNamed]
      rfl

/-- An instruction to listen or to forget changes the dispatcher, and nothing else. -/
theorem registers_carryOut {instruction : Instruction} {request : Dispatcher.Request}
    (h : world.request? instruction = some request) :
    ∃ value after, (carryOut deliver (some number) instruction).run.run world = (.ok value, after) ∧
      world.Registers number [request] 0 after := by
  let asked (requests : List Dispatcher.Request) : World :=
    { world with dispatchers := world.dispatchers.modify number (·.performed requests) }
  cases instruction with
  | listen eventClasses name =>
      cases h
      refine ⟨.bool true, asked [.listen eventClasses (world.listenerNamed name)], ?_,
        ⟨rfl, rfl, rfl, rfl, rfl⟩⟩
      rw [carryOut, run_bind, run_listenerNamed]
      rfl
  | forget eventClass name =>
      cases h
      refine ⟨.null, asked [.forget eventClass (name.map world.listenerNamed)], ?_,
        ⟨rfl, rfl, rfl, rfl, rfl⟩⟩
      rw [carryOut, run_bind, run_mapM_listenerNamed]
      rfl
  | _ => cases h

theorem registers_instructions {instructions : List Instruction}
    (h : ∀ instruction ∈ instructions, (world.request? instruction).isSome) :
    ∃ after, (forIn instructions PUnit.unit fun instruction _ => do
        let _ ← carryOut deliver (some number) instruction
        pure (ForInStep.yield PUnit.unit) : Effect PUnit).run.run world = (.ok PUnit.unit, after) ∧
      world.Registers number (instructions.filterMap world.request?) 0 after := by
  induction instructions generalizing world with
  | nil => exact ⟨world, rfl, World.Registers.refl number world⟩
  | cons instruction instructions ih =>
      rw [List.forall_mem_cons] at h
      obtain ⟨request, hrequest⟩ := Option.isSome_iff_exists.1 h.1
      obtain ⟨value, between, hrun, hfirst⟩ :=
        registers_carryOut deliver number hrequest
      have hothers : ∀ other ∈ instructions, (between.request? other).isSome := by
        rw [hfirst.request?_eq]
        exact h.2
      obtain ⟨after, hrest, hlater⟩ := ih hothers
      refine ⟨after, ?_, ?_⟩
      · rw [List.forIn_cons, bind_assoc, run_bind, hrun]
        exact hrest
      · rw [List.filterMap_cons_some hrequest, ← hfirst.request?_eq]
        exact hfirst.trans hlater

/-- A listener that is called listens and forgets as it does, and one thing is recorded. -/
theorem registers_call (h : world.OnlyRegisters) (htext : event.text = .ok text)
    (listener : Listener) :
    ∃ after, (call (some number) event listener).run.run world = (.ok (), after) ∧
      world.Registers number (world.requestsOf listener) 1 after := by
  have hread : (liftM event.text : Effect String).run.run world = (.ok text, world) := by
    rw [htext]
    rfl
  have hrecorded (record : Record) (heard : EventClass → Nat) :
      world.Registers number [] 1 { world with records := world.records ++ [record], heard } :=
    { World.Registers.refl number world with records := List.length_append }
  cases listener with
  | monitor =>
      let time := world.heard event.eventClass + 1
      let heard other := if other = event.eventClass then time else world.heard other
      refine ⟨_, ?_, hrecorded (.event event) heard⟩
      have hnone : triggered? world.triggers event.eventClass time = none := by
        rw [h.triggers]
        rfl
      show (monitor event).run.run world = _
      rw [monitor, run_bind, hread]
      dsimp only
      rw [run_bind, run_record]
      dsimp only
      rw [run_bind, run_get]
      dsimp only
      rw [hnone]
      rfl
  | logger order log =>
      refine ⟨_, ?_, hrecorded (.logged log event.level text) world.heard⟩
      show (writeLine log event).run.run world = _
      rw [writeLine, run_bind, hread]
      rfl
  | named name =>
      have hrequests : ∀ instruction ∈ (world.reaction name).instructions,
          (({ world with records := world.records ++ [.heard name event.eventClass] } :
            World).request? instruction).isSome := h.requests name
      obtain ⟨after, hrun, hafter⟩ :=
        registers_instructions (deliverWithin (deepest - 1) (some number)) number hrequests
      refine ⟨after, ?_, (hrecorded (.heard name event.eventClass) world.heard).trans hafter⟩
      rw [call, hear, run_bind, run_record]
      dsimp only
      rw [run_bind, run_get]
      dsimp only
      rw [run_bind, ← World.reaction, hrun, h.failure name]
      rfl

theorem registers_callAll (h : world.OnlyRegisters) (htext : event.text = .ok text)
    (listeners : List Listener) :
    ∃ after, (callAll (some number) event listeners).run.run world = (.ok (), after) ∧
      world.Registers number (listeners.flatMap world.requestsOf) listeners.length after := by
  induction listeners generalizing world with
  | nil => exact ⟨world, rfl, World.Registers.refl number world⟩
  | cons listener listeners ih =>
      obtain ⟨between, hrun, hfirst⟩ := registers_call number h htext listener
      obtain ⟨after, hrest, hlater⟩ := ih (hfirst.onlyRegisters h)
      refine ⟨after, ?_, ?_⟩
      · rw [callAll_cons, run_bind, hrun]
        exact hrest
      · rw [hfirst.requestsOf_eq] at hlater
        rw [List.flatMap_cons, List.length_cons, Nat.add_comm]
        exact hfirst.trans hlater

end Effect

end Directory
