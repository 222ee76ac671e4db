import Directory.Proofs.Dispatcher.Order

/-!
# Listening during a delivery

Listeners listen and forget while an event is delivered. Which classes are gone through is settled
when the delivery begins, and whoever is forgotten is called all the same; but the listeners for a
class are read when its turn comes, and whoever was registered for it by then is called too
(`dispatch_keeps_snapshot_iff`).
-/

namespace Directory

namespace Dispatcher

/-- The turns of a delivery: the classes of an event, each with its listeners. -/
def turns (dispatcher : Dispatcher) (eventClass : EventClass) :
    List (EventClass × List Listener) :=
  (dispatcher.keys.filter eventClass.isA).map fun other => (other, dispatcher.listeners other)

theorem IsSound.turns_eq {dispatcher : Dispatcher} (h : dispatcher.IsSound)
    (eventClass : EventClass) :
    dispatcher.turns eventClass =
      (dispatcher.classes.filter fun entry => eventClass.isA entry.1).map fun entry =>
        (entry.1, dispatcher.roll entry.2) := by
  rw [turns, keys, List.filter_map, List.map_map]
  refine List.map_congr_left fun entry hentry => ?_
  rw [Function.comp_apply, h.listeners_of_mem (List.mem_filter.1 hentry).1]

theorem flatMap_turns (dispatcher : Dispatcher) (eventClass : EventClass) :
    (dispatcher.turns eventClass).flatMap Prod.snd = dispatcher.listenersFor eventClass := by
  rw [turns, List.flatMap_map, listenersFor]

/-- Who is called in turns when listeners ask for something: at each turn the listeners of the
class, and those that were added for it by the requests made so far. -/
def calledInTurns (requestsOf : Listener → List Request) :
    List (EventClass × List Listener) → List Request → List Listener
  | [], _ => []
  | (eventClass, listeners) :: turns, made =>
    let called := listeners ++ additions eventClass made
    called ++ calledInTurns requestsOf turns (made ++ called.flatMap requestsOf)

variable {requestsOf : Listener → List Request} {turns : List (EventClass × List Listener)}
  {made : List Request}

/-- The listeners there were in the beginning are called, in that order. -/
theorem sublist_calledInTurns (requestsOf : Listener → List Request)
    (turns : List (EventClass × List Listener)) (made : List Request) :
    (turns.flatMap Prod.snd).Sublist (calledInTurns requestsOf turns made) := by
  induction turns generalizing made with
  | nil => exact .slnil
  | cons turn turns ih =>
      rw [List.flatMap_cons]
      exact (List.sublist_append_left _ _).append (ih _)

/-- At no turn has anyone been added for the class, by requests that were made already or by the
listeners for the turns before. -/
def AddsNone (requestsOf : Listener → List Request) (turns : List (EventClass × List Listener))
    (made : List Request) : Prop :=
  ∀ earlier eventClass listeners later, turns = earlier ++ (eventClass, listeners) :: later →
    additions eventClass (made ++ (earlier.flatMap Prod.snd).flatMap requestsOf) = []

theorem addsNone_nil : AddsNone requestsOf [] made := by
  intro earlier eventClass listeners later heq
  cases earlier <;> cases heq

theorem addsNone_cons {eventClass : EventClass} {listeners : List Listener} :
    AddsNone requestsOf ((eventClass, listeners) :: turns) made ↔
      additions eventClass made = [] ∧
        AddsNone requestsOf turns (made ++ listeners.flatMap requestsOf) := by
  constructor
  · intro h
    refine ⟨?_, fun earlier other others later heq => ?_⟩
    · simpa using h [] eventClass listeners turns rfl
    · simpa using h ((eventClass, listeners) :: earlier) other others later (by rw [heq]; rfl)
  · rintro ⟨hfirst, hlater⟩ earlier other others later heq
    cases earlier with
    | nil =>
        cases heq
        simpa using hfirst
    | cons turn earlier =>
        cases heq
        simpa using hlater earlier other others later rfl

/-- Exactly the listeners there were in the beginning are called just if nobody is added for a class
before its turn. -/
theorem calledInTurns_eq_iff :
    calledInTurns requestsOf turns made = turns.flatMap Prod.snd ↔
      AddsNone requestsOf turns made := by
  induction turns generalizing made with
  | nil => exact iff_of_true rfl addsNone_nil
  | cons turn turns ih =>
      obtain ⟨eventClass, listeners⟩ := turn
      rw [addsNone_cons, ← ih, List.flatMap_cons, calledInTurns]
      dsimp only
      rw [List.append_assoc, List.append_cancel_left_eq]
      constructor
      · intro heq
        have hnone : additions eventClass made = [] := by
          have hlength := congrArg List.length heq
          rw [List.length_append] at hlength
          have hle := (sublist_calledInTurns requestsOf turns
            (made ++ (listeners ++ additions eventClass made).flatMap requestsOf)).length_le
          exact List.eq_nil_of_length_eq_zero (by omega)
        rw [hnone, List.append_nil, List.nil_append] at heq
        exact ⟨hnone, heq⟩
      · rintro ⟨hnone, heq⟩
        rw [hnone, List.append_nil, List.nil_append, heq]

end Dispatcher

/-! ## Deliveries to listeners that listen and forget -/

namespace Effect

variable {number : Nat} {event : Event} {world : World} {text : String}

/-- The rolls of classes that are gone through hold the listeners of each class, and those added
for it since. -/
theorem called_eq_calledInTurns {dispatcher : Dispatcher} (hsound : dispatcher.IsSound)
    (honly : world.OnlyRegisters) (htext : event.text = .ok text) {made : List Dispatcher.Request}
    (hmade : world.dispatchers[number]? = some (dispatcher.performed made))
    {entries : List (EventClass × Nat)} (hentries : entries ⊆ dispatcher.classes) :
    called (some number) event (entries.map Prod.snd) world =
      Dispatcher.calledInTurns world.requestsOf
        (entries.map fun entry => (entry.1, dispatcher.roll entry.2)) made := by
  induction entries generalizing world made with
  | nil => rfl
  | cons entry entries ih =>
      obtain ⟨eventClass, roll⟩ := entry
      rw [List.cons_subset] at hentries
      have hdispatcher : world.dispatcher (some number) = dispatcher.performed made :=
        congrArg (fun found => found.getD ({} : Dispatcher)) hmade
      obtain ⟨after, hrun, hregisters⟩ := registers_callAll number honly htext
        (dispatcher.roll roll ++ Dispatcher.additions eventClass made)
      rw [List.map_cons, List.map_cons, called, Dispatcher.calledInTurns, hdispatcher,
        hsound.roll_performed made hentries.1]
      dsimp only
      let requests :=
        (dispatcher.roll roll ++ Dispatcher.additions eventClass made).flatMap world.requestsOf
      have hafter :
          after.dispatchers[number]? = some (dispatcher.performed (made ++ requests)) := by
        rw [hregisters.getElem?_dispatchers, hmade, Option.map_some]
        exact congrArg some List.foldl_append.symm
      rw [hrun, ih (hregisters.onlyRegisters honly) hafter hentries.2, hregisters.requestsOf_eq]

/-- Two rows of listeners to whom the same delivery comes are equally long. -/
theorem Calls.length_eq {listeners others : List Listener} (honly : world.OnlyRegisters)
    (htext : event.text = .ok text) (h : Calls (some number) world event listeners)
    (hother : Calls (some number) world event others) : listeners.length = others.length := by
  have hannounced : (world.announcing event).OnlyRegisters :=
    ⟨honly.triggers, honly.requests, honly.failure⟩
  obtain ⟨after, hrun, hafter⟩ := registers_callAll number hannounced htext listeners
  obtain ⟨ended, hends, hended⟩ := registers_callAll number hannounced htext others
  have hsame : after = ended :=
    congrArg Prod.snd (hrun.symm.trans (h.symm.trans (hother.trans hends)))
  have hlength := hafter.records.symm.trans (hsame ▸ hended.records)
  omega

/-- A delivery goes through the classes there were when it began. Everyone who listened then is
called, whoever is forgotten meanwhile; and nobody else is just if no listener has anyone added for
a class whose turn is still to come. -/
theorem dispatch_keeps_snapshot_iff (requests : List Dispatcher.Request)
    (hdispatcher : world.dispatchers[number]? = some (Dispatcher.performed {} requests))
    (htext : ∃ text, event.text = .ok text) (honly : world.OnlyRegisters) :
    (∃ ended, (deliver (some number) event).run.run world = (.ok (), ended)) ∧
    Calls (some number) world event (Dispatcher.calledInTurns world.requestsOf
      ((Dispatcher.performed {} requests).turns event.eventClass) []) ∧
    ((Dispatcher.performed {} requests).listenersFor event.eventClass).Sublist
      (Dispatcher.calledInTurns world.requestsOf
        ((Dispatcher.performed {} requests).turns event.eventClass) []) ∧
    (Calls (some number) world event
        ((Dispatcher.performed {} requests).listenersFor event.eventClass) ↔
      Dispatcher.AddsNone world.requestsOf
        ((Dispatcher.performed {} requests).turns event.eventClass) []) := by
  obtain ⟨text, htext⟩ := htext
  have hsound := (Dispatcher.represents_performed requests).sound
  have hannounced : (world.announcing event).OnlyRegisters :=
    ⟨honly.triggers, honly.requests, honly.failure⟩
  have hbefore : world.dispatcher (some number) = Dispatcher.performed {} requests :=
    congrArg (fun found => found.getD ({} : Dispatcher)) hdispatcher
  have hmade : (world.announcing event).dispatchers[number]? =
      some ((Dispatcher.performed {} requests).performed []) := hdispatcher
  have hcalls := calls_called (some number) world event
  rw [hbefore, Dispatcher.rollsFor, called_eq_calledInTurns hsound hannounced htext hmade
    (List.filter_subset_self _), ← hsound.turns_eq] at hcalls
  have hsublist := Dispatcher.sublist_calledInTurns world.requestsOf
    ((Dispatcher.performed {} requests).turns event.eventClass) []
  obtain ⟨ended, hrun, -⟩ := registers_callAll number hannounced htext
    (Dispatcher.calledInTurns world.requestsOf
      ((Dispatcher.performed {} requests).turns event.eventClass) [])
  rw [← Dispatcher.calledInTurns_eq_iff]
  rw [Dispatcher.flatMap_turns] at hsublist ⊢
  refine ⟨⟨ended, hcalls.trans hrun⟩, hcalls, hsublist, fun h => ?_, fun h => h ▸ hcalls⟩
  exact (hsublist.eq_of_length (h.length_eq honly htext hcalls)).symm

/-- Listening for a class, and for one below it. -/
def nestedRequests : List Dispatcher.Request :=
  [.listen [.connectionEvent] (.named "a"), .listen [.connecting] (.named "b")]

/-- A world where the listener whose turn comes first adds one for the class whose turn comes next,
and forgets the one that is there. -/
def replacingWorld : World :=
  { dispatchers := [Dispatcher.performed {} nestedRequests]
    reactions := [("a", { instructions :=
      [.listen [.connecting] (some "c"), .forget (some .connecting) (some (some "b"))] })] }

theorem onlyRegisters_replacingWorld : replacingWorld.OnlyRegisters := by
  have hreaction (name : String) : name = "a" ∨ replacingWorld.reaction name = {} := by
    by_cases h : name = "a"
    · exact .inl h
    · exact .inr (by simp [World.reaction, replacingWorld, List.lookup_cons, beq_false_of_ne h])
  refine ⟨rfl, fun name => ?_, fun name => ?_⟩
  all_goals obtain rfl | h := hreaction name
  · decide
  · simp [h]
  · rfl
  · rw [h]

/-- The listener that was forgotten is called, and so is the one that was added. -/
theorem dispatch_calls_added :
    Calls (some 0) replacingWorld (connectingTo "foo") [.named "a", .named "b", .named "c"] :=
  (dispatch_keeps_snapshot_iff nestedRequests rfl ⟨_, rfl⟩ onlyRegisters_replacingWorld).2.1

theorem dispatch_calls_more :
    ¬ Calls (some 0) replacingWorld (connectingTo "foo")
      ((Dispatcher.performed {} nestedRequests).listenersFor .connecting) := by
  intro h
  have hheard := congrArg (fun run => run.2.records.filterMap Record.hearer?) h
  exact absurd hheard (by decide)

end Effect

end Directory
