import Directory.Proofs.Dispatcher.Order
import Mathlib.Algebra.BigOperators.Group.List.Basic
import Mathlib.Data.List.Nodup

/-!
# Listeners that are left alone

While events are delivered, and between deliveries, others listen and forget one by one, and loggers
are made and installed. A listener that none of them names is listed as often as it was, and every
delivery calls it as often as it was listed when the delivery began (`count_calledFor`), whatever
those who are called before it do.
-/

namespace Directory

/-! ## Requests that name someone else -/

namespace Dispatcher

variable {dispatcher : Dispatcher} {listener : Listener}

/-- A listener is listed as often as it was, for every class and on every roll that was there. -/
structure KeepsCount (listener : Listener) (before after : Dispatcher) : Prop where
  length_le : before.rolls.length ≤ after.rolls.length
  roll : ∀ number < before.rolls.length,
    (after.roll number).count listener = (before.roll number).count listener
  listeners : ∀ eventClass,
    (after.listeners eventClass).count listener = (before.listeners eventClass).count listener

namespace KeepsCount

theorem refl (listener : Listener) (dispatcher : Dispatcher) :
    KeepsCount listener dispatcher dispatcher :=
  ⟨Nat.le_refl _, fun _ _ => rfl, fun _ => rfl⟩

theorem trans {before between after : Dispatcher} (h : KeepsCount listener before between)
    (hnext : KeepsCount listener between after) : KeepsCount listener before after where
  length_le := Nat.le_trans h.length_le hnext.length_le
  roll := fun number hrange =>
    (hnext.roll number (Nat.lt_of_lt_of_le hrange h.length_le)).trans (h.roll number hrange)
  listeners := fun eventClass => (hnext.listeners eventClass).trans (h.listeners eventClass)

end KeepsCount

namespace Change

/-- The change names another listener. -/
def NamesOther (listener : Listener) : Change → Prop
  | .listen other _ | .forgetListener other _ => other ≠ listener
  | .forgetClass _ => False

theorem NamesOther.count_added {change : Change} (h : change.NamesOther listener)
    (eventClass : EventClass) : (change.added eventClass).count listener = 0 := by
  cases change with
  | listen other _ =>
      rw [added]
      split
      · exact List.count_eq_zero.2 fun hmem => h (List.mem_singleton.1 hmem).symm
      · rfl
  | _ => rfl

theorem NamesOther.count_heard {change : Change} (h : change.NamesOther listener)
    (eventClass : EventClass) (listeners : List Listener) :
    (change.heard eventClass listeners).count listener = listeners.count listener := by
  cases change with
  | listen other _ =>
      rw [heard]
      split
      · rw [List.count_append, List.count_eq_zero.2 fun hmem => h (List.mem_singleton.1 hmem).symm]
        rfl
      · rfl
  | forgetListener other _ =>
      rw [heard]
      split
      · exact List.count_filter (by simpa using Ne.symm h)
      · rfl
  | forgetClass _ => exact h.elim

end Change

/-- The request names another listener, and not everyone. -/
def Request.NamesOther (listener : Listener) : Request → Prop
  | .listen _ other | .forget _ (some other) => other ≠ listener
  | .forget _ none => False

theorem Request.NamesOther.changes {request : Request} (h : request.NamesOther listener)
    (dispatcher : Dispatcher) :
    ∀ change ∈ request.changes dispatcher, change.NamesOther listener := by
  intro change hchange
  match request with
  | .listen _ other | .forget _ (some other) =>
      obtain ⟨_, -, rfl⟩ := List.mem_map.1 hchange
      exact h
  | .forget _ none => exact h.elim

namespace IsSound

theorem keepsCount_apply (h : dispatcher.IsSound) {change : Change}
    (hother : change.NamesOther listener) : KeepsCount listener dispatcher (change.apply dispatcher)
    where
  length_le := length_le_apply change
  roll := fun number hrange => by
    by_cases hmem : ∃ eventClass, (eventClass, number) ∈ dispatcher.classes
    · obtain ⟨eventClass, hmem⟩ := hmem
      rw [h.roll_apply_of_mem change hmem, List.count_append, hother.count_added, Nat.add_zero]
    · rw [h.roll_apply_of_left change hrange fun other hlisted => hmem ⟨other, hlisted⟩]
  listeners := fun eventClass => by rw [h.listeners_apply, hother.count_heard]

/-- Whoever asks for something in the name of another listener leaves this one where it is. -/
theorem keepsCount_request (h : dispatcher.IsSound) {request : Request}
    (hother : request.NamesOther listener) :
    KeepsCount listener dispatcher (request.apply dispatcher) := by
  have hchanges := hother.changes dispatcher
  rw [request.apply_eq_foldl]
  generalize request.changes dispatcher = changes at hchanges
  induction changes generalizing dispatcher with
  | nil => exact KeepsCount.refl listener dispatcher
  | cons change changes ih =>
      rw [List.forall_mem_cons] at hchanges
      exact (h.keepsCount_apply hchanges.1).trans (ih (h.apply change) hchanges.2)

/-- Whoever asks to listen is listed once more, and nobody else is. -/
theorem count_listen (h : dispatcher.IsSound) (other : Listener)
    (listened eventClass : EventClass) :
    (((Request.listen [listened] other).apply dispatcher).listeners eventClass).count listener =
      (dispatcher.listeners eventClass).count listener +
        if listened = eventClass ∧ other = listener then 1 else 0 := by
  show (((Change.listen other listened).apply dispatcher).listeners eventClass).count listener = _
  rw [h.listeners_apply, Change.heard]
  by_cases hclass : listened = eventClass
  · simp [hclass, List.count_singleton]
  · simp [hclass]

/-- Whoever is forgotten is not listed any more, and everyone else is as before. -/
theorem count_forget (h : dispatcher.IsSound) (other : Listener)
    (forgotten eventClass : EventClass) :
    (((Request.forget (some forgotten) (some other)).apply dispatcher).listeners eventClass).count
        listener =
      if forgotten = eventClass ∧ other = listener then 0
      else (dispatcher.listeners eventClass).count listener := by
  show (((Change.forgetListener other forgotten).apply dispatcher).listeners eventClass).count
    listener = _
  rw [h.listeners_apply, Change.heard]
  by_cases hclass : forgotten = eventClass
  · by_cases hother : other = listener
    · simp [hclass, hother, List.count_eq_zero]
    · simp [hclass, hother, List.count_filter, Ne.symm hother]
  · simp [hclass]

/-- A listener that is listed for all events only is called as often as it is listed there. -/
theorem count_listenersFor (h : dispatcher.IsSound) (eventClass : EventClass)
    (hother : ∀ other, other ≠ .event → (dispatcher.listeners other).count listener = 0) :
    (dispatcher.listenersFor eventClass).count listener =
      (dispatcher.listeners .event).count listener := by
  have hnodup : (dispatcher.keys.filter eventClass.isA).Nodup := h.nodup.filter _
  have hisA : eventClass.isA .event = true := by cases eventClass <;> rfl
  rw [listenersFor, List.count_flatMap, List.sum_map_eq_nsmul_single .event
    (List.count listener ∘ dispatcher.listeners) fun other hne _ => hother other hne]
  by_cases hmem : .event ∈ dispatcher.keys
  · rw [List.count_eq_one_of_mem hnodup (List.mem_filter.2 ⟨hmem, hisA⟩), one_nsmul]
    rfl
  · rw [Function.comp_apply, listeners_of_not_mem hmem, List.count_nil, nsmul_zero]

end IsSound

end Dispatcher

/-! ## Worlds that others act on -/

namespace World

variable {number : Nat} {kept : List Listener} {start world before between after : World}
  {name : Option String}

/-- What settles who listens. -/
def listening (world : World) :
    List Dispatcher × List (String × Reaction) × List (Option String × Nat) :=
  (world.dispatchers, world.reactions, world.loggers)

/-- The world after a dispatcher was asked for something. -/
def asked (world : World) (number : Nat) (request : Dispatcher.Request) : World :=
  { world with dispatchers := world.dispatchers.modify number (·.performed [request]) }

/-- The world after a logger was made. -/
def withLogger (world : World) (log : Option String) : World :=
  { world with loggers := (log, world.loggers.length) :: world.loggers }

theorem registers_asked (world : World) (number : Nat) (request : Dispatcher.Request) :
    world.Registers number [request] 0 (world.asked number request) :=
  ⟨rfl, rfl, rfl, rfl, rfl⟩

@[simp] theorem listenerNamed_withLogger (world : World) (log : Option String) :
    (world.withLogger log).listenerNamed log = .logger world.loggers.length log := by
  simp [withLogger, listenerNamed]

theorem listenerNamed_withLogger_of_ne {log : Option String} (h : name ≠ log) :
    (world.withLogger log).listenerNamed name = world.listenerNamed name := by
  simp [withLogger, listenerNamed, List.lookup_cons, beq_false_of_ne h]

/-- An instruction leaves listeners alone: it names none of them, and does not mean everyone. -/
def LeavesAlone (world : World) (kept : List Listener) : Instruction → Prop
  | .listen _ name | .forget _ (some name) | .uninstall name => world.listenerNamed name ∉ kept
  | .forget _ none => False
  | _ => True

/-- Whatever the listeners with names do when they hear an event leaves listeners alone. -/
def ReactionsLeaveAlone (world : World) (kept : List Listener) : Prop :=
  ∀ name, ∀ instruction ∈ (world.reaction name).instructions, world.LeavesAlone kept instruction

/-- The listener is one of those given, or a logger that was not made so far. -/
def Reserves (world : World) (kept : List Listener) (listener : Listener) : Prop :=
  listener ∈ kept ∨ ∃ order log, listener = .logger order log ∧ world.loggers.length ≤ order

/-- There is a dispatcher of the number, and the loggers that were made are numbered in order, among
them those that are given. -/
structure IsOrdered (number : Nat) (kept : List Listener) (world : World) : Prop where
  present : number < world.dispatchers.length
  sound : (world.dispatcher (some number)).IsSound
  numbered : ∀ entry ∈ world.loggers, entry.2 < world.loggers.length
  made : ∀ order log, .logger order log ∈ kept → order < world.loggers.length

/-- What others did between two worlds left listeners alone: each of them, and each logger that is
still to be made, is listed as often as it was, and no name has come to stand for it. -/
structure Undisturbed (number : Nat) (kept : List Listener) (before after : World) : Prop where
  ordered : after.IsOrdered number kept
  length_le : before.loggers.length ≤ after.loggers.length
  reactions : after.reactions = before.reactions
  names : ∀ name, after.listenerNamed name ∈ kept → before.listenerNamed name ∈ kept
  counts : ∀ listener, after.Reserves kept listener →
    (before.dispatcher (some number)).KeepsCount listener (after.dispatcher (some number))

/-- Fewer loggers are still to be made as more of them are. -/
theorem Reserves.of_length_le {listener : Listener} (h : after.Reserves kept listener)
    (hle : before.loggers.length ≤ after.loggers.length) : before.Reserves kept listener :=
  h.imp_right fun ⟨order, log, heq, hunmade⟩ => ⟨order, log, heq, Nat.le_trans hle hunmade⟩

namespace IsOrdered

theorem of_listening (h : world.IsOrdered number kept) (hsame : after.listening = world.listening) :
    after.IsOrdered number kept := by
  obtain ⟨hdispatchers, -, hloggers⟩ := by simpa only [listening, Prod.mk.injEq] using hsame
  have hdispatcher : after.dispatcher (some number) = world.dispatcher (some number) := by
    rw [dispatcher, dispatcher, hdispatchers]
  exact ⟨hdispatchers ▸ h.present, hdispatcher ▸ h.sound, hloggers ▸ h.numbered,
    hloggers ▸ h.made⟩

/-- The dispatcher was asked for something. -/
theorem dispatcher_of_registers {request : Dispatcher.Request} {calls : Nat}
    (h : world.IsOrdered number kept) (hregisters : world.Registers number [request] calls after) :
    after.dispatcher (some number) = request.apply (world.dispatcher (some number)) := by
  simp [dispatcher, hregisters.dispatchers, List.getElem?_modify,
    List.getElem?_eq_getElem h.present, Dispatcher.performed]

theorem of_registers {request : Dispatcher.Request} {calls : Nat} (h : world.IsOrdered number kept)
    (hregisters : world.Registers number [request] calls after) : after.IsOrdered number kept := by
  have hloggers := hregisters.loggers
  refine ⟨?_, ?_, hloggers ▸ h.numbered, hloggers ▸ h.made⟩
  · rw [hregisters.dispatchers, List.length_modify]
    exact h.present
  · rw [h.dispatcher_of_registers hregisters, request.apply_eq_foldl]
    exact h.sound.foldl _

/-- A name that does not stand for one of the listeners stands for none that is reserved. -/
theorem not_reserves_listenerNamed (h : world.IsOrdered number kept)
    (hname : world.listenerNamed name ∉ kept) :
    ¬ world.Reserves kept (world.listenerNamed name) := by
  rintro (hkept | ⟨order, log, heq, hunmade⟩)
  · exact hname hkept
  · unfold listenerNamed at heq
    split at heq
    next found hlookup =>
      cases heq
      obtain ⟨earlier, later, hloggers, -⟩ := List.lookup_eq_some_iff.1 hlookup
      have hmade := h.numbered (name, order) (hloggers ▸ List.mem_append_cons_self)
      exact Nat.not_lt.2 hunmade hmade
    next => cases heq

end IsOrdered

namespace Undisturbed

theorem refl (h : world.IsOrdered number kept) : Undisturbed number kept world world :=
  ⟨h, Nat.le_refl _, rfl, fun _ hname => hname, fun _ _ => .refl _ _⟩

theorem trans (h : Undisturbed number kept before between)
    (hnext : Undisturbed number kept between after) : Undisturbed number kept before after where
  ordered := hnext.ordered
  length_le := Nat.le_trans h.length_le hnext.length_le
  reactions := hnext.reactions.trans h.reactions
  names := fun name hname => h.names name (hnext.names name hname)
  counts := fun listener hreserved =>
    (h.counts listener (hreserved.of_length_le hnext.length_le)).trans
      (hnext.counts listener hreserved)

theorem of_listening (h : world.IsOrdered number kept)
    (hsame : after.listening = world.listening) : Undisturbed number kept world after := by
  have hordered := h.of_listening hsame
  obtain ⟨hdispatchers, hreactions, hloggers⟩ := by
    simpa only [listening, Prod.mk.injEq] using hsame
  refine ⟨hordered, hloggers ▸ Nat.le_refl _, hreactions, fun name hname => ?_, fun _ _ => ?_⟩
  · rwa [listenerNamed, hloggers] at hname
  · rw [dispatcher, dispatcher, hdispatchers]
    exact .refl _ _

/-- Someone asked for something in the name of a listener that is not reserved. -/
theorem of_registers {request : Dispatcher.Request} {calls : Nat} (h : world.IsOrdered number kept)
    (hregisters : world.Registers number [request] calls after)
    (hother : ∀ listener, world.Reserves kept listener → request.NamesOther listener) :
    Undisturbed number kept world after := by
  have hloggers := hregisters.loggers
  refine ⟨h.of_registers hregisters, hloggers ▸ Nat.le_refl _, hregisters.reactions,
    fun name hname => ?_, fun listener hreserved => ?_⟩
  · rwa [listenerNamed, hloggers] at hname
  · rw [h.dispatcher_of_registers hregisters]
    exact h.sound.keepsCount_request (hother listener
      (hreserved.of_length_le (hloggers ▸ Nat.le_refl _)))

/-- A logger is made, which is none of the listeners. -/
theorem withLogger (h : world.IsOrdered number kept) (log : Option String) :
    Undisturbed number kept world (world.withLogger log) where
  ordered := by
    refine ⟨h.present, h.sound, List.forall_mem_cons.2 ⟨Nat.lt_succ_self _, ?_⟩, ?_⟩
    · exact fun entry hentry => Nat.lt_succ_of_lt (h.numbered entry hentry)
    · exact fun order other hkept => Nat.lt_succ_of_lt (h.made order other hkept)
  length_le := Nat.le_succ _
  reactions := rfl
  names := fun name hname => by
    by_cases heq : name = log
    · subst heq
      rw [listenerNamed_withLogger] at hname
      exact absurd (h.made _ _ hname) (Nat.lt_irrefl _)
    · rwa [listenerNamed_withLogger_of_ne heq] at hname
  counts := fun _ _ => .refl _ _

/-- What left the listeners alone in the beginning does so still. -/
theorem leavesAlone (h : Undisturbed number kept start world) {instruction : Instruction}
    (hleaves : start.LeavesAlone kept instruction) : world.LeavesAlone kept instruction := by
  match instruction with
  | .listen _ name | .forget _ (some name) | .uninstall name =>
      exact fun hname => hleaves (h.names name hname)
  | .forget _ none => exact hleaves.elim
  | .hasListeners _ | .dispatch _ | .describe _ | .install _ => trivial

end Undisturbed

end World

/-! ## Deliveries that leave listeners alone -/

namespace Effect

variable {α β υ : Type} {inv : World → Prop}

/-- A property of the world that holds before an effect holds after it. -/
def Upholds (inv : World → Prop) (effect : Effect α) : Prop :=
  ∀ world, inv world → inv (effect.run.run world).2

namespace Upholds

theorem pure (a : α) : Upholds inv (Pure.pure a : Effect α) :=
  fun _ h => h

theorem throw (failure : Failure) : Upholds inv (MonadExcept.throw failure : Effect α) :=
  fun _ h => h

theorem bind {effect : Effect α} {next : α → Effect β} (heffect : Upholds inv effect)
    (hnext : ∀ a, Upholds inv (next a)) : Upholds inv (effect >>= next) := by
  intro world hworld
  have hbetween := heffect world hworld
  rw [run_bind]
  generalize effect.run.run world = ended at hbetween ⊢
  obtain ⟨_ | a, between⟩ := ended
  · exact hbetween
  · exact hnext a between hbetween

/-- What is done after the world was read starts in the world that was read. -/
theorem get_bind {next : World → Effect α} (h : ∀ world, inv world → Upholds inv (next world)) :
    Upholds inv (MonadState.get >>= next) :=
  fun world hworld => h world hworld world hworld

/-- A loop upholds what its body upholds for each of the items. -/
theorem forIn {γ : Type} {items : List γ} {start : β} {body : γ → β → Effect (ForInStep β)}
    (h : ∀ item ∈ items, ∀ state, Upholds inv (body item state)) :
    Upholds inv (forIn items start body) := by
  induction items generalizing start with
  | nil => exact pure start
  | cons item items ih =>
      rw [List.forall_mem_cons] at h
      rw [List.forIn_cons]
      refine bind (h.1 start) fun step => ?_
      cases step with
      | done state => exact pure state
      | yield state => exact ih h.2

end Upholds

section Undisturbed

variable {number : Nat} {kept : List Listener} {start world : World} {event : Event}
  {deliver : Event → Effect Unit}

/-- What leaves alone who listens and how disturbs nobody. -/
theorem upholds_of_keeps {effect : Effect α} (h : Keeps World.listening effect) :
    Upholds (World.Undisturbed number kept start) effect :=
  fun world hworld => hworld.trans (.of_listening hworld.ordered (h world))

theorem keeps_listening_monitor (event : Event) : Keeps World.listening (monitor event) := by
  refine Keeps.bind (Keeps.lift _) fun _ => Keeps.bind (Keeps.modify fun _ => rfl) fun _ => ?_
  refine Keeps.set_bind (fun _ => rfl) fun world => ?_
  split
  · exact Keeps.throw _
  · exact Keeps.pure ()

/-- Whoever asks for something in the name of none of the listeners disturbs none of them. -/
theorem undisturbed_asked (hworld : World.Undisturbed number kept start world)
    {instruction : Instruction} {request : Dispatcher.Request} {name : Option String}
    (hrequest : world.request? instruction = some request)
    (hname : world.listenerNamed name ∉ kept)
    (hother : ∀ listener, world.listenerNamed name ≠ listener → request.NamesOther listener) :
    World.Undisturbed number kept start
      ((carryOut deliver (some number) instruction).run.run world).2 := by
  obtain ⟨value, after, hrun, hregisters⟩ := registers_carryOut deliver number hrequest
  have hreserved := hworld.ordered.not_reserves_listenerNamed hname
  rw [hrun]
  exact hworld.trans (.of_registers hworld.ordered hregisters fun listener hlistener =>
    hother listener fun heq => hreserved (heq ▸ hlistener))

/-- To uninstall a logger is to forget it for all events. -/
theorem run_uninstall_snd (deliver : Event → Effect Unit) (number : Option Nat)
    (log : Option String) (world : World) :
    ((carryOut deliver number (.uninstall log)).run.run world).2 =
      ((carryOut deliver number (.forget (some .event) (some log))).run.run world).2 := by
  unfold carryOut
  dsimp only
  rw [run_bind, run_bind, run_listenerNamed, run_mapM_listenerNamed]
  cases number <;> rfl

/-- An instruction that leaves the listeners alone disturbs none of them. -/
theorem upholds_carryOut {instruction : Instruction}
    (hdeliver : ∀ event, instruction = .dispatch event →
      Upholds (World.Undisturbed number kept start) (deliver event))
    (hleaves : start.LeavesAlone kept instruction) :
    Upholds (World.Undisturbed number kept start) (carryOut deliver (some number) instruction) := by
  match instruction with
  | .listen _ name | .forget _ (some name) =>
      exact fun world hworld =>
        undisturbed_asked hworld rfl (hworld.leavesAlone hleaves) fun _ hne => hne
  | .forget _ none => exact hleaves.elim
  | .hasListeners _ =>
      exact upholds_of_keeps (Keeps.bind (keeps_dispatcher _ _) fun _ => Keeps.pure _)
  | .dispatch event => exact Upholds.bind (hdeliver event rfl) fun _ => Upholds.pure _
  | .describe _ => exact upholds_of_keeps (Keeps.bind (Keeps.lift _) fun _ => Keeps.pure _)
  | .install log =>
      intro world hworld
      -- to install a logger is to make it, and to listen in its name then
      have hmade : World.Undisturbed number kept start (world.withLogger log) :=
        hworld.trans (.withLogger hworld.ordered log)
      have hname : (world.withLogger log).listenerNamed log ∉ kept := by
        rw [World.listenerNamed_withLogger]
        exact fun hkept => Nat.lt_irrefl _ (hworld.ordered.made _ _ hkept)
      have hasked : World.Undisturbed number kept start ((carryOut deliver (some number)
          (.listen [.event] log)).run.run (world.withLogger log)).2 :=
        undisturbed_asked hmade rfl hname fun _ hne => hne
      rw [carryOut, run_bind, run_listenerNamed, World.listenerNamed_withLogger] at hasked
      exact hasked
  | .uninstall log =>
      intro world hworld
      rw [run_uninstall_snd]
      exact undisturbed_asked hworld rfl (hworld.leavesAlone hleaves) fun _ hne => hne

/-- A listener that is called disturbs none of those that reactions leave alone. -/
theorem upholds_hear (hleave : start.ReactionsLeaveAlone kept)
    (hdeliver : ∀ event, Upholds (World.Undisturbed number kept start) (deliver event))
    (event : Event) (listener : Listener) :
    Upholds (World.Undisturbed number kept start) (hear deliver (some number) event listener) := by
  have hrecord (record : Record) :
      Upholds (World.Undisturbed number kept start) (Effect.record record) :=
    upholds_of_keeps (Keeps.modify fun _ => rfl)
  cases listener with
  | monitor => exact upholds_of_keeps (keeps_listening_monitor event)
  | logger order log =>
      exact Upholds.bind (upholds_of_keeps (Keeps.lift _)) fun _ => hrecord _
  | named name =>
      refine Upholds.bind (hrecord _) fun _ => Upholds.get_bind fun world hworld => ?_
      refine Upholds.bind (Upholds.forIn fun instruction hmem _ => ?_) fun _ => ?_
      · -- what the listener does was settled in the beginning, since reactions do not change
        have hinstruction : instruction ∈ (start.reaction name).instructions := by
          rwa [World.reaction, ← hworld.reactions]
        exact Upholds.bind (upholds_carryOut (fun event _ => hdeliver event)
          (hleave name instruction hinstruction)) fun _ => Upholds.pure _
      · split
        · exact Upholds.throw _
        · exact Upholds.pure ()

/-- A delivery disturbs none of those that reactions leave alone, however deep it goes. -/
theorem upholds_deliverWithin (hleave : start.ReactionsLeaveAlone kept) (depth : Nat)
    (event : Event) :
    Upholds (World.Undisturbed number kept start) (deliverWithin depth (some number) event) := by
  have hread : Upholds (World.Undisturbed number kept start) (dispatcher (some number)) :=
    upholds_of_keeps (keeps_dispatcher _ _)
  induction depth generalizing event with
  | zero => exact Upholds.throw _
  | succ depth ih =>
      refine Upholds.bind hread fun dispatcher =>
        Upholds.bind (Upholds.forIn fun roll _ _ => ?_) fun _ => Upholds.pure _
      refine Upholds.bind hread fun dispatcher =>
        Upholds.bind (Upholds.forIn fun listener _ _ => ?_) fun _ => Upholds.pure _
      exact Upholds.bind (upholds_hear hleave ih event listener) fun _ => Upholds.pure _

theorem upholds_deliver (hleave : start.ReactionsLeaveAlone kept) (event : Event) :
    Upholds (World.Undisturbed number kept start) (Effect.deliver (some number) event) :=
  Upholds.bind (upholds_of_keeps (Keeps.modify fun _ => rfl)) fun _ =>
    upholds_deliverWithin hleave deepest event

/-- What listeners do matters only where the instruction is to deliver an event. -/
theorem upholds_instruct {instruction : Instruction}
    (hleave : ∀ event, instruction = .dispatch event → start.ReactionsLeaveAlone kept)
    (hleaves : start.LeavesAlone kept instruction) :
    Upholds (World.Undisturbed number kept start) (instruct (some number) instruction) :=
  upholds_carryOut (fun event heq => upholds_deliver (hleave event heq) event) hleaves

theorem upholds_callAll (hleave : start.ReactionsLeaveAlone kept) (event : Event)
    (listeners : List Listener) :
    Upholds (World.Undisturbed number kept start) (callAll (some number) event listeners) :=
  Upholds.bind (Upholds.forIn fun listener _ _ => Upholds.bind (upholds_hear hleave
    (upholds_deliverWithin hleave _) event listener) fun _ => Upholds.pure _) fun _ =>
    Upholds.pure _

/-- A listener is called as often as it stood on the rolls in the beginning. -/
theorem count_called (hleave : start.ReactionsLeaveAlone kept) {listener : Listener}
    (hmem : listener ∈ kept) {rolls : List Nat}
    (hrange : ∀ roll ∈ rolls, roll < (start.dispatcher (some number)).rolls.length)
    (hworld : World.Undisturbed number kept start world) :
    (called (some number) event rolls world).count listener =
      (rolls.flatMap (start.dispatcher (some number)).roll).count listener := by
  induction rolls generalizing world with
  | nil => rfl
  | cons roll rolls ih =>
      rw [List.forall_mem_cons] at hrange
      have hroll := (hworld.counts listener (.inl hmem)).roll roll hrange.1
      have hnext := upholds_callAll hleave event ((world.dispatcher (some number)).roll roll)
        world hworld
      rw [called, List.flatMap_cons, List.count_append, List.count_append, hroll,
        ih hrange.2 hnext]

/-- The listeners that are called when an event is delivered. -/
def calledFor (number : Option Nat) (event : Event) (world : World) : List Listener :=
  called number event ((world.dispatcher number).rollsFor event.eventClass)
    (world.announcing event)

/-- A listener that is listed for all events only is called as often as it is listed there, if
whatever is done in the delivery leaves it alone. -/
theorem count_calledFor (hordered : world.IsOrdered number kept)
    (hleave : world.ReactionsLeaveAlone kept) {listener : Listener} (hmem : listener ∈ kept)
    (hother : ∀ eventClass, eventClass ≠ .event →
      ((world.dispatcher (some number)).listeners eventClass).count listener = 0) :
    (calledFor (some number) event world).count listener =
      ((world.dispatcher (some number)).listeners .event).count listener := by
  have hannounced : World.Undisturbed number kept world (world.announcing event) :=
    .of_listening hordered rfl
  have hrange (roll : Nat)
      (hroll : roll ∈ (world.dispatcher (some number)).rollsFor event.eventClass) :
      roll < (world.dispatcher (some number)).rolls.length := by
    obtain ⟨entry, hentry, rfl⟩ := List.mem_map.1 hroll
    exact hordered.sound.inRange entry.1 entry.2 (List.mem_filter.1 hentry).1
  rw [calledFor, count_called hleave hmem hrange hannounced, hordered.sound.flatMap_rollsFor,
    hordered.sound.count_listenersFor event.eventClass hother]

/-- A logger that is called writes the line for the event, and does nothing else. -/
theorem run_call_logger {text : String} (htext : event.text = .ok text) (number : Option Nat)
    (order : Nat) (log : Option String) (world : World) :
    (call number event (.logger order log)).run.run world =
      (.ok (), { world with records := world.records ++ [.logged log event.level text] }) := by
  show (writeLine log event).run.run world = _
  rw [writeLine, run_bind, htext]
  rfl

end Undisturbed

end Effect

end Directory
