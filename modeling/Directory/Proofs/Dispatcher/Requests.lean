import Directory.Proofs.Dispatcher.Registration

/-!
# Requests to dispatchers

What is left of the registrations after a row of requests, in the order in which they were made
(`remaining`), and the classes in the order in which they came up (`known`). A dispatcher that the
requests were made of has the listeners of the remaining registrations, class by class
(`represents_performed`), and goes on to write on a roll until someone is forgotten for its class
(`roll_performed`).
-/

namespace Directory

/-- What a dispatcher is asked for. -/
inductive Dispatcher.Request where
  | listen (eventClasses : List EventClass) (listener : Listener)
  | forget (eventClass : Option EventClass) (listener : Option Listener)

namespace Dispatcher

variable {dispatcher : Dispatcher} {eventClass : EventClass} {number : Nat}

/-! ## Requests -/

namespace Request

/-- Ask a dispatcher. -/
def apply (dispatcher : Dispatcher) : Request → Dispatcher
  | .listen eventClasses listener => dispatcher.listen eventClasses listener
  | .forget eventClass listener => dispatcher.forget eventClass listener

/-- The registrations that there are after a request. Whoever forgets without naming a class or a
listener means them all. -/
def kept (registrations : List Registration) : Request → List Registration
  | .listen eventClasses listener => registrations ++ eventClasses.map (⟨·, listener⟩)
  | .forget eventClass listener => registrations.filter fun registration =>
      !(eventClass.all (· = registration.eventClass) && listener.all (· = registration.listener))

/-- The classes that have come up after a request. A class is dropped when all are forgotten for
it, and comes up when one is. -/
def noted (known : List EventClass) : Request → List EventClass
  | .listen eventClasses _ => eventClasses.foldl note known
  | .forget (some eventClass) (some _) => note known eventClass
  | .forget none (some _) => known
  | .forget (some eventClass) none => known.filter (· ≠ eventClass)
  | .forget none none => []

/-- What a request comes down to for a dispatcher. -/
def changes (dispatcher : Dispatcher) : Request → List Change
  | .listen eventClasses listener => eventClasses.map (.listen listener)
  | .forget eventClass (some listener) =>
    (eventClass.elim dispatcher.keys ([·])).map (.forgetListener listener)
  | .forget eventClass none => (eventClass.elim dispatcher.keys ([·])).map .forgetClass

theorem apply_eq_foldl (request : Request) :
    request.apply dispatcher = (request.changes dispatcher).foldl Change.apply dispatcher := by
  match request with
  | .listen _ _ | .forget _ (some _) | .forget _ none => rw [changes, List.foldl_map]; rfl

end Request

/-- A dispatcher after a row of requests. -/
def performed (dispatcher : Dispatcher) (requests : List Request) : Dispatcher :=
  requests.foldl Request.apply dispatcher

/-- The registrations that are left after a row of requests, in the order in which they were
made. -/
def remaining (requests : List Request) : List Registration :=
  requests.foldl Request.kept []

/-- The classes after a row of requests, in the order in which they came up. -/
def known (requests : List Request) : List EventClass :=
  requests.foldl Request.noted []

/-! ## What is left -/

/-- What a change leaves of the registrations. -/
def Change.kept (registrations : List Registration) : Change → List Registration
  | .listen listener eventClass => registrations ++ [⟨eventClass, listener⟩]
  | .forgetListener listener eventClass => registrations.filter (· ≠ ⟨eventClass, listener⟩)
  | .forgetClass eventClass => registrations.filter (·.eventClass ≠ eventClass)

/-- The listeners of the registrations for a class. -/
def listenersOf (registrations : List Registration) (eventClass : EventClass) : List Listener :=
  (registrations.filter (·.eventClass = eventClass)).map Registration.listener

/-- A dispatcher has the given classes, and for each class the listeners registered for it. -/
structure Represents (dispatcher : Dispatcher) (registrations : List Registration)
    (known : List EventClass) : Prop where
  sound : dispatcher.IsSound
  keys : dispatcher.keys = known
  listeners : ∀ eventClass, dispatcher.listeners eventClass = listenersOf registrations eventClass

theorem represents_empty : Represents {} [] [] :=
  ⟨isSound_empty, rfl, fun _ => rfl⟩

theorem Change.listenersOf_kept (change : Change) (registrations : List Registration) :
    listenersOf (change.kept registrations) eventClass =
      change.heard eventClass (listenersOf registrations eventClass) := by
  cases change with
  | listen listener other =>
      simp only [kept, heard, listenersOf, List.filter_append, List.map_append]
      grind
  | forgetListener listener other =>
      simp only [kept, heard, listenersOf, List.filter_map, List.filter_filter]
      split
      next heq =>
        congr 1
        refine List.filter_congr fun registration _ => ?_
        obtain ⟨class', listener'⟩ := registration
        grind
      next hne =>
        congr 1
        refine List.filter_congr fun registration _ => ?_
        grind
  | forgetClass other =>
      simp only [kept, heard, listenersOf, List.filter_filter]
      split
      next heq => simp [heq]
      next hne =>
        congr 1
        refine List.filter_congr fun registration _ => ?_
        grind

namespace Represents

variable {registrations : List Registration} {known : List EventClass}

theorem apply (h : Represents dispatcher registrations known) (change : Change) :
    Represents (change.apply dispatcher) (change.kept registrations) (change.noted known) where
  sound := h.sound.apply change
  keys := by rw [h.sound.keys_apply, h.keys]
  listeners := fun eventClass => by
    rw [h.sound.listeners_apply, h.listeners, change.listenersOf_kept]

theorem foldl (h : Represents dispatcher registrations known) (changes : List Change) :
    Represents (changes.foldl Change.apply dispatcher) (changes.foldl Change.kept registrations)
      (changes.foldl Change.noted known) := by
  induction changes generalizing dispatcher registrations known with
  | nil => exact h
  | cons change changes ih => exact ih (h.apply change)

/-- A class for which someone is registered has come up. -/
theorem mem_known (h : Represents dispatcher registrations known) {registration : Registration}
    (hmem : registration ∈ registrations) : registration.eventClass ∈ known := by
  by_contra hnot
  have hnone := h.listeners registration.eventClass
  rw [listeners_of_not_mem (h.keys ▸ hnot)] at hnone
  have hlistener : registration.listener ∈ listenersOf registrations registration.eventClass :=
    List.mem_map_of_mem (List.mem_filter.2 ⟨hmem, by simp⟩)
  rw [← hnone] at hlistener
  cases hlistener

end Represents

/-- Filtering once for each of several items. -/
theorem foldl_filter {α β : Type} (passes : β → α → Bool) (items : List β) (values : List α) :
    items.foldl (fun values item => values.filter (passes item)) values =
      values.filter fun value => items.all (passes · value) := by
  induction items generalizing values with
  | nil => simp
  | cons item items ih =>
      rw [List.foldl_cons, ih, List.filter_filter]
      refine List.filter_congr fun value _ => ?_
      rw [List.all_cons, Bool.and_comm]

theorem foldl_note_of_subset {eventClasses known : List EventClass} (h : eventClasses ⊆ known) :
    eventClasses.foldl note known = known := by
  induction eventClasses with
  | nil => rfl
  | cons eventClass eventClasses ih =>
      rw [List.cons_subset] at h
      rw [List.foldl_cons, note, if_pos h.1, ih h.2]

namespace Represents

variable {registrations : List Registration} {known : List EventClass}

theorem foldl_kept_changes (h : Represents dispatcher registrations known) (request : Request) :
    (request.changes dispatcher).foldl Change.kept registrations = request.kept registrations := by
  have hknown (registration : Registration) (hmem : registration ∈ registrations) :
      registration.eventClass ∈ dispatcher.keys := h.keys ▸ h.mem_known hmem
  match request with
  | .listen eventClasses listener =>
      rw [Request.changes, List.foldl_map, Request.kept]
      clear hknown h
      induction eventClasses generalizing registrations with
      | nil => simp
      | cons eventClass eventClasses ih => rw [List.foldl_cons, ih, Change.kept]; simp
  | .forget eventClass (some listener) =>
      rw [Request.changes, List.foldl_map]
      refine (foldl_filter (fun other (registration : Registration) =>
        decide (registration ≠ ⟨other, listener⟩)) _ _).trans ?_
      refine List.filter_congr fun registration hmem => ?_
      have hkey := hknown registration hmem
      obtain ⟨registered, name⟩ := registration
      cases eventClass <;> grind
  | .forget eventClass none =>
      rw [Request.changes, List.foldl_map]
      refine (foldl_filter (fun other (registration : Registration) =>
        decide (registration.eventClass ≠ other)) _ _).trans ?_
      refine List.filter_congr fun registration hmem => ?_
      have hkey := hknown registration hmem
      cases eventClass <;> grind

theorem foldl_noted_changes (h : Represents dispatcher registrations known) (request : Request) :
    (request.changes dispatcher).foldl Change.noted known = request.noted known := by
  match request with
  | .listen eventClasses listener =>
      rw [Request.changes, List.foldl_map]
      rfl
  | .forget (some eventClass) (some listener) => rfl
  | .forget (some eventClass) none => rfl
  | .forget none (some listener) =>
      rw [Request.changes, List.foldl_map]
      exact foldl_note_of_subset (h.keys ▸ List.Subset.refl _)
  | .forget none none =>
      rw [Request.changes, List.foldl_map]
      refine (foldl_filter (fun other (eventClass : EventClass) =>
        decide (eventClass ≠ other)) _ _).trans ?_
      rw [Option.elim_none, h.keys, Request.noted, List.filter_eq_nil_iff]
      intro a ha
      simp [ha]

theorem request (h : Represents dispatcher registrations known) (request : Request) :
    Represents (request.apply dispatcher) (request.kept registrations) (request.noted known) := by
  rw [request.apply_eq_foldl, ← h.foldl_kept_changes, ← h.foldl_noted_changes]
  exact h.foldl _

end Represents

/-- A dispatcher that is made of requests has the listeners of the remaining registrations, class by
class. -/
theorem represents_performed (requests : List Request) :
    Represents (performed {} requests) (remaining requests) (known requests) := by
  have hgeneral (dispatcher : Dispatcher) (registrations : List Registration)
      (known : List EventClass) (h : Represents dispatcher registrations known) :
      Represents (performed dispatcher requests) (requests.foldl Request.kept registrations)
        (requests.foldl Request.noted known) := by
    induction requests generalizing dispatcher registrations known with
    | nil => exact h
    | cons request requests ih => exact ih _ _ _ (h.request request)
  exact hgeneral {} [] [] represents_empty

/-! ## Rolls that are there already -/

namespace Request

/-- Someone, or everyone, is forgotten for a class. -/
def forgets (eventClass : EventClass) : Request → Bool
  | .listen _ _ => false
  | .forget forgotten _ => forgotten.all (· = eventClass)

/-- The listeners that a request adds for a class. -/
def added (eventClass : EventClass) : Request → List Listener
  | .listen eventClasses listener => (eventClasses.filter (· = eventClass)).map fun _ => listener
  | .forget _ _ => []

theorem flatMap_added_changes (request : Request) :
    (request.changes dispatcher).flatMap (Change.added eventClass) = request.added eventClass := by
  match request with
  | .listen eventClasses listener =>
      rw [changes, added, List.flatMap_map]
      induction eventClasses with
      | nil => rfl
      | cons other eventClasses ih =>
          rw [List.flatMap_cons, ih, Change.added]
          by_cases heq : other = eventClass <;> simp [heq]
  | .forget _ (some _) | .forget _ none => simp [changes, added, Change.added]

theorem forgets_iff (request : Request) (h : eventClass ∈ dispatcher.keys) :
    request.forgets eventClass = true ↔
      ∃ change ∈ request.changes dispatcher, change.Forgets eventClass := by
  match request with
  | .listen _ _ => simp [forgets, changes, Change.Forgets]
  | .forget none (some _) | .forget none none => simpa [forgets, changes, Change.Forgets] using h
  | .forget (some _) (some _) | .forget (some _) none => simp [forgets, changes, Change.Forgets]

theorem exists_forgets_of_forgets {request : Request} (h : request.forgets eventClass = true)
    {change : Change} (hmem : change ∈ request.changes dispatcher) :
    ∃ other, change.Forgets other := by
  match request with
  | .listen _ _ => cases h
  | .forget forgotten (some listener) =>
      obtain ⟨other, -, rfl⟩ := List.mem_map.1 hmem
      exact ⟨other, rfl⟩
  | .forget forgotten none =>
      obtain ⟨other, -, rfl⟩ := List.mem_map.1 hmem
      exact ⟨other, rfl⟩

end Request

/-- The listeners that a row of requests adds for a class before anyone is forgotten for it. -/
def additions (eventClass : EventClass) : List Request → List Listener
  | [] => []
  | request :: requests =>
    if request.forgets eventClass then []
    else request.added eventClass ++ additions eventClass requests

namespace IsSound

theorem foldl (h : dispatcher.IsSound) (changes : List Change) :
    (changes.foldl Change.apply dispatcher).IsSound := by
  induction changes generalizing dispatcher with
  | nil => exact h
  | cons change changes ih => exact ih (h.apply change)

theorem mem_classes_foldl_iff (h : dispatcher.IsSound) (changes : List Change)
    (hrange : number < dispatcher.rolls.length) :
    (eventClass, number) ∈ (changes.foldl Change.apply dispatcher).classes ↔
      (eventClass, number) ∈ dispatcher.classes ∧
        ∀ change ∈ changes, ¬ change.Forgets eventClass := by
  induction changes generalizing dispatcher with
  | nil => simp
  | cons change changes ih =>
      rw [List.foldl_cons, ih (h.apply change) (Nat.lt_of_lt_of_le hrange (length_le_apply change)),
        h.mem_classes_apply_iff change hrange, List.forall_mem_cons, and_assoc]

theorem roll_foldl_of_left (h : dispatcher.IsSound) (changes : List Change)
    (hrange : number < dispatcher.rolls.length)
    (hleft : ∀ eventClass, (eventClass, number) ∉ dispatcher.classes) :
    (changes.foldl Change.apply dispatcher).roll number = dispatcher.roll number := by
  induction changes generalizing dispatcher with
  | nil => rfl
  | cons change changes ih =>
      have hstill (eventClass : EventClass) :
          (eventClass, number) ∉ (change.apply dispatcher).classes := fun hmem =>
        hleft eventClass ((h.mem_classes_apply_iff change hrange).1 hmem).1
      have hlonger := Nat.lt_of_lt_of_le hrange (length_le_apply change)
      rw [List.foldl_cons, ih (h.apply change) hlonger hstill,
        h.roll_apply_of_left change hrange hleft]

/-- The roll of a class grows by those who listen for the class, as long as no one is forgotten for
it. -/
theorem roll_foldl_of_mem (h : dispatcher.IsSound) (changes : List Change)
    (hmem : (eventClass, number) ∈ dispatcher.classes)
    (hkeep : ∀ change ∈ changes, ¬ change.Forgets eventClass) :
    (changes.foldl Change.apply dispatcher).roll number =
      dispatcher.roll number ++ changes.flatMap (Change.added eventClass) := by
  induction changes generalizing dispatcher with
  | nil => simp
  | cons change changes ih =>
      rw [List.forall_mem_cons] at hkeep
      have hstill := (h.mem_classes_apply_iff change (h.inRange _ _ hmem)).2 ⟨hmem, hkeep.1⟩
      rw [List.foldl_cons, ih (h.apply change) hstill hkeep.2, h.roll_apply_of_mem change hmem,
        List.flatMap_cons, List.append_assoc]

theorem roll_foldl_of_forgets (h : dispatcher.IsSound) (changes : List Change)
    (hrange : number < dispatcher.rolls.length)
    (hforgets : ∀ change ∈ changes, ∃ eventClass, change.Forgets eventClass) :
    (changes.foldl Change.apply dispatcher).roll number = dispatcher.roll number := by
  induction changes generalizing dispatcher with
  | nil => rfl
  | cons change changes ih =>
      rw [List.forall_mem_cons] at hforgets
      rw [List.foldl_cons, ih (h.apply change)
        (Nat.lt_of_lt_of_le hrange (length_le_apply change)) hforgets.2,
        roll_apply_of_forgets hforgets.1 hrange]

theorem request (h : dispatcher.IsSound) (request : Request) :
    (request.apply dispatcher).IsSound :=
  request.apply_eq_foldl ▸ h.foldl _

theorem length_le_request (request : Request) :
    dispatcher.rolls.length ≤ (request.apply dispatcher).rolls.length := by
  rw [request.apply_eq_foldl]
  generalize request.changes dispatcher = changes
  induction changes generalizing dispatcher with
  | nil => exact Nat.le_refl _
  | cons change changes ih => exact Nat.le_trans (length_le_apply change) ih

/-- A roll that no class has is not written on any more. -/
theorem roll_performed_of_left (h : dispatcher.IsSound) (requests : List Request)
    (hrange : number < dispatcher.rolls.length)
    (hleft : ∀ eventClass, (eventClass, number) ∉ dispatcher.classes) :
    (performed dispatcher requests).roll number = dispatcher.roll number := by
  induction requests generalizing dispatcher with
  | nil => rfl
  | cons request requests ih =>
      have hstill (eventClass : EventClass) :
          (eventClass, number) ∉ (request.apply dispatcher).classes := by
        rw [request.apply_eq_foldl, h.mem_classes_foldl_iff _ hrange]
        exact fun hmem => hleft eventClass hmem.1
      have hroll : (request.apply dispatcher).roll number = dispatcher.roll number := by
        rw [request.apply_eq_foldl, h.roll_foldl_of_left _ hrange hleft]
      exact (ih (h.request request) (Nat.lt_of_lt_of_le hrange (length_le_request request))
        hstill).trans hroll

/-- A class's roll is written on by those who listen for the class, until someone is forgotten for
it. -/
theorem roll_performed (h : dispatcher.IsSound) (requests : List Request)
    (hmem : (eventClass, number) ∈ dispatcher.classes) :
    (performed dispatcher requests).roll number =
      dispatcher.roll number ++ additions eventClass requests := by
  induction requests generalizing dispatcher with
  | nil => exact (List.append_nil _).symm
  | cons request requests ih =>
      have hrange := h.inRange _ _ hmem
      have hlonger := Nat.lt_of_lt_of_le hrange (length_le_request request)
      have hkey := mem_keys_iff.2 ⟨number, hmem⟩
      have hclasses (other : EventClass) :
          (other, number) ∈ (request.apply dispatcher).classes ↔
            (other, number) ∈ dispatcher.classes ∧
              ∀ change ∈ request.changes dispatcher, ¬ change.Forgets other := by
        rw [request.apply_eq_foldl, h.mem_classes_foldl_iff _ hrange]
      show (performed (request.apply dispatcher) requests).roll number = _
      rw [additions]
      split
      next hforgets =>
        have hleft (other : EventClass) : (other, number) ∉ (request.apply dispatcher).classes := by
          rw [hclasses]
          rintro ⟨hother, hkeep⟩
          obtain ⟨change, hchange, hforget⟩ := (request.forgets_iff hkey).1 hforgets
          exact hkeep change hchange (h.apart _ _ _ hmem hother ▸ hforget)
        rw [(h.request request).roll_performed_of_left requests hlonger hleft,
          request.apply_eq_foldl, h.roll_foldl_of_forgets _ hrange
            fun change hchange => Request.exists_forgets_of_forgets hforgets hchange,
          List.append_nil]
      next hkeep =>
        have hnone : ∀ change ∈ request.changes dispatcher, ¬ change.Forgets eventClass := by
          simpa [request.forgets_iff hkey] using hkeep
        rw [ih (h.request request) ((hclasses eventClass).2 ⟨hmem, hnone⟩),
          request.apply_eq_foldl, h.roll_foldl_of_mem _ hmem hnone, request.flatMap_added_changes,
          List.append_assoc]

end IsSound

end Dispatcher

end Directory
