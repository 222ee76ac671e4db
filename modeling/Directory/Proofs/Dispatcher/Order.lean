import Directory.Proofs.Dispatcher.Calls

/-!
# The order of calls

An event is delivered class by class, in the order in which the classes came up, and within a class
in the order of the registrations. So every remaining registration for the event is served once
(`dispatch_in_order_iff`), but a registration for a class that came up earlier is served before
those made for other classes in the meantime.
-/

namespace Directory

/-! ## Grouping by keys -/

section Grouping

variable {α β : Type} [DecidableEq β] {key : α → β} {keys : List β} {items : List α}

/-- Items grouped by their keys, in the order of the keys. -/
def grouped (key : α → β) (keys : List β) (items : List α) : List α :=
  keys.flatMap fun k => items.filter (key · = k)

theorem mem_grouped {item : α} :
    item ∈ grouped key keys items ↔ item ∈ items ∧ key item ∈ keys := by
  simp only [grouped, List.mem_flatMap, List.mem_filter, decide_eq_true_eq]
  constructor
  · rintro ⟨_, hmem, hitem, rfl⟩
    exact ⟨hitem, hmem⟩
  · rintro ⟨hitem, hmem⟩
    exact ⟨key item, hmem, hitem, rfl⟩

/-- The first group is followed by the groups of the other items. -/
theorem grouped_cons {k : β} (h : k ∉ keys) :
    grouped key (k :: keys) items =
      items.filter (key · = k) ++ grouped key keys (items.filter (key · ≠ k)) := by
  unfold grouped
  rw [List.flatMap_cons]
  congr 1
  refine List.flatMap_congr fun other hother => ?_
  rw [List.filter_filter]
  refine List.filter_congr fun item _ => ?_
  grind

theorem forall_key_mem_filter {k : β} (h : ∀ item ∈ items, key item ∈ k :: keys) :
    ∀ item ∈ items.filter (key · ≠ k), key item ∈ keys := by
  intro item hitem
  grind

/-- Grouping loses no item and serves none twice. -/
theorem grouped_perm (hnodup : keys.Nodup) (h : ∀ item ∈ items, key item ∈ keys) :
    (grouped key keys items).Perm items := by
  induction keys generalizing items with
  | nil =>
      rw [List.eq_nil_iff_forall_not_mem.2 fun item hitem => nomatch h item hitem]
      exact .refl []
  | cons k keys ih =>
      rw [List.nodup_cons] at hnodup
      rw [grouped_cons hnodup.1]
      refine ((ih hnodup.2 (forall_key_mem_filter h)).append_left _).trans ?_
      simpa using List.filter_append_perm (key · = k) items

/-- What is sorted by a condition is what meets it followed by what does not. -/
theorem filter_append_filter_of_pairwise {p : α → Bool}
    (h : items.Pairwise fun item later => p later = true → p item = true) :
    items.filter p ++ items.filter (!p ·) = items := by
  induction items with
  | nil => rfl
  | cons item items ih =>
      rw [List.pairwise_cons] at h
      cases hitem : p item with
      | true => simp [hitem, ih h.2]
      | false =>
          have hnone : items.filter p = [] := List.filter_eq_nil_iff.2 fun later hlater hp =>
            Bool.false_ne_true (hitem.symm.trans (h.1 later hlater hp))
          have hih := ih h.2
          rw [hnone, List.nil_append] at hih
          simp [hitem, hnone, hih]

/-- Grouping leaves items in their order just if the first group stands before the other items, and
grouping leaves those in their order. -/
theorem grouped_cons_eq_iff {k : β} (h : k ∉ keys) :
    grouped key (k :: keys) items = items ↔
      items.filter (key · = k) ++ items.filter (key · ≠ k) = items ∧
        grouped key keys (items.filter (key · ≠ k)) = items.filter (key · ≠ k) := by
  rw [grouped_cons h]
  constructor
  · intro heq
    have hothers : grouped key keys (items.filter (key · ≠ k)) = items.filter (key · ≠ k) := by
      have hnone : (items.filter (key · = k)).filter (key · ≠ k) = [] := by simp
      have hall : (grouped key keys (items.filter (key · ≠ k))).filter (key · ≠ k) =
          grouped key keys (items.filter (key · ≠ k)) :=
        List.filter_eq_self.2 fun item hitem => (List.mem_filter.1 (mem_grouped.1 hitem).1).2
      have hfiltered := congrArg (List.filter (key · ≠ k)) heq
      rwa [List.filter_append, hnone, hall, List.nil_append] at hfiltered
    exact ⟨hothers ▸ heq, hothers⟩
  · rintro ⟨hsplit, hothers⟩
    rw [hothers]
    exact hsplit

/-- Items are in the order of their keys just if those with the first key stand before the others,
and those are in the order of their keys. -/
theorem pairwise_idxOf_cons_iff {k : β} :
    (items.Pairwise fun item later =>
        (k :: keys).idxOf (key item) ≤ (k :: keys).idxOf (key later)) ↔
      items.filter (key · = k) ++ items.filter (key · ≠ k) = items ∧
        (items.filter (key · ≠ k)).Pairwise fun item later =>
          keys.idxOf (key item) ≤ keys.idxOf (key later) := by
  have hfirst (item : α) : key item = k ↔ (k :: keys).idxOf (key item) = 0 := by
    rw [List.idxOf_cons]
    grind
  have hlater {item : α} (hitem : item ∈ items.filter (key · ≠ k)) :
      (k :: keys).idxOf (key item) = keys.idxOf (key item) + 1 :=
    List.idxOf_cons_ne _ (of_decide_eq_true (List.mem_filter.1 hitem).2).symm
  have hothers : ((items.filter (key · ≠ k)).Pairwise fun item later =>
      (k :: keys).idxOf (key item) ≤ (k :: keys).idxOf (key later)) ↔
        (items.filter (key · ≠ k)).Pairwise fun item later =>
          keys.idxOf (key item) ≤ keys.idxOf (key later) := by
    refine List.Pairwise.iff_of_mem fun {item later} hitem hmem => ?_
    rw [hlater hitem, hlater hmem, Nat.add_le_add_iff_right]
  rw [← hothers]
  constructor
  · intro hsorted
    refine ⟨?_, hsorted.filter _⟩
    have hsplit := filter_append_filter_of_pairwise (hsorted.imp (S := fun item later =>
      decide (key later = k) = true → decide (key item = k) = true) fun {item later} hle hk => ?_)
    · simpa using hsplit
    · rw [decide_eq_true_eq, hfirst] at hk ⊢
      omega
  · rintro ⟨hsplit, hsorted⟩
    have hzero (item : α) (hitem : item ∈ items.filter (key · = k)) :
        (k :: keys).idxOf (key item) = 0 :=
      (hfirst item).1 (of_decide_eq_true (List.mem_filter.1 hitem).2)
    rw [← hsplit, List.pairwise_append]
    refine ⟨List.pairwise_of_forall_mem_list fun item hitem _ _ => ?_, hsorted,
      fun item hitem _ _ => ?_⟩
    · exact hzero item hitem ▸ Nat.zero_le _
    · exact hzero item hitem ▸ Nat.zero_le _

/-- Grouping leaves items in their order just if they are in the order of their keys. -/
theorem grouped_eq_iff (hnodup : keys.Nodup) (h : ∀ item ∈ items, key item ∈ keys) :
    grouped key keys items = items ↔
      items.Pairwise fun item later => keys.idxOf (key item) ≤ keys.idxOf (key later) := by
  induction keys generalizing items with
  | nil =>
      rw [List.eq_nil_iff_forall_not_mem.2 fun item hitem => nomatch h item hitem]
      exact iff_of_true rfl List.Pairwise.nil
  | cons k keys ih =>
      rw [List.nodup_cons] at hnodup
      rw [grouped_cons_eq_iff hnodup.1, pairwise_idxOf_cons_iff,
        ih hnodup.2 (forall_key_mem_filter h)]

end Grouping

/-! ## Registrations for an event -/

namespace Dispatcher

variable {dispatcher : Dispatcher}

/-- The listeners for an event, class by class. -/
def listenersFor (dispatcher : Dispatcher) (eventClass : EventClass) : List Listener :=
  (dispatcher.keys.filter eventClass.isA).flatMap dispatcher.listeners

/-- The remaining registrations for an event, in the order in which they were made. -/
def remainingFor (requests : List Request) (eventClass : EventClass) : List Registration :=
  (remaining requests).filter fun registration => eventClass.isA registration.eventClass

/-- The remaining registrations for an event, class by class. -/
def servedFor (requests : List Request) (eventClass : EventClass) : List Registration :=
  grouped Registration.eventClass (known requests) (remainingFor requests eventClass)

theorem IsSound.flatMap_rollsFor (h : dispatcher.IsSound) (eventClass : EventClass) :
    (dispatcher.rollsFor eventClass).flatMap dispatcher.roll =
      dispatcher.listenersFor eventClass := by
  rw [rollsFor, List.flatMap_map, listenersFor, keys, List.filter_map, List.flatMap_map]
  refine List.flatMap_congr fun entry hentry => ?_
  exact (h.listeners_of_mem (List.mem_filter.1 hentry).1).symm

theorem listenersFor_performed (requests : List Request) (eventClass : EventClass) :
    (performed {} requests).listenersFor eventClass =
      (servedFor requests eventClass).map Registration.listener := by
  have hrepresents := represents_performed requests
  rw [listenersFor, hrepresents.keys, servedFor, grouped, List.map_flatMap]
  generalize known requests = classes
  induction classes with
  | nil => rfl
  | cons other classes ih =>
      rw [List.filter_cons, List.flatMap_cons, ← ih]
      have hgroup : (remainingFor requests eventClass).filter (·.eventClass = other) =
          if eventClass.isA other then (remaining requests).filter (·.eventClass = other)
          else [] := by
        rw [remainingFor, List.filter_filter]
        split
        next hisA => exact List.filter_congr fun registration _ => by grind
        next hnot => exact List.filter_eq_nil_iff.2 fun registration _ => by grind
      rw [hgroup]
      split
      next hisA => rw [List.flatMap_cons, hrepresents.listeners]; rfl
      next hnot => rfl

end Dispatcher

/-! ## Listeners that leave the dispatcher alone -/

namespace Effect

variable {number : Nat} {event : Event} {listeners : List Listener} {settled : World → Prop}
  {world : World}

/-- In worlds of a kind listeners neither fail nor change the dispatcher when they are called with
an event, and the world stays of that kind. -/
def AreSettled (number : Nat) (event : Event) (listeners : List Listener)
    (settled : World → Prop) : Prop :=
  ∀ world, settled world → ∀ listener ∈ listeners, ∃ after,
    (call (some number) event listener).run.run world = (.ok (), after) ∧ settled after ∧
      after.dispatchers[number]? = world.dispatchers[number]?

theorem AreSettled.callAll (h : AreSettled number event listeners settled) (hworld : settled world)
    {called : List Listener} (hsubset : called ⊆ listeners) :
    ∃ after, (callAll (some number) event called).run.run world = (.ok (), after) ∧
      settled after ∧ after.dispatchers[number]? = world.dispatchers[number]? := by
  induction called generalizing world with
  | nil => exact ⟨world, rfl, hworld, rfl⟩
  | cons listener called ih =>
      rw [List.cons_subset] at hsubset
      obtain ⟨between, hrun, hbetween, hsame⟩ := h world hworld listener hsubset.1
      obtain ⟨after, hrest, hafter, hlater⟩ := ih hbetween hsubset.2
      refine ⟨after, ?_, hafter, hlater.trans hsame⟩
      rw [callAll_cons, run_bind, hrun]
      exact hrest

/-- The rolls are read as they were when the delivery began. -/
theorem AreSettled.called_eq (h : AreSettled number event listeners settled)
    (hworld : settled world) {rolls : List Nat}
    (hrolls : ∀ roll ∈ rolls, (world.dispatcher (some number)).roll roll ⊆ listeners) :
    called (some number) event rolls world =
      rolls.flatMap (world.dispatcher (some number)).roll := by
  induction rolls generalizing world with
  | nil => rfl
  | cons roll rolls ih =>
      rw [List.forall_mem_cons] at hrolls
      obtain ⟨after, hrun, hafter, hsame⟩ := h.callAll hworld hrolls.1
      have hdispatcher : after.dispatcher (some number) = world.dispatcher (some number) :=
        congrArg (fun found => found.getD ({} : Dispatcher)) hsame
      rw [called, hrun, List.flatMap_cons, ih hafter (hdispatcher ▸ hrolls.2), hdispatcher]

/-- Listeners that only hear leave the dispatcher alone. -/
theorem areSettled_isQuiet {text : String} (htext : event.text = .ok text) (number : Nat)
    (listeners : List Listener) : AreSettled number event listeners IsQuiet := by
  intro world hquiet listener _
  have hreaction (name : String) : world.reaction name = {} := hquiet.reactions name
  have honly : world.OnlyRegisters := ⟨hquiet.triggers, by simp [hreaction], by simp [hreaction]⟩
  have hnone : world.requestsOf listener = [] := by
    cases listener with
    | named name => simp [World.requestsOf, hreaction]
    | _ => rfl
  obtain ⟨after, hrun, hregisters⟩ := registers_call number honly htext listener
  refine ⟨after, hrun, ⟨hregisters.triggers.trans hquiet.triggers, ?_⟩, ?_⟩
  · rw [hregisters.reactions]
    exact hquiet.reactions
  · rw [hregisters.getElem?_dispatchers, hnone]
    exact Option.map_id'

/-- An event is delivered to each remaining registration for it once, class by class in the order in
which the classes came up. It is delivered in the order of the registrations just if they were made
in the order of their classes. -/
theorem dispatch_in_order_iff (requests : List Dispatcher.Request)
    (hdispatcher : world.dispatchers[number]? = some (Dispatcher.performed {} requests))
    (hsettled : AreSettled number event
      ((Dispatcher.remainingFor requests event.eventClass).map Registration.listener) settled)
    (hworld : settled (world.announcing event)) :
    (∃ ended, (deliver (some number) event).run.run world = (.ok (), ended)) ∧
    Calls (some number) world event
      ((Dispatcher.servedFor requests event.eventClass).map Registration.listener) ∧
    (Dispatcher.servedFor requests event.eventClass).Perm
      (Dispatcher.remainingFor requests event.eventClass) ∧
    (Dispatcher.servedFor requests event.eventClass =
        Dispatcher.remainingFor requests event.eventClass ↔
      (Dispatcher.remainingFor requests event.eventClass).Pairwise fun registration later =>
        (Dispatcher.known requests).idxOf registration.eventClass ≤
          (Dispatcher.known requests).idxOf later.eventClass) := by
  have hrepresents := Dispatcher.represents_performed requests
  have hnodup : (Dispatcher.known requests).Nodup := hrepresents.keys ▸ hrepresents.sound.nodup
  have hcovered : ∀ registration ∈ Dispatcher.remainingFor requests event.eventClass,
      registration.eventClass ∈ Dispatcher.known requests := fun registration hmem =>
    hrepresents.mem_known (List.mem_filter.1 hmem).1
  have hperm := grouped_perm hnodup hcovered
  have hfound : (world.announcing event).dispatcher (some number) =
      Dispatcher.performed {} requests :=
    congrArg (fun found => found.getD ({} : Dispatcher)) hdispatcher
  have hlisteners := (hrepresents.sound.flatMap_rollsFor event.eventClass).trans
    (Dispatcher.listenersFor_performed requests event.eventClass)
  have hcalls := calls_called (some number) world event
  have hbefore : world.dispatcher (some number) = Dispatcher.performed {} requests := hfound
  rw [hbefore, hsettled.called_eq hworld, hfound, hlisteners] at hcalls
  · obtain ⟨ended, hrun, -, -⟩ := hsettled.callAll hworld
      (List.Perm.subset (hperm.map Registration.listener))
    exact ⟨⟨ended, hcalls.trans hrun⟩, hcalls, hperm, grouped_eq_iff hnodup hcovered⟩
  · intro roll hroll listener hlistener
    rw [hfound] at hlistener
    refine (hperm.map Registration.listener).subset (hlisteners ▸ ?_)
    exact List.mem_flatMap.2 ⟨roll, hroll, hlistener⟩

/-- Listening for a class, for a class above it, and for the first class again. -/
def mixedRequests : List Dispatcher.Request :=
  [.listen [.connecting] (.named "a"), .listen [.event] (.named "b"),
    .listen [.connecting] (.named "c")]

/-- A world with listeners that only hear, on a dispatcher that was asked for something. -/
def quietWorld (requests : List Dispatcher.Request) : World :=
  { dispatchers := [Dispatcher.performed {} requests] }

/-- A connection to a host is being opened. -/
def connectingTo (hostname : String) : Event :=
  ⟨.null, .connecting (.str hostname)⟩

/-- The listener that registered last is called before the one for the class above. -/
theorem dispatch_serves_class_first :
    Calls (some 0) (quietWorld mixedRequests) (connectingTo "foo")
      [.named "a", .named "c", .named "b"] :=
  (dispatch_in_order_iff mixedRequests rfl (areSettled_isQuiet rfl 0 _) ⟨rfl, fun _ => rfl⟩).2.1

theorem dispatch_out_of_order :
    ¬ Calls (some 0) (quietWorld mixedRequests) (connectingTo "foo")
      ((Dispatcher.remainingFor mixedRequests .connecting).map Registration.listener) := by
  intro h
  have hheard := congrArg (fun run => run.2.records.filterMap Record.hearer?) h
  exact absurd hheard (by decide)

end Effect

end Directory
