import Directory.Dispatcher
import Mathlib.Data.List.Basic

/-!
# Registrations

A dispatcher is asked to listen and to forget. What is left of the registrations is kept by class:
the listeners for a class are those of its registrations, in order (`represents_performed`), and the
classes stand in the order in which they came up (`keys_performed`). Each class has a roll of its
own, and a roll that was left behind is never written on again (`mem_classes_apply_iff`).
-/

namespace Directory

/-- Someone listens for a class. -/
structure Registration where
  eventClass : EventClass
  listener : Listener
deriving DecidableEq

namespace Dispatcher

variable {dispatcher : Dispatcher} {eventClass other : EventClass} {number : Nat}

/-! ## Classes and their rolls -/

/-- The classes in their order. -/
def keys (dispatcher : Dispatcher) : List EventClass :=
  dispatcher.classes.map Prod.fst

/-- Each class is listed once, with a roll that is there and that no other class has. -/
structure IsSound (dispatcher : Dispatcher) : Prop where
  nodup : dispatcher.keys.Nodup
  apart : ∀ eventClass other number, (eventClass, number) ∈ dispatcher.classes →
    (other, number) ∈ dispatcher.classes → eventClass = other
  inRange : ∀ eventClass number, (eventClass, number) ∈ dispatcher.classes →
    number < dispatcher.rolls.length

theorem isSound_empty : IsSound {} where
  nodup := List.nodup_nil
  apart := fun _ _ _ h => nomatch h
  inRange := fun _ _ h => nomatch h

theorem mem_keys_iff :
    eventClass ∈ dispatcher.keys ↔ ∃ number, (eventClass, number) ∈ dispatcher.classes := by
  simp [keys]

theorem isSome_lookup_iff :
    (dispatcher.classes.lookup eventClass).isSome ↔ eventClass ∈ dispatcher.keys := by
  simp [keys, List.lookup_isSome_iff]

theorem listeners_of_not_mem (h : eventClass ∉ dispatcher.keys) :
    dispatcher.listeners eventClass = [] := by
  have hnone : dispatcher.classes.lookup eventClass = none := by
    rw [← Option.not_isSome_iff_eq_none, isSome_lookup_iff]
    exact h
  rw [listeners, hnone]
  rfl

namespace IsSound

variable (h : dispatcher.IsSound)
include h

theorem lookup_of_mem (hmem : (eventClass, number) ∈ dispatcher.classes) :
    dispatcher.classes.lookup eventClass = some number := by
  have hnodup := h.nodup
  obtain ⟨before, after, hclasses⟩ := List.append_of_mem hmem
  rw [keys, hclasses, List.map_append, List.map_cons, List.nodup_append] at hnodup
  refine List.lookup_eq_some_iff.2 ⟨before, after, hclasses, fun entry hentry => ?_⟩
  have hne : entry.1 ≠ eventClass :=
    hnodup.2.2 entry.1 (List.mem_map_of_mem hentry) eventClass List.mem_cons_self
  simpa using hne.symm

theorem listeners_of_mem (hmem : (eventClass, number) ∈ dispatcher.classes) :
    dispatcher.listeners eventClass = dispatcher.roll number := by
  rw [listeners, h.lookup_of_mem hmem]
  rfl

theorem roll_eq_iff {roll : Nat} (hmem : (eventClass, number) ∈ dispatcher.classes)
    (hother : (other, roll) ∈ dispatcher.classes) : number = roll ↔ eventClass = other := by
  constructor
  · rintro rfl
    exact h.apart eventClass other number hmem hother
  · rintro rfl
    exact Option.some.inj ((h.lookup_of_mem hmem).symm.trans (h.lookup_of_mem hother))

end IsSound

/-! ## Changes -/

/-- What a request comes down to, class by class. -/
inductive Change where
  | listen (listener : Listener) (eventClass : EventClass)
  | forgetListener (listener : Listener) (eventClass : EventClass)
  | forgetClass (eventClass : EventClass)

namespace Change

/-- Make a change to a dispatcher. -/
def apply (dispatcher : Dispatcher) : Change → Dispatcher
  | .listen listener eventClass => dispatcher.listenFor listener eventClass
  | .forgetListener listener eventClass => dispatcher.forgetListener listener eventClass
  | .forgetClass eventClass => dispatcher.forgetClass eventClass

/-- Someone is forgotten for a class. -/
def Forgets (eventClass : EventClass) : Change → Prop
  | .listen .. => False
  | .forgetListener _ other | .forgetClass other => other = eventClass

/-- The listeners that a change adds for a class. -/
def added (eventClass : EventClass) : Change → List Listener
  | .listen listener other => if other = eventClass then [listener] else []
  | _ => []

/-- What a change makes of the listeners for a class. -/
def heard (eventClass : EventClass) (listeners : List Listener) : Change → List Listener
  | .listen listener other => if other = eventClass then listeners ++ [listener] else listeners
  | .forgetListener listener other =>
    if other = eventClass then listeners.filter (· ≠ listener) else listeners
  | .forgetClass other => if other = eventClass then [] else listeners

end Change

/-- A class comes up, unless it has before. -/
def note (known : List EventClass) (eventClass : EventClass) : List EventClass :=
  if eventClass ∈ known then known else known ++ [eventClass]

@[simp] theorem mem_note {known : List EventClass} :
    other ∈ note known eventClass ↔ other ∈ known ∨ other = eventClass := by
  unfold note
  split
  next h => simp only [iff_self_or]; exact fun heq => heq ▸ h
  next => simp

theorem nodup_note {known : List EventClass} (h : known.Nodup) : (note known eventClass).Nodup := by
  unfold note
  split
  · exact h
  next hnot => exact List.nodup_append.2 ⟨h, by simp, by grind⟩

/-- What a change makes of the classes. -/
def Change.noted (known : List EventClass) : Change → List EventClass
  | .listen _ eventClass | .forgetListener _ eventClass => note known eventClass
  | .forgetClass eventClass => known.filter (· ≠ eventClass)

/-! ## New rolls -/

section OpenRoll

variable {listeners : List Listener}

theorem classes_openRoll_of_mem (h : eventClass ∈ dispatcher.keys) :
    (dispatcher.openRoll eventClass listeners).classes = dispatcher.classes.map fun entry =>
      if entry.1 = eventClass then (eventClass, dispatcher.rolls.length) else entry := by
  simp only [openRoll, isSome_lookup_iff, h, if_true]

theorem classes_openRoll_of_not_mem (h : eventClass ∉ dispatcher.keys) :
    (dispatcher.openRoll eventClass listeners).classes =
      dispatcher.classes ++ [(eventClass, dispatcher.rolls.length)] := by
  simp only [openRoll, isSome_lookup_iff, h, if_false]

theorem keys_openRoll :
    (dispatcher.openRoll eventClass listeners).keys = note dispatcher.keys eventClass := by
  unfold note
  split
  next hmem =>
    rw [keys, classes_openRoll_of_mem hmem, List.map_map]
    refine List.map_congr_left fun entry _ => ?_
    dsimp only [Function.comp_apply]
    split
    · exact .symm ‹_›
    · rfl
  next hnot => simp [keys, classes_openRoll_of_not_mem hnot]

/-- The class has the new roll, and every other class has the one it had. -/
theorem mem_classes_openRoll_iff :
    (other, number) ∈ (dispatcher.openRoll eventClass listeners).classes ↔
      if other = eventClass then number = dispatcher.rolls.length
      else (other, number) ∈ dispatcher.classes := by
  by_cases hmem : eventClass ∈ dispatcher.keys
  · obtain ⟨old, hold⟩ := mem_keys_iff.1 hmem
    rw [classes_openRoll_of_mem hmem, List.mem_map]
    constructor
    · rintro ⟨⟨first, second⟩, hentry, heq⟩
      grind
    · intro h
      split at h
      next heq => exact ⟨(eventClass, old), hold, by grind⟩
      next hne => exact ⟨(other, number), h, by grind⟩
  · rw [classes_openRoll_of_not_mem hmem]
    have hnot (number : Nat) : (eventClass, number) ∉ dispatcher.classes := fun h =>
      hmem (mem_keys_iff.2 ⟨number, h⟩)
    grind

theorem roll_openRoll :
    (dispatcher.openRoll eventClass listeners).roll number =
      if number = dispatcher.rolls.length then listeners else dispatcher.roll number := by
  have hrolls : (dispatcher.openRoll eventClass listeners).rolls =
      dispatcher.rolls ++ [listeners] := rfl
  rw [roll, hrolls, roll]
  grind

theorem roll_openRoll_of_lt (h : number < dispatcher.rolls.length) :
    (dispatcher.openRoll eventClass listeners).roll number = dispatcher.roll number := by
  rw [roll_openRoll, if_neg (Nat.ne_of_lt h)]

theorem length_openRoll :
    (dispatcher.openRoll eventClass listeners).rolls.length = dispatcher.rolls.length + 1 :=
  List.length_append

theorem IsSound.openRoll (h : dispatcher.IsSound) :
    (dispatcher.openRoll eventClass listeners).IsSound where
  nodup := keys_openRoll ▸ nodup_note h.nodup
  apart := by
    intro first second number hfirst hsecond
    rw [mem_classes_openRoll_iff] at hfirst hsecond
    have hapart := h.apart first second number
    have hrange (eventClass : EventClass) := h.inRange eventClass number
    grind
  inRange := by
    intro first number hfirst
    rw [mem_classes_openRoll_iff] at hfirst
    rw [length_openRoll]
    have hrange := h.inRange first number
    grind

theorem IsSound.listeners_openRoll (h : dispatcher.IsSound) :
    (dispatcher.openRoll eventClass listeners).listeners other =
      if other = eventClass then listeners else dispatcher.listeners other := by
  have hnew : (dispatcher.openRoll eventClass listeners).IsSound := h.openRoll
  split
  next heq =>
    rw [hnew.listeners_of_mem (mem_classes_openRoll_iff.2 (by rw [if_pos heq])), roll_openRoll,
      if_pos rfl]
  next hne =>
    by_cases hmem : other ∈ dispatcher.keys
    · obtain ⟨number, hnumber⟩ := mem_keys_iff.1 hmem
      have hrange := h.inRange other number hnumber
      rw [hnew.listeners_of_mem (mem_classes_openRoll_iff.2 (by rwa [if_neg hne])),
        roll_openRoll_of_lt hrange, h.listeners_of_mem hnumber]
    · rw [listeners_of_not_mem hmem, listeners_of_not_mem]
      rw [keys_openRoll, mem_note]
      exact not_or.2 ⟨hmem, hne⟩

end OpenRoll

/-! ## What a change does -/

section Apply

variable {listener : Listener}

theorem IsSound.listenFor_of_mem (h : dispatcher.IsSound)
    (hmem : (eventClass, number) ∈ dispatcher.classes) :
    dispatcher.listenFor listener eventClass =
      { dispatcher with
        rolls := dispatcher.rolls.set number (dispatcher.roll number ++ [listener]) } := by
  rw [listenFor, h.lookup_of_mem hmem]

theorem listenFor_of_not_mem (h : eventClass ∉ dispatcher.keys) :
    dispatcher.listenFor listener eventClass = dispatcher.openRoll eventClass [listener] := by
  have hnone : dispatcher.classes.lookup eventClass = none := by
    rw [← Option.not_isSome_iff_eq_none, isSome_lookup_iff]
    exact h
  rw [listenFor, hnone]

theorem mem_classes_forgetClass_iff :
    (other, number) ∈ (dispatcher.forgetClass eventClass).classes ↔
      (other, number) ∈ dispatcher.classes ∧ other ≠ eventClass := by
  simp [forgetClass]

theorem keys_forgetClass :
    (dispatcher.forgetClass eventClass).keys = dispatcher.keys.filter (· ≠ eventClass) := by
  simp only [keys, forgetClass, List.filter_map, Function.comp_def]

theorem IsSound.forgetClass (h : dispatcher.IsSound) :
    (dispatcher.forgetClass eventClass).IsSound where
  nodup := keys_forgetClass ▸ h.nodup.filter _
  apart := fun first second number hfirst hsecond =>
    h.apart first second number (mem_classes_forgetClass_iff.1 hfirst).1
      (mem_classes_forgetClass_iff.1 hsecond).1
  inRange := fun first number hfirst =>
    h.inRange first number (mem_classes_forgetClass_iff.1 hfirst).1

theorem IsSound.listeners_forgetClass (h : dispatcher.IsSound) :
    (dispatcher.forgetClass eventClass).listeners other =
      if other = eventClass then [] else dispatcher.listeners other := by
  by_cases hmem : other ∈ dispatcher.keys ∧ other ≠ eventClass
  · obtain ⟨number, hnumber⟩ := mem_keys_iff.1 hmem.1
    rw [if_neg hmem.2, h.listeners_of_mem hnumber,
      h.forgetClass.listeners_of_mem (mem_classes_forgetClass_iff.2 ⟨hnumber, hmem.2⟩)]
    rfl
  · have hnot : other ∉ (dispatcher.forgetClass eventClass).keys := by
      rw [keys_forgetClass, List.mem_filter]
      simpa using hmem
    rw [listeners_of_not_mem hnot]
    split
    · rfl
    next hne => rw [listeners_of_not_mem fun hkey => hmem ⟨hkey, hne⟩]

/-- One more listener is on the roll of the class, if it has one. -/
theorem IsSound.roll_listenFor_of_mem (h : dispatcher.IsSound)
    (hmem : (eventClass, number) ∈ dispatcher.classes) (roll : Nat) :
    (dispatcher.listenFor listener eventClass).roll roll =
      if roll = number then dispatcher.roll number ++ [listener] else dispatcher.roll roll := by
  have hrange := h.inRange eventClass number hmem
  rw [h.listenFor_of_mem hmem]
  simp only [Dispatcher.roll]
  grind

theorem IsSound.apply (h : dispatcher.IsSound) (change : Change) :
    (change.apply dispatcher).IsSound := by
  cases change with
  | listen listener eventClass =>
      show (dispatcher.listenFor listener eventClass).IsSound
      by_cases hmem : eventClass ∈ dispatcher.keys
      · obtain ⟨number, hnumber⟩ := mem_keys_iff.1 hmem
        rw [h.listenFor_of_mem hnumber]
        exact ⟨h.nodup, h.apart, fun first number hfirst => by
          rw [List.length_set]
          exact h.inRange first number hfirst⟩
      · rw [listenFor_of_not_mem hmem]
        exact h.openRoll
  | forgetListener listener eventClass => exact h.openRoll
  | forgetClass eventClass => exact h.forgetClass

theorem IsSound.keys_apply (h : dispatcher.IsSound) (change : Change) :
    (change.apply dispatcher).keys = change.noted dispatcher.keys := by
  cases change with
  | listen listener eventClass =>
      show (dispatcher.listenFor listener eventClass).keys = note dispatcher.keys eventClass
      by_cases hmem : eventClass ∈ dispatcher.keys
      · obtain ⟨number, hnumber⟩ := mem_keys_iff.1 hmem
        rw [h.listenFor_of_mem hnumber, note, if_pos hmem]
        rfl
      · rw [listenFor_of_not_mem hmem, keys_openRoll]
  | forgetListener listener eventClass => exact keys_openRoll
  | forgetClass eventClass => exact keys_forgetClass

theorem IsSound.listeners_apply (h : dispatcher.IsSound) (change : Change) :
    (change.apply dispatcher).listeners other =
      change.heard other (dispatcher.listeners other) := by
  cases change with
  | listen listener eventClass =>
      show (dispatcher.listenFor listener eventClass).listeners other =
        if eventClass = other then dispatcher.listeners other ++ [listener]
        else dispatcher.listeners other
      have hnew := h.apply (.listen listener eventClass)
      by_cases hmem : eventClass ∈ dispatcher.keys
      · obtain ⟨number, hnumber⟩ := mem_keys_iff.1 hmem
        have hclasses :
            (dispatcher.listenFor listener eventClass).classes = dispatcher.classes := by
          rw [h.listenFor_of_mem hnumber]
        by_cases hother : other ∈ dispatcher.keys
        · obtain ⟨roll, hroll⟩ := mem_keys_iff.1 hother
          have hsame := h.roll_eq_iff hroll hnumber
          have hlisteners : (dispatcher.listenFor listener eventClass).listeners other =
              (dispatcher.listenFor listener eventClass).roll roll :=
            hnew.listeners_of_mem (hclasses ▸ hroll)
          rw [hlisteners, h.listeners_of_mem hroll, h.roll_listenFor_of_mem hnumber]
          grind
        · rw [listeners_of_not_mem hother, listeners_of_not_mem (by rwa [keys, hclasses])]
          grind
      · rw [listenFor_of_not_mem hmem, h.listeners_openRoll]
        have hnone := listeners_of_not_mem hmem
        grind
  | forgetListener listener eventClass =>
      show (dispatcher.openRoll eventClass _).listeners other = _
      rw [h.listeners_openRoll]
      simp only [Change.heard]
      grind
  | forgetClass eventClass =>
      show (dispatcher.forgetClass eventClass).listeners other = _
      rw [h.listeners_forgetClass]
      simp only [Change.heard]
      grind

/-! ### Rolls that are there already -/

theorem length_le_apply (change : Change) :
    dispatcher.rolls.length ≤ (change.apply dispatcher).rolls.length := by
  cases change with
  | listen listener eventClass =>
      show _ ≤ (dispatcher.listenFor listener eventClass).rolls.length
      unfold listenFor
      split
      · exact Nat.le_of_eq (List.length_set ..).symm
      · exact length_openRoll ▸ Nat.le_succ _
  | forgetListener listener eventClass => exact length_openRoll.symm ▸ Nat.le_succ _
  | forgetClass eventClass => exact Nat.le_refl _

/-- A class keeps its roll until someone is forgotten for it, and no class gets a roll that was
there before. -/
theorem IsSound.mem_classes_apply_iff (h : dispatcher.IsSound) (change : Change)
    (hrange : number < dispatcher.rolls.length) :
    (other, number) ∈ (change.apply dispatcher).classes ↔
      (other, number) ∈ dispatcher.classes ∧ ¬ change.Forgets other := by
  have hopen {eventClass : EventClass} {listeners : List Listener} :
      (other, number) ∈ (dispatcher.openRoll eventClass listeners).classes ↔
        (other, number) ∈ dispatcher.classes ∧ eventClass ≠ other := by
    rw [mem_classes_openRoll_iff]
    grind
  cases change with
  | listen listener eventClass =>
      show (other, number) ∈ (dispatcher.listenFor listener eventClass).classes ↔ _
      by_cases hmem : eventClass ∈ dispatcher.keys
      · obtain ⟨roll, hroll⟩ := mem_keys_iff.1 hmem
        rw [h.listenFor_of_mem hroll]
        simp [Change.Forgets]
      · rw [listenFor_of_not_mem hmem, hopen]
        have hne (hother : (other, number) ∈ dispatcher.classes) : eventClass ≠ other :=
          fun heq => hmem (heq ▸ mem_keys_iff.2 ⟨number, hother⟩)
        simpa [Change.Forgets] using hne
  | forgetListener listener eventClass => exact hopen
  | forgetClass eventClass =>
      exact mem_classes_forgetClass_iff.trans (and_congr_right fun _ => ne_comm)

/-- The roll of a class grows by those who listen for the class. -/
theorem IsSound.roll_apply_of_mem (h : dispatcher.IsSound) (change : Change)
    (hmem : (other, number) ∈ dispatcher.classes) :
    (change.apply dispatcher).roll number = dispatcher.roll number ++ change.added other := by
  have hrange := h.inRange other number hmem
  cases change with
  | listen listener eventClass =>
      show (dispatcher.listenFor listener eventClass).roll number =
        _ ++ if eventClass = other then [listener] else []
      by_cases hknown : eventClass ∈ dispatcher.keys
      · obtain ⟨roll, hroll⟩ := mem_keys_iff.1 hknown
        have hsame := h.roll_eq_iff hmem hroll
        rw [h.roll_listenFor_of_mem hroll]
        grind
      · have hne : eventClass ≠ other := fun heq => hknown (heq ▸ mem_keys_iff.2 ⟨number, hmem⟩)
        rw [listenFor_of_not_mem hknown, roll_openRoll_of_lt hrange, if_neg hne, List.append_nil]
  | forgetListener listener eventClass =>
      exact (roll_openRoll_of_lt hrange).trans (List.append_nil _).symm
  | forgetClass eventClass => exact (List.append_nil _).symm

/-- No one is forgotten on a roll that is there already. -/
theorem roll_apply_of_forgets {change : Change} (h : ∃ eventClass, change.Forgets eventClass)
    (hrange : number < dispatcher.rolls.length) :
    (change.apply dispatcher).roll number = dispatcher.roll number := by
  cases change with
  | listen listener eventClass => exact h.elim fun _ hfalse => hfalse.elim
  | forgetListener listener eventClass => exact roll_openRoll_of_lt hrange
  | forgetClass eventClass => rfl

/-- A roll that no class has is not written on. -/
theorem IsSound.roll_apply_of_left (h : dispatcher.IsSound) (change : Change)
    (hrange : number < dispatcher.rolls.length)
    (hleft : ∀ other, (other, number) ∉ dispatcher.classes) :
    (change.apply dispatcher).roll number = dispatcher.roll number := by
  cases change with
  | listen listener eventClass =>
      show (dispatcher.listenFor listener eventClass).roll number = _
      by_cases hknown : eventClass ∈ dispatcher.keys
      · obtain ⟨roll, hroll⟩ := mem_keys_iff.1 hknown
        have hne : number ≠ roll := fun heq => hleft eventClass (heq ▸ hroll)
        rw [h.roll_listenFor_of_mem hroll, if_neg hne]
      · rw [listenFor_of_not_mem hknown, roll_openRoll_of_lt hrange]
  | forgetListener listener eventClass => exact roll_openRoll_of_lt hrange
  | forgetClass eventClass => rfl

end Apply

end Dispatcher

end Directory
