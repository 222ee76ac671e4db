import Directory.Value.Equality
import Directory.Value.Text

/-!
# Faults of values

A value without a text, and one that cannot be a key, are faults of a caller. Neither is taken for
the report of a directory operation, nor for a failure of a wire client.
-/

namespace Directory

/-- A fault of a caller, which is neither the report of a directory operation nor a failure of a
wire client. -/
structure Failure.IsFault (failure : Failure) : Prop where
  unreported : failure.isDirectory = false
  isLocal : failure.isA (.wire .general) = false

/-- A failure, if there is one, is of a certain sort. -/
def FailsBy {α : Type} (sort : Failure → Prop) (result : Except Failure α) : Prop :=
  ∀ failure, result = .error failure → sort failure

namespace FailsBy

variable {α β : Type} {sort : Failure → Prop}

theorem ok (a : α) : FailsBy sort (.ok a : Except Failure α) :=
  fun _ h => nomatch h

theorem error {failure : Failure} (h : sort failure) :
    FailsBy sort (.error failure : Except Failure α) :=
  fun _ heq => Except.error.inj heq ▸ h

theorem bind {result : Except Failure α} {next : α → Except Failure β} (h : FailsBy sort result)
    (hnext : ∀ a, FailsBy sort (next a)) : FailsBy sort (result >>= next) := by
  intro failure heq
  cases result with
  | error first =>
      cases heq
      exact h _ rfl
  | ok a => exact hnext a failure heq

theorem map {f : α → β} {result : Except Failure α} (h : FailsBy sort result) :
    FailsBy sort (f <$> result) := by
  intro failure heq
  cases result with
  | error first => exact h failure (congrArg Except.error (Except.error.inj heq))
  | ok a => cases heq

theorem map_iff {f : α → β} {result : Except Failure α} :
    FailsBy sort (f <$> result) ↔ FailsBy sort result := by
  refine ⟨fun h failure heq => ?_, map⟩
  subst heq
  exact h failure rfl

theorem mono {weaker : Failure → Prop} {result : Except Failure α} (h : FailsBy sort result)
    (himp : ∀ failure, sort failure → weaker failure) : FailsBy weaker result :=
  fun failure heq => himp failure (h failure heq)

theorem mapM {f : α → Except Failure β} {items : List α} (h : ∀ item, FailsBy sort (f item)) :
    FailsBy sort (items.mapM f) := by
  induction items with
  | nil => exact ok []
  | cons item items ih =>
      rw [List.mapM_cons]
      exact bind (h item) fun _ => bind ih fun _ => ok _

theorem wrongType : FailsBy Failure.IsFault (.error Failure.wrongType : Except Failure α) :=
  error ⟨rfl, rfl⟩

theorem blankNode :
    FailsBy Failure.IsFault (.error Refusal.blankNode.toFailure : Except Failure α) :=
  error ⟨rfl, rfl⟩

end FailsBy

/-! ## Texts -/

mutual

theorem Value.failsByFault_shown : ∀ value : Value, FailsBy Failure.IsFault value.shown
  | .null | .bool true | .bool false | .float _ | .str _ | .bytes _ | .callback _ _ => by
    rw [Value.shown]
    exact .ok _
  | .int n => by
    rw [Value.shown]
    cases intText? n with
    | none => exact .error ⟨rfl, rfl⟩
    | some digits => exact .ok digits
  | .list items | .tuple items | .set items => by
    rw [Value.shown]
    exact (Value.failsByFault_shownAll items).map
  | .dict entries => by
    rw [Value.shown]
    exact (Value.failsByFault_shownEntries entries).map
  | .filter node => by
    rw [Value.shown]
    exact Filter.failsByFault_shown node

theorem Value.failsByFault_shownAll :
    ∀ values : List Value, FailsBy Failure.IsFault (Value.shownAll values)
  | [] => by
    rw [Value.shownAll]
    exact .ok _
  | value :: values => by
    rw [Value.shownAll]
    exact .bind (Value.failsByFault_shown value) fun _ =>
      .bind (Value.failsByFault_shownAll values) fun _ => .ok _

theorem Value.failsByFault_shownEntries :
    ∀ entries : List (Value × Value), FailsBy Failure.IsFault (Value.shownEntries entries)
  | [] => by
    rw [Value.shownEntries]
    exact .ok _
  | (key, value) :: entries => by
    rw [Value.shownEntries]
    exact .bind (Value.failsByFault_shown key) fun _ =>
      .bind (Value.failsByFault_shown value) fun _ =>
        .bind (Value.failsByFault_shownEntries entries) fun _ => .ok _

theorem Filter.failsByFault_shown : ∀ node : Filter, FailsBy Failure.IsFault node.shown
  | .condition _ attr value => by
    rw [Filter.shown]
    exact .bind (Value.failsByFault_shown attr) fun _ =>
      .bind (Value.failsByFault_shown value) fun _ => .ok _
  | .has value | .raw value => by
    rw [Filter.shown]
    exact .bind (Value.failsByFault_shown value) fun _ => .ok _
  | .not child => by
    rw [Filter.shown]
    exact .bind (Filter.failsByFault_shown child) fun _ => .ok _
  | .group _ children => by
    rw [Filter.shown]
    exact .bind (Filter.failsByFault_shownAll children) fun _ => .ok _
  | .blank => by
    rw [Filter.shown]
    exact .blankNode
  | .foreign value => by
    rw [Filter.shown]
    exact Value.failsByFault_shown value

theorem Filter.failsByFault_shownAll :
    ∀ nodes : List Filter, FailsBy Failure.IsFault (Filter.shownAll nodes)
  | [] => by
    rw [Filter.shownAll]
    exact .ok _
  | node :: nodes => by
    rw [Filter.shownAll]
    exact .bind (Filter.failsByFault_shown node) fun _ =>
      .bind (Filter.failsByFault_shownAll nodes) fun _ => .ok _

end

mutual

theorem Value.failsByFault_text : ∀ value : Value, FailsBy Failure.IsFault value.text
  | .str _ => by
    rw [Value.text]
    exact .ok _
  | .filter node => by
    rw [Value.text]
    exact Filter.failsByFault_text node
  | .null | .bool _ | .int _ | .float _ | .bytes _ | .list _ | .tuple _ | .set _ | .dict _
  | .callback _ _ => by
    rw [Value.text]
    · exact Value.failsByFault_shown _
    all_goals simp

theorem Filter.failsByFault_text : ∀ node : Filter, FailsBy Failure.IsFault node.text
  | .condition _ attr value => by
    rw [Filter.text]
    exact .bind (Value.failsByFault_text attr) fun _ =>
      .bind (Value.failsByFault_text value) fun _ => .ok _
  | .has attr => by
    rw [Filter.text]
    exact .bind (Value.failsByFault_text attr) fun _ => .ok _
  | .raw text => by
    cases text with
    | str s =>
        rw [Filter.text]
        exact .ok _
    | _ =>
        rw [Filter.text]
        · exact .wrongType
        all_goals simp
  | .not child => by
    rw [Filter.text]
    exact .bind (Filter.failsByFault_text child) fun _ => .ok _
  | .group _ children => by
    rw [Filter.text]
    exact .bind (Filter.failsByFault_textAll children) fun _ => .ok _
  | .blank => by
    rw [Filter.text]
    exact .blankNode
  | .foreign value => by
    rw [Filter.text]
    exact Value.failsByFault_text value

theorem Filter.failsByFault_textAll :
    ∀ nodes : List Filter, FailsBy Failure.IsFault (Filter.textAll nodes)
  | [] => by
    rw [Filter.textAll]
    exact .ok _
  | node :: nodes => by
    rw [Filter.textAll]
    exact .bind (Filter.failsByFault_text node) fun _ =>
      .bind (Filter.failsByFault_textAll nodes) fun _ => .ok _

end

theorem Value.failsByFault_note (values : List Value) :
    FailsBy Failure.IsFault (Value.note values) := by
  induction values with
  | nil => exact .ok ()
  | cons value values ih =>
      have hnote : Value.note (value :: values) = (do
          let _ ← value.text
          Value.note values) := by
        unfold Value.note
        rw [List.forIn_cons]
        cases value.text <;> rfl
      rw [hnote]
      exact .bind (Value.failsByFault_text value) fun _ => ih

/-! ## Keys -/

mutual

theorem Value.failsByFault_checkKey : ∀ value : Value, FailsBy Failure.IsFault value.checkKey
  | .null | .bool _ | .int _ | .float _ | .str _ | .bytes _ | .callback _ _ => by
    rw [Value.checkKey]
    · exact .ok _
    all_goals simp
  | .list _ | .set _ | .dict _ => by
    rw [Value.checkKey]
    exact .wrongType
  | .tuple items => by
    rw [Value.checkKey]
    exact Value.failsByFault_checkKeys items
  | .filter node => by
    rw [Value.checkKey]
    exact Filter.failsByFault_checkKey node

theorem Value.failsByFault_checkKeys :
    ∀ values : List Value, FailsBy Failure.IsFault (Value.checkKeys values)
  | [] => by
    rw [Value.checkKeys]
    exact .ok _
  | value :: values => by
    rw [Value.checkKeys]
    exact .bind (Value.failsByFault_checkKey value) fun _ => Value.failsByFault_checkKeys values

theorem Filter.failsByFault_checkKey : ∀ node : Filter, FailsBy Failure.IsFault node.checkKey
  | .condition _ attr value => by
    rw [Filter.checkKey]
    exact .bind (Value.failsByFault_checkKey attr) fun _ => Value.failsByFault_checkKey value
  | .has value | .raw value | .foreign value => by
    rw [Filter.checkKey]
    exact Value.failsByFault_checkKey value
  | .not child => by
    rw [Filter.checkKey]
    exact Filter.failsByFault_checkKey child
  | .group _ children => by
    rw [Filter.checkKey]
    exact Filter.failsByFault_checkKeys children
  | .blank => by
    rw [Filter.checkKey]
    exact .blankNode

theorem Filter.failsByFault_checkKeys :
    ∀ nodes : List Filter, FailsBy Failure.IsFault (Filter.checkKeys nodes)
  | [] => by
    rw [Filter.checkKeys]
    exact .ok _
  | node :: nodes => by
    rw [Filter.checkKeys]
    exact .bind (Filter.failsByFault_checkKey node) fun _ => Filter.failsByFault_checkKeys nodes

end

theorem Value.failsByFault_requireKey (value : Value) : FailsBy Failure.IsFault value.requireKey :=
  .bind (Value.failsByFault_checkKey value) fun _ => .ok value

end Directory
