import Directory.Failure.Basic

/-!
# Plain answers

What comes of a run with fixed inputs can be computed, but whether an answer is a given one cannot:
a value may be anything. `isPlainly` compares values that are made of texts, truth values and lists,
and failures without details, which is enough for such runs. What it finds alike is the same.
-/

namespace Directory

mutual

/-- Both values are made of texts, truth values and lists, and are the same. -/
def Value.isPlainly : Value → Value → Bool
  | .bool b, .bool other => b == other
  | .str s, .str other => s == other
  | .list items, .list others => Value.arePlainly items others
  | _, _ => false

/-- The values are plainly the others, one by one. -/
def Value.arePlainly : List Value → List Value → Bool
  | [], [] => true
  | item :: items, other :: others => item.isPlainly other && Value.arePlainly items others
  | _, _ => false

end

/-- Both failures have nothing but a kind and a text, and are the same. -/
def Failure.isPlainly (failure other : Failure) : Bool :=
  match failure, other with
  | ⟨kind, text, none, none, []⟩, ⟨otherKind, otherText, none, none, []⟩ =>
    kind == otherKind && text == otherText
  | _, _ => false

/-- The answer is plainly the failure. -/
def failsPlainly {α : Type} (answer : Except Failure α) (failure : Failure) : Bool :=
  match answer with
  | .ok _ => false
  | .error raised => raised.isPlainly failure

mutual

theorem Value.eq_of_isPlainly {value other : Value} (h : value.isPlainly other = true) :
    value = other := by
  match value, other with
  | .bool b, .bool other => exact congrArg Value.bool (eq_of_beq h)
  | .str s, .str other => exact congrArg Value.str (eq_of_beq h)
  | .list items, .list others => exact congrArg Value.list (Value.eq_of_arePlainly h)

theorem Value.eq_of_arePlainly {items others : List Value}
    (h : Value.arePlainly items others = true) : items = others := by
  match items, others with
  | [], [] => rfl
  | item :: items, other :: others =>
      obtain ⟨hitem, hitems⟩ := Bool.and_eq_true_iff.1 h
      rw [Value.eq_of_isPlainly hitem, Value.eq_of_arePlainly hitems]

end

theorem Failure.eq_of_isPlainly {failure other : Failure} (h : failure.isPlainly other = true) :
    failure = other := by
  unfold isPlainly at h
  split at h
  · obtain ⟨hkind, htext⟩ := Bool.and_eq_true_iff.1 h
    rw [eq_of_beq hkind, eq_of_beq htext]
  · cases h

section Answers

variable {α : Type} {answer : Except Failure α}

theorem eq_error_of_failsPlainly {failure : Failure} (h : failsPlainly answer failure = true) :
    answer = .error failure := by
  cases answer with
  | ok result => cases h
  | error raised => exact congrArg Except.error (Failure.eq_of_isPlainly h)

theorem eq_ok_of_toOption {result : α} (h : answer.toOption = some result) :
    answer = .ok result := by
  cases answer with
  | ok given => exact congrArg Except.ok (Option.some.inj h)
  | error failure => cases h

end Answers

end Directory
