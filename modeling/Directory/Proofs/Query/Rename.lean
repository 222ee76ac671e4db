import Mathlib.Data.List.TakeWhile
import Directory.Proofs.Query.Chunk

/-!
# The name of a renamed entry

A name is a row of parts with commas between them, and a comma in a part is escaped. The answer of a
renaming has the new part before what follows the first comma of the old name, escaped or not:
`rename_gives_name_iff` says for which names that is the new name of the entry.
-/

namespace Directory.Query

open Directory.Action

/-- Every comma and every backslash is escaped with a backslash, and none of these escapes what is
not there. -/
inductive IsEscaped : List Char → Prop
  | nil : IsEscaped []
  | plain {c : Char} {cs : List Char} (hcomma : c ≠ ',') (hslash : c ≠ '\\')
      (hrest : IsEscaped cs) : IsEscaped (c :: cs)
  | escape {c : Char} {cs : List Char} (hrest : IsEscaped cs) : IsEscaped ('\\' :: c :: cs)

/-- Whether a text is so is seen from the left, one escape or one character at a time. -/
def decideIsEscaped : (cs : List Char) → Decidable (IsEscaped cs)
  | [] => .isTrue .nil
  | [c] =>
    decidable_of_iff (c ≠ ',' ∧ c ≠ '\\')
      ⟨fun h => .plain h.1 h.2 .nil, by rintro ⟨⟩; simp_all⟩
  | c :: d :: cs =>
    if hslash : c = '\\' then
      have := decideIsEscaped cs
      decidable_of_iff (IsEscaped cs) ⟨fun h => hslash ▸ .escape h, by rintro ⟨⟩ <;> simp_all⟩
    else
      have := decideIsEscaped (d :: cs)
      decidable_of_iff (c ≠ ',' ∧ IsEscaped (d :: cs))
        ⟨fun h => .plain h.1 hslash h.2, by rintro ⟨⟩ <;> simp_all⟩

instance (cs : List Char) : Decidable (IsEscaped cs) :=
  decideIsEscaped cs

/-- What the part of a name can be: a text that is not empty, with its commas escaped. -/
structure IsPart (part : String) : Prop where
  ne_empty : part ≠ ""
  isEscaped : IsEscaped part.toList

/-- The name with the given parts. -/
def nameOf (parts : List String) : String :=
  ",".intercalate parts

/-- What stands after the first part of a name, given the name of the rest. -/
def following (rest : List Char) : List Char :=
  if rest = [] then [] else ',' :: rest

/-- What follows the first comma of a text. -/
def afterComma (cs : List Char) : List Char :=
  (cs.dropWhile (· ≠ ',')).drop 1

/-! ## Names -/

section Names

variable {first : String} {others : List String}

theorem nameOf_eq_empty_iff (hparts : ∀ part ∈ others, part ≠ "") :
    nameOf others = "" ↔ others = [] := by
  constructor
  · intro hempty
    match others with
    | [] => rfl
    | [part] =>
        refine absurd ?_ (hparts part List.mem_cons_self)
        simpa [nameOf] using hempty
    | part :: next :: parts =>
        rw [nameOf, String.intercalate_cons_cons, ← String.toList_inj] at hempty
        simp at hempty
  · rintro rfl
    rfl

theorem toList_nameOf_cons (first : String) (hparts : ∀ part ∈ others, part ≠ "") :
    (nameOf (first :: others)).toList = first.toList ++ following (nameOf others).toList := by
  by_cases hothers : others = []
  · subst hothers
    simp [nameOf, following]
  · have hrest : (nameOf others).toList ≠ [] := by
      rw [ne_eq, String.toList_eq_nil_iff, nameOf_eq_empty_iff hparts]
      exact hothers
    rw [following, if_neg hrest, nameOf, String.intercalate_cons_of_ne_nil hothers]
    simp [nameOf]

/-- A comma in a part has the backslash before it that escapes it. -/
theorem IsEscaped.eq_append_slash {before after : List Char}
    (h : IsEscaped (before ++ ',' :: after)) : ∃ start, before = start ++ ['\\'] := by
  generalize hcs : before ++ ',' :: after = cs at h
  induction h generalizing before with
  | nil => simp at hcs
  | @plain c cs hcomma _ _ ih =>
      cases before with
      | nil => exact absurd (List.cons.inj hcs).1.symm hcomma
      | cons b before =>
          obtain ⟨start, rfl⟩ := ih (List.cons.inj hcs).2
          exact ⟨b :: start, rfl⟩
  | @escape c cs _ ih =>
      match before with
      | [] => simp at hcs
      | [b] => exact ⟨[], by simpa using (List.cons.inj hcs).1⟩
      | b :: b' :: before =>
          obtain ⟨start, rfl⟩ := ih (by simpa using (List.cons.inj (List.cons.inj hcs).2).2)
          exact ⟨b :: b' :: start, rfl⟩

end Names

/-! ## The first comma -/

theorem following_inj {rest other : List Char} :
    following rest = following other ↔ rest = other := by
  unfold following
  split <;> split <;> simp_all [eq_comm]

theorem length_following (rest : List Char) :
    (following rest).length = if rest = [] then 0 else rest.length + 1 := by
  unfold following
  split <;> simp

theorem afterComma_append {before : List Char} (rest : List Char) (hbefore : ',' ∉ before) :
    afterComma (before ++ ',' :: rest) = rest := by
  have hall : ∀ c ∈ before, decide (c ≠ ',') = true := by
    intro c hc
    rw [decide_eq_true_iff]
    rintro rfl
    exact hbefore hc
  rw [afterComma, List.dropWhile_append_of_pos hall]
  simp

theorem afterComma_of_not_mem {cs : List Char} (h : ',' ∉ cs) : afterComma cs = [] := by
  have hnil : cs.dropWhile (· ≠ ',') = [] := by
    rw [List.dropWhile_eq_nil_iff]
    intro c hc
    simpa using fun heq : c = ',' => h (heq ▸ hc)
  rw [afterComma, hnil, List.drop_nil]

/-- What follows the first comma is what follows the first part, unless that part has a comma with
something after it. -/
theorem afterComma_eq_iff (part rest : List Char) :
    afterComma (part ++ following rest) = rest ↔
      ∀ before after, part = before ++ ',' :: after → after = [] ∧ rest = [] := by
  by_cases hmem : ',' ∈ part
  · obtain ⟨before, after, rfl, hbefore⟩ := List.eq_append_cons_of_mem hmem
    rw [List.append_assoc, List.cons_append, afterComma_append _ hbefore]
    constructor
    · intro heq before' after' hsame
      -- with something after the comma, more follows it than the rest of the name
      have hlength := congrArg List.length heq
      rw [List.length_append, length_following] at hlength
      split at hlength
      next hrest =>
        rw [hrest, List.length_nil, Nat.add_zero, List.length_eq_zero_iff] at hlength
        rw [hlength] at hsame
        refine ⟨?_, hrest⟩
        rcases List.eq_nil_or_concat after' with rfl | ⟨start, c, rfl⟩
        · rfl
        · rw [List.concat_eq_append, ← List.cons_append, ← List.append_assoc] at hsame
          exact absurd ((List.append_inj' hsame rfl).1 ▸ by simp) hbefore
      next => omega
    · intro h
      obtain ⟨rfl, rfl⟩ := h _ _ rfl
      rfl
  · refine iff_of_true ?_ fun before after heq => absurd (heq ▸ by simp) hmem
    unfold following
    split
    next hrest => rw [hrest, List.append_nil, afterComma_of_not_mem hmem]
    next => exact afterComma_append rest hmem

/-! ## Renaming -/

theorem occursIn_singleton (c : Char) (cs : List Char) :
    Value.occursIn [c] cs = decide (c ∈ cs) := by
  rw [Bool.eq_iff_iff, Value.occursIn_iff, List.singleton_infix_iff, decide_eq_true_iff]

theorem parentOf_str (name : String) :
    parentOf (.str name) = .ok (.str (String.ofList (afterComma name.toList))) := by
  unfold parentOf
  rw [Value.holds, show ",".toList = [','] from rfl, occursIn_singleton]
  by_cases hcomma : ',' ∈ name.toList
  · rw [decide_eq_true hcomma]
    rfl
  · rw [decide_eq_false hcomma, afterComma_of_not_mem hcomma]
    rfl

/-- A new part and what is above it are joined by a comma if there is something above it. -/
theorem join_filter_isTrue {newName : String} (hnew : newName ≠ "") (parent : String) :
    Value.join "," ([.str newName, .str parent].filter Value.isTrue) =
      .ok (String.ofList (newName.toList ++ following parent.toList)) := by
  have htrue {text : String} (hne : text ≠ "") : (Value.str text).isTrue = true :=
    bne_iff_ne.2 hne
  rw [List.filter_cons_of_pos (htrue hnew)]
  by_cases hparent : parent = ""
  · subst hparent
    show Except.ok newName = _
    simp [following]
  · rw [List.filter_cons_of_pos (htrue hparent)]
    show Except.ok (",".intercalate [newName, parent]) = _
    rw [Except.ok.injEq, ← String.toList_inj, following, if_neg (by simpa using hparent)]
    simp

/-- The answer of a renaming that is carried out. -/
theorem exec_rename {name newName : String} {newParent : Option String} {deleteOld answer : Value}
    {start ending : Query × World} (hnew : newName ≠ "")
    (hdone : exec (perform (Transport.rename (.str name) (.str newName)
      ((newParent.map .str).getD .null) deleteOld)) start = (.ok answer, ending)) :
    exec (rename (.str name) (.str newName) ((newParent.map .str).getD .null) deleteOld) start =
      (.ok (.str (String.ofList (newName.toList ++
        following (newParent.elim (afterComma name.toList) String.toList)))), ending) := by
  unfold rename
  rw [exec_bind, hdone]
  cases newParent with
  | none =>
      show exec (liftM (parentOf (.str name)) >>= _) ending = _
      rw [exec_bind, exec_lift, parentOf_str]
      show exec (liftM (Value.join _ _) >>= _) ending = _
      rw [exec_bind, exec_lift, join_filter_isTrue hnew, String.toList_ofList]
      rfl
  | some parent =>
      show exec (liftM (Value.join "," ([.str newName, .str parent].filter Value.isTrue)) >>= _)
        ending = _
      rw [exec_bind, exec_lift, join_filter_isTrue hnew]
      rfl

/-- The answer of a renaming is the new name of the entry, unless the entry stays below the same
parent and its old part has an escaped comma with something after it. -/
theorem rename_gives_name_iff {first newName : String} {others : List String}
    {newParent : Option String} {deleteOld answer : Value} {start ending : Query × World}
    (hparts : ∀ part ∈ first :: others, IsPart part) (hnew : newName ≠ "")
    (hparent : newParent ≠ some "")
    (hdone : exec (perform (Transport.rename (.str (nameOf (first :: others))) (.str newName)
      ((newParent.map .str).getD .null) deleteOld)) start = (.ok answer, ending)) :
    exec (rename (.str (nameOf (first :: others))) (.str newName)
        ((newParent.map .str).getD .null) deleteOld) start =
      (.ok (.str (nameOf (newName :: newParent.elim others fun parent => [parent]))), ending) ↔
    (newParent = none → ∀ before after, first.toList = before ++ '\\' :: ',' :: after →
      after = [] ∧ others = []) := by
  obtain ⟨hfirst, hothers⟩ := List.forall_mem_cons.1 hparts
  have hothers : ∀ part ∈ others, part ≠ "" := fun part hmem => (hothers part hmem).ne_empty
  rw [exec_rename hnew hdone]
  simp only [Prod.mk.injEq, Except.ok.injEq, Value.str.injEq, and_true]
  rw [← String.toList_inj, String.toList_ofList]
  cases newParent with
  | some parent =>
      have hne : ∀ part ∈ [parent], part ≠ "" := by simpa using hparent
      refine iff_of_true ?_ (by simp)
      rw [Option.elim_some, Option.elim_some, toList_nameOf_cons _ hne]
      simp [nameOf]
  | none =>
      rw [Option.elim_none, Option.elim_none, toList_nameOf_cons _ hothers,
        toList_nameOf_cons _ hothers, List.append_cancel_left_eq, following_inj, afterComma_eq_iff]
      simp only [String.toList_eq_nil_iff, nameOf_eq_empty_iff hothers, true_implies]
      constructor
      · exact fun h before after heq => h (before ++ ['\\']) after (by simpa using heq)
      · intro h before after heq
        obtain ⟨start, rfl⟩ := (heq ▸ hfirst.isEscaped).eq_append_slash
        exact h start after (by simpa using heq)

theorem exists_eq_ok_of_isSome {outcome : Except Failure Value × (Query × World)}
    (h : outcome.1.toOption.isSome = true) : ∃ answer ending, outcome = (.ok answer, ending) := by
  obtain ⟨_ | answer, ending⟩ := outcome
  · cases h
  · exact ⟨answer, ending, rfl⟩

/-- An entry below a part with an escaped comma is renamed in place. -/
theorem rename_gives_name_below_escape :
    ∃ answer ending,
      exec (perform (Transport.rename (.str (nameOf ["cn=a", "ou=b\\,c"])) (.str "cn=d") .null
        (.bool true))) (unopened, {}) = (.ok answer, ending) ∧
      exec (rename (.str (nameOf ["cn=a", "ou=b\\,c"])) (.str "cn=d") .null (.bool true))
        (unopened, {}) = (.ok (.str (nameOf ["cn=d", "ou=b\\,c"])), ending) := by
  have hdone : ∃ answer ending,
      exec (perform (Transport.rename (.str (nameOf ["cn=a", "ou=b\\,c"])) (.str "cn=d") .null
        (.bool true))) (unopened, {}) = (.ok answer, ending) :=
    exists_eq_ok_of_isSome (by decide +kernel)
  obtain ⟨answer, ending, hdone⟩ := hdone
  have hparts : ∀ part ∈ ["cn=a", "ou=b\\,c"], IsPart part := by
    simp only [List.forall_mem_cons]
    exact ⟨⟨by decide, by decide⟩, ⟨by decide, by decide⟩, by simp⟩
  have hnew : "cn=d" ≠ "" := by decide
  have hstays : (none : Option String) ≠ some "" := by simp
  refine ⟨answer, ending, hdone, (rename_gives_name_iff hparts hnew hstays hdone).2 ?_⟩
  intro _ before after heq
  exact absurd (congrArg (List.count ',') heq) (by simp)

/-- What follows the escaped comma of the old part is kept in the answer. -/
theorem rename_keeps_escaped_rest :
    (∀ part ∈ ["cn=a\\,b", "dc=x"], IsPart part) ∧
    ∃ answer ending,
      exec (perform (Transport.rename (.str (nameOf ["cn=a\\,b", "dc=x"])) (.str "cn=c") .null
        (.bool true))) (unopened, {}) = (.ok answer, ending) ∧
      exec (rename (.str (nameOf ["cn=a\\,b", "dc=x"])) (.str "cn=c") .null (.bool true))
        (unopened, {}) = (.ok (.str "cn=c,b,dc=x"), ending) ∧
      "cn=c,b,dc=x" ≠ nameOf ["cn=c", "dc=x"] := by
  have hparts : ∀ part ∈ ["cn=a\\,b", "dc=x"], IsPart part := by
    simp only [List.forall_mem_cons]
    exact ⟨⟨by decide, by decide⟩, ⟨by decide, by decide⟩, by simp⟩
  have hdone : ∃ answer ending,
      exec (perform (Transport.rename (.str (nameOf ["cn=a\\,b", "dc=x"])) (.str "cn=c") .null
        (.bool true))) (unopened, {}) = (.ok answer, ending) :=
    exists_eq_ok_of_isSome (by decide +kernel)
  obtain ⟨answer, ending, hdone⟩ := hdone
  have hnew : "cn=c" ≠ "" := by decide
  have hanswer : String.ofList ("cn=c".toList ++
      following (afterComma (nameOf ["cn=a\\,b", "dc=x"]).toList)) = "cn=c,b,dc=x" := by decide
  have hrename := @exec_rename _ _ none _ _ _ _ hnew hdone
  rw [Option.elim_none, hanswer] at hrename
  exact ⟨hparts, answer, ending, hdone, hrename, by decide⟩

end Directory.Query
