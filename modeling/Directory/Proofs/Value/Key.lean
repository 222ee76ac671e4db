import Directory.Proofs.Binary64
import Directory.Value.Equality
import Mathlib.Data.List.Nodup

/-!
# Keys

Keys that are alike have one form in common: a number that is equal to an integer has the form of
the integer, and other keys have that of their parts. So being alike is an equivalence of keys, and
a dictionary whose keys have different forms has no key that is alike to two of them.
-/

namespace Directory

namespace Binary64

variable {x y : Binary64}

/-- The integer that a number is equal to, or the number itself. -/
def keyed (x : Binary64) : Value :=
  if x.isFinite ∧ (x.denominator : Int) ∣ x.signedNumerator then
    .int (x.signedNumerator / x.denominator)
  else .float x

theorem keyed_cases (x : Binary64) : (∃ n, x.keyed = .int n) ∨ x.keyed = .float x := by
  unfold keyed
  split
  · exact .inl ⟨_, rfl⟩
  · exact .inr rfl

theorem sameAsInt_iff (x : Binary64) (n : Int) : x.sameAsInt n = true ↔ x.keyed = .int n := by
  have hpos : (x.denominator : Int) ≠ 0 := Int.natCast_ne_zero.2 x.denominator_pos.ne'
  unfold sameAsInt keyed
  rw [Bool.and_eq_true, beq_iff_eq]
  constructor
  · rintro ⟨hfinite, hvalue⟩
    rw [if_pos ⟨hfinite, hvalue ▸ Dvd.intro_left n rfl⟩, hvalue, Int.mul_ediv_cancel _ hpos]
  · intro h
    split at h
    next hint =>
      cases h
      exact ⟨hint.1, (Int.ediv_mul_cancel hint.2).symm⟩
    next => cases h

theorem keyed_of_isZero (h : x.isZero = true) : x.keyed = .int 0 := by
  rw [← sameAsInt_iff]
  have hnumerator : x.signedNumerator = 0 := by
    rw [← Int.natAbs_eq_zero, natAbs_signedNumerator, numerator_eq_zero_iff, h]
  simp only [isZero, Bool.and_eq_true, beq_iff_eq] at h
  simp [sameAsInt, isFinite, hnumerator, h.1]

/-- Two numbers are alike if and only if they are equal to the same integer or are the same. -/
theorem alike_iff : (x.same y || x == y) = true ↔ x.keyed = y.keyed := by
  rw [Bool.or_eq_true, beq_iff_eq]
  constructor
  · rintro (h | rfl)
    · unfold same at h
      simp only [Bool.and_eq_true, Bool.or_eq_true, beq_iff_eq] at h
      rcases h.2 with hword | ⟨hx, hy⟩
      · cases x
        cases y
        cases hword
        rfl
      · rw [keyed_of_isZero hx, keyed_of_isZero hy]
    · rfl
  · intro h
    rcases y.keyed_cases with ⟨n, hn⟩ | hy
    · have hx := (sameAsInt_iff x n).2 (h.trans hn)
      have hy := (sameAsInt_iff y n).2 hn
      unfold sameAsInt at hx hy
      simp only [Bool.and_eq_true, beq_iff_eq] at hx hy
      have hvalue : x.signedNumerator * y.denominator = y.signedNumerator * x.denominator := by
        rw [hx.2, hy.2]
        exact Int.mul_right_comm _ _ _
      rcases eq_or_isZero hvalue with rfl | ⟨hzero, hother⟩
      · exact .inr rfl
      · left
        simp [same, not_isNaN_of_isFinite hx.1, not_isNaN_of_isFinite hy.1, hzero, hother]
    · rcases x.keyed_cases with ⟨n, hn⟩ | hx
      · rw [hn, hy] at h
        cases h
      · rw [hx, hy] at h
        exact .inr (Value.float.inj h)

end Binary64

mutual

/-- A key in the form that it shares with the keys that it is alike to. -/
def Value.keyed : Value → Value
  | .bool b => .int (if b then 1 else 0)
  | .float x => x.keyed
  | .tuple items => .tuple (Value.keyedAll items)
  | .filter node => .filter node.keyed
  | .callback number _ => .callback number []
  | value => value

/-- Keys in these forms. -/
def Value.keyedAll : List Value → List Value
  | [] => []
  | value :: values => value.keyed :: Value.keyedAll values

/-- A filter in the form that it shares with the filters that it is alike to. -/
def Filter.keyed : Filter → Filter
  | .condition test attr value => .condition test attr.keyed value.keyed
  | .has attr => .has attr.keyed
  | .raw text => .raw text.keyed
  | .not child => .not child.keyed
  | .group junction children => .group junction (Filter.keyedAll children)
  | .blank => .blank
  | .foreign value => .foreign value.keyed

/-- Filters in these forms. -/
def Filter.keyedAll : List Filter → List Filter
  | [] => []
  | node :: nodes => node.keyed :: Filter.keyedAll nodes

end

/-- Two checks in a row pass if both do. -/
theorem checks_eq_ok_iff {first second : Except Failure Unit} :
    (do first; second) = .ok () ↔ first = .ok () ∧ second = .ok () := by
  cases first with
  | error failure => exact iff_of_false (fun h => by cases h) fun h => by cases h.1
  | ok made => exact ⟨fun h => ⟨rfl, h⟩, fun h => h.2⟩

/-- Two comparisons in a row find all alike if both do. -/
theorem comparisons_eq_true_iff {first second : Except Failure Bool} :
    (do if ← first then second else return false) = .ok true ↔
      first = .ok true ∧ second = .ok true := by
  cases first with
  | error failure => exact iff_of_false (fun h => by cases h) fun h => by cases h.1
  | ok isAlike =>
      cases isAlike with
      | true => exact ⟨fun h => ⟨rfl, h⟩, fun h => h.2⟩
      | false => exact iff_of_false (fun h => by cases h) fun h => by cases h.1

mutual

/-- Keys are alike if and only if they have the same form. -/
theorem Value.alike_iff_keyed : ∀ x y : Value, x.checkKey = .ok () → y.checkKey = .ok () →
    (x.alike y = .ok true ↔ x.keyed = y.keyed)
  | .float x, y, _, _ => by
    have hforms := x.keyed_cases
    cases y with
    | bool b => simp [Value.alike, Value.keyed, Value.sameNumber?, Value.asInt?, x.sameAsInt_iff]
    | int n => simp [Value.alike, Value.keyed, Value.sameNumber?, Value.asInt?, x.sameAsInt_iff]
    | float y => simpa [Value.alike, Value.keyed] using Binary64.alike_iff
    | _ =>
        rcases hforms with ⟨n, hn⟩ | hn <;>
          simp [Value.alike, Value.keyed, Value.sameNumber?, Value.asInt?, hn]
  | .bool b, y, _, _ => by
    cases y with
    | float y =>
        simp [Value.alike, Value.keyed, Value.sameNumber?, Value.asInt?, y.sameAsInt_iff, eq_comm]
    | _ => simp [Value.alike, Value.keyed, Value.sameNumber?, Value.asInt?]
  | .int m, y, _, _ => by
    cases y with
    | float y =>
        simp [Value.alike, Value.keyed, Value.sameNumber?, Value.asInt?, y.sameAsInt_iff, eq_comm]
    | _ => simp [Value.alike, Value.keyed, Value.sameNumber?, Value.asInt?]
  | .null, y, _, _ | .str _, y, _, _ | .bytes _, y, _, _ | .callback _ _, y, _, _ => by
    cases y with
    | float y =>
        rcases y.keyed_cases with ⟨n, hn⟩ | hn <;>
          simp [Value.alike, Value.keyed, Value.sameNumber?, Value.asInt?, hn]
    | _ => simp [Value.alike, Value.keyed, Value.sameNumber?, Value.asInt?]
  | .tuple xs, y, hx, hy => by
    cases y with
    | float y =>
        rcases y.keyed_cases with ⟨n, hn⟩ | hn <;>
          simp [Value.alike, Value.keyed, Value.sameNumber?, Value.asInt?, hn]
    | tuple ys =>
        rw [Value.checkKey] at hx hy
        simp [Value.alike, Value.keyed, Value.allAlike_iff_keyed xs ys hx hy]
    | _ => simp [Value.alike, Value.keyed, Value.sameNumber?, Value.asInt?]
  | .filter f, y, hx, hy => by
    cases y with
    | float y =>
        rcases y.keyed_cases with ⟨n, hn⟩ | hn <;>
          simp [Value.alike, Value.keyed, Value.sameNumber?, Value.asInt?, hn]
    | filter g =>
        rw [Value.checkKey] at hx hy
        simp [Value.alike, Value.keyed, Filter.alike_iff_keyed f g hx hy]
    | _ => simp [Value.alike, Value.keyed, Value.sameNumber?, Value.asInt?]
  | .list _, _, hx, _ | .set _, _, hx, _ | .dict _, _, hx, _ => by
    simp [Value.checkKey] at hx

theorem Value.allAlike_iff_keyed : ∀ xs ys : List Value, Value.checkKeys xs = .ok () →
    Value.checkKeys ys = .ok () →
    (Value.allAlike xs ys = .ok true ↔ Value.keyedAll xs = Value.keyedAll ys)
  | [], ys, _, _ => by cases ys <;> simp [Value.allAlike, Value.keyedAll]
  | x :: xs, ys, hx, hy => by
    cases ys with
    | nil => simp [Value.allAlike, Value.keyedAll]
    | cons y ys =>
        rw [Value.checkKeys, checks_eq_ok_iff] at hx hy
        rw [Value.allAlike, comparisons_eq_true_iff, Value.alike_iff_keyed x y hx.1 hy.1,
          Value.allAlike_iff_keyed xs ys hx.2 hy.2, Value.keyedAll, Value.keyedAll, List.cons.injEq]

/-- Filters that can be keys are alike if and only if they have the same form. -/
theorem Filter.alike_iff_keyed : ∀ f g : Filter, f.checkKey = .ok () → g.checkKey = .ok () →
    (f.alike g = .ok true ↔ f.keyed = g.keyed)
  | .condition s a v, g, hf, hg => by
    cases g with
    | condition t b w =>
        rw [Filter.checkKey, checks_eq_ok_iff] at hf hg
        rw [Filter.alike]
        by_cases heq : s = t
        · simp only [heq, ne_eq, not_true, if_false]
          refine comparisons_eq_true_iff.trans ?_
          rw [Value.alike_iff_keyed a b hf.1 hg.1, Value.alike_iff_keyed v w hf.2 hg.2]
          simp [Filter.keyed]
        · simp [heq, Filter.keyed, pure, Except.pure]
    | _ => simp [Filter.alike, Filter.keyed]
  | .has a, g, hf, hg => by
    cases g with
    | has b =>
        rw [Filter.checkKey] at hf hg
        simp [Filter.alike, Filter.keyed, Value.alike_iff_keyed a b hf hg]
    | _ => simp [Filter.alike, Filter.keyed]
  | .raw s, g, hf, hg => by
    cases g with
    | raw t =>
        rw [Filter.checkKey] at hf hg
        simp [Filter.alike, Filter.keyed, Value.alike_iff_keyed s t hf hg]
    | _ => simp [Filter.alike, Filter.keyed]
  | .not f, g, hf, hg => by
    cases g with
    | not g =>
        rw [Filter.checkKey] at hf hg
        simp [Filter.alike, Filter.keyed, Filter.alike_iff_keyed f g hf hg]
    | _ => simp [Filter.alike, Filter.keyed]
  | .group j fs, g, hf, hg => by
    cases g with
    | group k gs =>
        rw [Filter.checkKey] at hf hg
        rw [Filter.alike]
        split
        next heq => simp [heq, Filter.keyed, Filter.allAlike_iff_keyed fs gs hf hg]
        next hne => simp [hne, Filter.keyed]
    | _ => simp [Filter.alike, Filter.keyed]
  | .blank, _, hf, _ => by simp [Filter.checkKey] at hf
  | .foreign v, g, hf, hg => by
    cases g with
    | foreign w =>
        rw [Filter.checkKey] at hf hg
        simp [Filter.alike, Filter.keyed, Value.alike_iff_keyed v w hf hg]
    | _ => simp [Filter.alike, Filter.keyed]

theorem Filter.allAlike_iff_keyed : ∀ fs gs : List Filter, Filter.checkKeys fs = .ok () →
    Filter.checkKeys gs = .ok () →
    (Filter.allAlike fs gs = .ok true ↔ Filter.keyedAll fs = Filter.keyedAll gs)
  | [], gs, _, _ => by cases gs <;> simp [Filter.allAlike, Filter.keyedAll]
  | f :: fs, gs, hf, hg => by
    cases gs with
    | nil => simp [Filter.allAlike, Filter.keyedAll]
    | cons g gs =>
        rw [Filter.checkKeys, checks_eq_ok_iff] at hf hg
        rw [Filter.allAlike, comparisons_eq_true_iff, Filter.alike_iff_keyed f g hf.1 hg.1,
          Filter.allAlike_iff_keyed fs gs hf.2 hg.2, Filter.keyedAll, Filter.keyedAll,
          List.cons.injEq]

end

namespace Value

variable {x y : Value}

theorem same_iff_keyed (hx : x.checkKey = .ok ()) (hy : y.checkKey = .ok ()) :
    x.same y = true ↔ x.keyed = y.keyed := by
  rw [← alike_iff_keyed x y hx hy, same]
  cases x.alike y with
  | error failure => simp
  | ok isAlike => simp

theorem requireKey_eq_ok_iff {key : Value} :
    x.requireKey = .ok key ↔ x.checkKey = .ok () ∧ x = key := by
  unfold requireKey
  cases x.checkKey with
  | error failure => exact iff_of_false (fun h => by cases h) fun h => by cases h.1
  | ok made => exact ⟨fun h => ⟨rfl, Except.ok.inj h⟩, fun h => congrArg Except.ok h.2⟩

end Value

/-! ## Dictionaries -/

/-- The keys of a dictionary: each of them can be a key, and no two have the same form. -/
structure IsDictionary {α : Type} (entries : List (Value × α)) : Prop where
  keys : ∀ entry ∈ entries, entry.1.checkKey = .ok ()
  distinct : (entries.map fun entry => entry.1.keyed).Nodup

namespace IsDictionary

variable {α : Type} {entries : List (Value × α)} {key : Value} {item : α}

theorem nil : IsDictionary ([] : List (Value × α)) :=
  ⟨by simp, by simp⟩

/-- Entries under keys that are alike to the same key are the same entry. -/
theorem eq_of_same (h : IsDictionary entries) (hkey : key.checkKey = .ok ())
    {entry other : Value × α} (hentry : entry ∈ entries) (hother : other ∈ entries)
    (hsame : entry.1.same key = true) (halso : other.1.same key = true) : entry = other := by
  rw [Value.same_iff_keyed (h.keys _ hentry) hkey] at hsame
  rw [Value.same_iff_keyed (h.keys _ hother) hkey] at halso
  exact List.inj_on_of_nodup_map h.distinct hentry hother (hsame.trans halso.symm)

/-- What is found under a key is the entry whose key is alike to it. -/
theorem lookup?_eq_some (h : IsDictionary entries) (hkey : key.checkKey = .ok ())
    {entry : Value × α} (hentry : entry ∈ entries) (hsame : entry.1.same key = true) :
    Value.lookup? entries key = some entry.2 := by
  cases hfind : entries.find? fun other => other.1.same key with
  | none =>
      have hnone := List.find?_eq_none.1 hfind entry hentry
      exact absurd hsame hnone
  | some other =>
      have hother := List.mem_of_find?_eq_some hfind
      have halso := List.find?_some hfind
      rw [Value.lookup?, hfind, h.eq_of_same hkey hentry hother hsame halso]
      rfl

theorem filter (h : IsDictionary entries) (keep : Value × α → Bool) :
    IsDictionary (entries.filter keep) where
  keys := fun entry hmem => h.keys entry (List.mem_of_mem_filter hmem)
  distinct := h.distinct.sublist (List.filter_sublist.map _)

/-- A dictionary stays one when an entry is put into it. -/
theorem insert (h : IsDictionary entries) (hkey : key.checkKey = .ok ()) (item : α) :
    IsDictionary (Value.insert entries key item) := by
  unfold Value.insert
  split
  next =>
    -- the keys stay as they are
    have hfst (entry : Value × α) :
        (if entry.1.same key then (entry.1, item) else entry).1 = entry.1 := by
      split <;> rfl
    constructor
    · intro changed hmem
      obtain ⟨entry, hentry, rfl⟩ := List.mem_map.1 hmem
      rw [hfst]
      exact h.keys entry hentry
    · rw [List.map_map]
      simpa only [Function.comp_def, hfst] using h.distinct
  next hnone =>
    constructor
    · intro entry hmem
      rcases List.mem_append.1 hmem with hentry | hnew
      · exact h.keys entry hentry
      · rw [List.mem_singleton.1 hnew]
        exact hkey
    · rw [List.map_append, List.map_singleton, List.nodup_append]
      refine ⟨h.distinct, List.nodup_singleton _, ?_⟩
      intro form hform other hother heq
      obtain ⟨entry, hentry, rfl⟩ := List.mem_map.1 hform
      rw [List.mem_singleton.1 hother, ← Value.same_iff_keyed (h.keys entry hentry) hkey] at heq
      exact hnone (List.any_eq_true.2 ⟨entry, hentry, heq⟩)

theorem foldl_insert (h : IsDictionary entries) {others : List (Value × α)}
    (hkeys : ∀ entry ∈ others, entry.1.checkKey = .ok ()) :
    IsDictionary (others.foldl (fun all entry => Value.insert all entry.1 entry.2) entries) := by
  induction others generalizing entries with
  | nil => exact h
  | cons entry others ih =>
      rw [List.forall_mem_cons] at hkeys
      exact ih (h.insert hkeys.1 entry.2) hkeys.2

end IsDictionary

/-! ## Looking up what was put in -/

namespace Value

variable {α : Type} {entries base : List (Value × α)} {key other : Value} {item : α}

theorem lookup?_cons (entry : Value × α) (entries : List (Value × α)) (key : Value) :
    lookup? (entry :: entries) key =
      if entry.1.same key then some entry.2 else lookup? entries key := by
  unfold lookup?
  rw [List.find?_cons]
  cases entry.1.same key <;> rfl

theorem isSome_lookup?_iff :
    (lookup? entries key).isSome ↔ ∃ entry ∈ entries, entry.1.same key = true := by
  rw [lookup?, Option.isSome_map, List.find?_isSome]

theorem lookup?_map_same (hkeys : ∀ entry ∈ entries, entry.1.checkKey = .ok ())
    (hkey : key.checkKey = .ok ()) (hother : other.checkKey = .ok ()) :
    lookup? (entries.map fun entry => if entry.1.same key then (entry.1, item) else entry) other =
      if key.same other then (lookup? entries other).map fun _ => item
      else lookup? entries other := by
  have hsame := same_iff_keyed hkey hother
  induction entries with
  | nil => simp [lookup?]
  | cons entry entries ih =>
      rw [List.forall_mem_cons] at hkeys
      have hentry := same_iff_keyed hkeys.1 hkey
      have halso := same_iff_keyed hkeys.1 hother
      rw [List.map_cons, lookup?_cons, lookup?_cons, ih hkeys.2]
      grind

/-- What was put into a dictionary is found under its key, and nothing else changes. -/
theorem lookup?_insert (hkeys : ∀ entry ∈ entries, entry.1.checkKey = .ok ())
    (hkey : key.checkKey = .ok ()) (hother : other.checkKey = .ok ()) :
    lookup? (insert entries key item) other =
      if key.same other then some item else lookup? entries other := by
  have hsame := same_iff_keyed hkey hother
  have hfound : key.same other = true →
      ((lookup? entries other).isSome ↔ ∃ entry ∈ entries, entry.1.same key = true) := by
    intro heq
    rw [isSome_lookup?_iff]
    refine exists_congr fun entry => and_congr_right fun hentry => ?_
    rw [same_iff_keyed (hkeys entry hentry) hkey, same_iff_keyed (hkeys entry hentry) hother,
      hsame.1 heq]
  unfold insert
  split
  next hany =>
    rw [lookup?_map_same hkeys hkey hother]
    split
    next heq =>
      obtain ⟨found, hlookup⟩ :=
        Option.isSome_iff_exists.1 ((hfound heq).2 (List.any_eq_true.1 hany))
      rw [hlookup]
      rfl
    next => rfl
  next hnone =>
    have happend : lookup? (entries ++ [(key, item)]) other =
        (lookup? entries other).or (if key.same other then some item else none) := by
      rw [lookup?, List.find?_append, Option.map_or, ← lookup?, ← lookup?, lookup?_cons]
      rfl
    rw [happend]
    split
    next heq =>
      have hlookup : lookup? entries other = none :=
        Option.not_isSome_iff_eq_none.1 fun h => hnone (List.any_eq_true.2 ((hfound heq).1 h))
      rw [hlookup, Option.none_or]
    next => rw [Option.or_none]

theorem checkKey_insert (hkeys : ∀ entry ∈ entries, entry.1.checkKey = .ok ())
    (hkey : key.checkKey = .ok ()) :
    ∀ entry ∈ insert entries key item, entry.1.checkKey = .ok () := by
  unfold insert
  split
  · rw [List.forall_mem_map]
    intro entry hentry
    split <;> exact hkeys entry hentry
  · rw [List.forall_mem_append, List.forall_mem_singleton]
    exact ⟨hkeys, hkey⟩

theorem checkKey_foldl_insert (hkeys : ∀ entry ∈ entries, entry.1.checkKey = .ok ())
    (hbase : ∀ entry ∈ base, entry.1.checkKey = .ok ()) :
    ∀ entry ∈ entries.foldl (fun all entry => insert all entry.1 entry.2) base,
      entry.1.checkKey = .ok () := by
  induction entries generalizing base with
  | nil => exact hbase
  | cons entry entries ih =>
      rw [List.forall_mem_cons] at hkeys
      exact ih hkeys.2 (checkKey_insert hbase hkeys.1)

/-- What is put into a dictionary goes before what was there. -/
theorem lookup?_foldl_insert (hentries : IsDictionary entries)
    (hbase : ∀ entry ∈ base, entry.1.checkKey = .ok ()) (hkey : key.checkKey = .ok ()) :
    lookup? (entries.foldl (fun all entry => insert all entry.1 entry.2) base) key =
      (lookup? entries key).or (lookup? base key) := by
  induction entries generalizing base with
  | nil => rfl
  | cons entry entries ih =>
      have hfirst := hentries.keys entry List.mem_cons_self
      have hcons := hentries.distinct
      rw [List.map_cons, List.nodup_cons] at hcons
      have hrest : IsDictionary entries :=
        ⟨fun other hother => hentries.keys other (List.mem_cons_of_mem _ hother), hcons.2⟩
      rw [List.foldl_cons, ih hrest (checkKey_insert hbase hfirst),
        lookup?_insert hbase hfirst hkey, lookup?_cons]
      split
      next hsame =>
        -- no later entry is under this key
        have hnone : lookup? entries key = none := by
          refine Option.not_isSome_iff_eq_none.1 fun h => ?_
          obtain ⟨other, hother, halso⟩ := isSome_lookup?_iff.1 h
          rw [same_iff_keyed hfirst hkey] at hsame
          rw [same_iff_keyed (hrest.keys other hother) hkey] at halso
          exact hcons.1 (List.mem_map.2 ⟨other, hother, halso.trans hsame.symm⟩)
        rw [hnone]
        rfl
      next => rfl

end Value

end Directory
