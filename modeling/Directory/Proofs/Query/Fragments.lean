import Mathlib.Data.List.Basic
import Mathlib.Tactic.Tauto
import Directory.Proofs.Query.Meaning

/-!
# What becomes of fragments

Fragments are added, read and removed by calls that name a bucket, and a call may fail. `kept` says
which nodes were accepted and not removed since, without looking into the buckets. `LosesNothing`
says that there are three buckets and that every kept node is combined, in its place. That holds
just when a bucket that does not exist was never cleared, or all buckets were cleared afterwards:
clearing such a bucket brings it into existence, and what it takes is not combined.
-/

namespace Directory

namespace Bucket

/-- The buckets, in the order in which they are combined. -/
def ordered : List Bucket :=
  [.raw, .all, .any]

theorem ofValue?_eq_some_iff {value : Value} {bucket : Bucket} :
    ofValue? value = some bucket ↔ value = .str bucket.name := by
  constructor
  · intro h
    have hname : value.isStr bucket.name = true :=
      List.find?_some (p := fun bucket : Bucket => value.isStr bucket.name) h
    exact Value.eq_of_isStr hname
  · rintro rfl
    exact bucket.ofValue?_name

theorem ofValue?_eq_none_iff {value : Value} :
    ofValue? value = none ↔ ∀ bucket : Bucket, value ≠ .str bucket.name := by
  rw [Option.eq_none_iff_forall_ne_some]
  exact forall_congr' fun bucket => not_congr ofValue?_eq_some_iff

theorem isStr_name (bucket other : Bucket) :
    (Value.str bucket.name).isStr other.name = decide (other = bucket) := by
  cases bucket <;> cases other <;> decide

end Bucket

namespace Value

/-- Only a text is the same as a text. -/
theorem same_str_iff {value : Value} {s : String} :
    value.same (.str s) = true ↔ value = .str s := by
  cases value with
  | str t => simp [same_str]
  | _ => simp [same, alike, sameNumber?, asInt?]

theorem isStr_iff {value : Value} {s : String} : value.isStr s = true ↔ value = .str s :=
  ⟨eq_of_isStr, fun h => h ▸ beq_self_eq_true s⟩

theorem insert_ne_nil {α : Type} (entries : List (Value × α)) (key : Value) (item : α) :
    insert entries key item ≠ [] := by
  unfold insert
  split
  next hany =>
    rintro hnil
    rw [List.map_eq_nil_iff.1 hnil] at hany
    cases hany
  next => simp

end Value

namespace Fragments

/-! ## Calls -/

/-- A call on the fragments. Without a bucket, which is `null`, all of them are read or cleared. -/
inductive Call where
  | add (node : Filter) (isNode : node.isNode = true) (bucket : Value)
  | get (bucket : Value)
  | clear (bucket : Value)

namespace Call

/-- The fragments after a call, unless it fails. -/
def run (fragments : Fragments) : Call → Except Failure Fragments
  | .add node _ bucket => fragments.add node bucket
  | .get .null => .ok fragments
  | .get bucket => do
    let _ ← fragments.get bucket
    return fragments
  | .clear .null => .ok {}
  | .clear bucket => fragments.clear bucket

/-- The nodes that are kept after a call that did not fail, each with the bucket that it was added
to. -/
def remember (kept : List (Value × Filter)) : Call → List (Value × Filter)
  | .add node _ bucket => kept ++ [(bucket, node)]
  | .get _ => kept
  | .clear .null => []
  | .clear bucket => kept.filter fun entry => !bucket.same entry.1

/-- The call clears a bucket that does not exist. -/
def IsStray : Call → Prop
  | .clear bucket => bucket ≠ .null ∧ bucket.checkKey = .ok () ∧ Bucket.ofValue? bucket = none
  | _ => False

end Call

/-- The fragments and the kept nodes after calls. A call that fails is passed over. -/
def course : List Call → Fragments × List (Value × Filter) → Fragments × List (Value × Filter)
  | [], state => state
  | call :: calls, (fragments, kept) =>
    match call.run fragments with
    | .ok changed => course calls (changed, call.remember kept)
    | .error _ => course calls (fragments, kept)

/-- The fragments after calls. -/
def after (calls : List Call) : Fragments :=
  (course calls ({}, [])).1

/-- The nodes that were accepted and that no later call removed, each with the bucket that it was
added to, in order of addition. -/
def kept (calls : List Call) : List (Value × Filter) :=
  (course calls ({}, [])).2

/-- The nodes among the kept ones that were added to a bucket. -/
def keptIn (bucket : Bucket) (kept : List (Value × Filter)) : List Filter :=
  (kept.filter fun entry => entry.1.isStr bucket.name).map Prod.snd

/-- Nodes under a junction: no node, a single node as it is, or a group. -/
def joined (junction : Junction) : List Filter → Option Filter
  | [] => none
  | [node] => some node
  | nodes => some (.group junction nodes)

/-- There are three buckets, every kept node is in one place of the combined filter, in which the
raw ones come first, then the plain ones and then the alternatives as one node, and there is no
combined filter just when the fragments are empty. -/
structure LosesNothing (calls : List Call) : Prop where
  buckets : (after calls).entries.map Prod.fst = Bucket.ordered.map fun bucket => .str bucket.name
  toFilter? : (after calls).toFilter? = joined .all (keptIn .raw (kept calls) ++
    keptIn .all (kept calls) ++ (joined .any (keptIn .any (kept calls))).toList)
  perm : (Bucket.ordered.flatMap fun bucket => keptIn bucket (kept calls)).Perm
    ((kept calls).map Prod.snd)
  isEmpty : (after calls).isEmpty = true ↔ (after calls).toFilter? = none

/-- Whenever a bucket that does not exist is cleared, all buckets are cleared later. -/
def Settled : List Call → Prop
  | [] => True
  | call :: calls => (call.IsStray → .clear .null ∈ calls) ∧ Settled calls

/-! ## What a call does -/

variable {fragments : Fragments} {nodes : List (Value × Filter)}

/-- The buckets hold the kept nodes, and nodes are kept elsewhere only if there are other
buckets. -/
structure Holds (fragments : Fragments) (nodes : List (Value × Filter)) : Prop where
  buckets : ∀ bucket, fragments.bucket bucket = keptIn bucket nodes
  others : fragments.others = [] → ∀ entry ∈ nodes, ∃ bucket : Bucket, entry.1 = .str bucket.name
  areNodes : ∀ entry ∈ nodes, entry.2.isNode = true

theorem holds_nil : Holds {} [] where
  buckets := by
    intro bucket
    cases bucket <;> rfl
  others := fun _ _ hmem => nomatch hmem
  areNodes := fun _ hmem => nomatch hmem

theorem keptIn_append (bucket : Bucket) (nodes more : List (Value × Filter)) :
    keptIn bucket (nodes ++ more) = keptIn bucket nodes ++ keptIn bucket more := by
  simp [keptIn]

/-- A node is in the bucket that it was added to and in no other. -/
theorem keptIn_singleton (bucket : Bucket) (value : Value) (node : Filter) :
    keptIn bucket [(value, node)] = if value.isStr bucket.name then [node] else [] := by
  unfold keptIn
  cases hname : value.isStr bucket.name with
  | false => simp [hname]
  | true => simp [hname]

/-- Removing the nodes of a bucket empties that bucket and no other. -/
theorem keptIn_filter (bucket : Bucket) (value : Value) (nodes : List (Value × Filter)) :
    keptIn bucket (nodes.filter fun entry => !value.same entry.1) =
      if value.isStr bucket.name then [] else keptIn bucket nodes := by
  have hsame (entry : Value × Filter) (hentry : entry.1.isStr bucket.name = true) :
      value.same entry.1 = value.isStr bucket.name := by
    rw [Value.isStr_iff.1 hentry, Bool.eq_iff_iff, Value.same_str_iff, Value.isStr_iff]
  unfold keptIn
  rw [List.filter_filter]
  cases hname : value.isStr bucket.name with
  | true =>
      rw [if_pos rfl, List.map_eq_nil_iff, List.filter_eq_nil_iff]
      intro entry _ hentry
      rw [Bool.and_eq_true] at hentry
      simp [hsame entry hentry.1, hname] at hentry
  | false =>
      refine congrArg (List.map Prod.snd) (List.filter_congr fun entry _ => ?_)
      cases hentry : entry.1.isStr bucket.name with
      | false => rfl
      | true => simp [hsame entry hentry, hname]

theorem bucket_push (fragments : Fragments) (own bucket : Bucket) (node : Filter) :
    (fragments.push own node).bucket bucket =
      fragments.bucket bucket ++ if bucket = own then [node] else [] := by
  split
  next heq => rw [heq, bucket_push_self]
  next hne => rw [bucket_push_of_ne fragments node hne, List.append_nil]

theorem bucket_setBucket_nil (fragments : Fragments) (own bucket : Bucket) :
    (fragments.setBucket own []).bucket bucket =
      if bucket = own then [] else fragments.bucket bucket := by
  cases own <;> cases bucket <;> rfl

theorem others_setBucket (fragments : Fragments) (own : Bucket) (nodes : List Filter) :
    (fragments.setBucket own nodes).others = fragments.others := by
  cases own <;> rfl

/-- A call of a bucket whose name cannot be a key fails. -/
theorem requireKey_eq (value : Value) : value.requireKey = value.checkKey.map fun _ => value := by
  unfold Value.requireKey
  cases value.checkKey <;> rfl

/-- A node is added to the bucket that is named, or to another one that was brought into
existence. -/
theorem add_eq_ok {node : Filter} {value : Value} {changed : Fragments}
    (h : fragments.add node value = .ok changed) :
    (∃ own : Bucket, value = .str own.name ∧ changed = fragments.push own node) ∨
      (Bucket.ofValue? value = none ∧ fragments.others ≠ [] ∧ changed.others ≠ [] ∧
        ∀ bucket, changed.bucket bucket = fragments.bucket bucket) := by
  unfold add at h
  rw [requireKey_eq] at h
  cases hkey : value.checkKey with
  | error failure => rw [hkey] at h; cases h
  | ok key =>
      rw [hkey] at h
      dsimp only [Except.map, Bind.bind, Except.bind] at h
      cases hown : Bucket.ofValue? value with
      | some own =>
          rw [hown] at h
          cases h
          exact .inl ⟨own, Bucket.ofValue?_eq_some_iff.1 hown, rfl⟩
      | none =>
          rw [hown] at h
          dsimp only at h
          cases hnodes : Value.lookup? fragments.others value with
          | some nodes =>
              rw [hnodes] at h
              cases h
              refine .inr ⟨rfl, ?_, Value.insert_ne_nil _ _ _, fun bucket => ?_⟩
              · intro hnil
                rw [hnil] at hnodes
                cases hnodes
              · cases bucket <;> rfl
          | none =>
              rw [hnodes] at h
              dsimp only at h
              cases htext : value.text <;> rw [htext] at h <;> cases h

/-- The bucket that is named is emptied, or another one is brought into existence. -/
theorem clear_eq_ok {value : Value} {changed : Fragments}
    (h : fragments.clear value = .ok changed) :
    value.checkKey = .ok () ∧
      ((∃ own : Bucket, value = .str own.name ∧ changed = fragments.setBucket own []) ∨
        (Bucket.ofValue? value = none ∧ changed.others ≠ [] ∧
          ∀ bucket, changed.bucket bucket = fragments.bucket bucket)) := by
  unfold clear at h
  rw [requireKey_eq] at h
  cases hkey : value.checkKey with
  | error failure => rw [hkey] at h; cases h
  | ok key =>
      rw [hkey] at h
      dsimp only [Except.map, Bind.bind, Except.bind] at h
      refine ⟨rfl, ?_⟩
      cases hown : Bucket.ofValue? value with
      | some own =>
          rw [hown] at h
          cases h
          exact .inl ⟨own, Bucket.ofValue?_eq_some_iff.1 hown, rfl⟩
      | none =>
          rw [hown] at h
          cases h
          refine .inr ⟨rfl, Value.insert_ne_nil _ _ _, fun bucket => ?_⟩
          cases bucket <;> rfl

theorem run_clear {value : Value} (h : value ≠ .null) (fragments : Fragments) :
    (Call.clear value).run fragments = fragments.clear value := by
  cases value <;> first | rfl | exact absurd rfl h

theorem remember_clear {value : Value} (h : value ≠ .null) (nodes : List (Value × Filter)) :
    (Call.clear value).remember nodes = nodes.filter fun entry => !value.same entry.1 := by
  cases value <;> first | rfl | exact absurd rfl h

theorem run_get {value : Value} {changed : Fragments}
    (h : (Call.get value).run fragments = .ok changed) : changed = fragments := by
  by_cases hnull : value = .null
  · rw [hnull] at h
    cases h
    rfl
  · have hrun : (Call.get value).run fragments =
        (fragments.get value).bind fun _ => .ok fragments := by
      cases value <;> first | rfl | exact absurd rfl hnull
    rw [hrun] at h
    cases hnodes : fragments.get value with
    | error failure => rw [hnodes] at h; cases h
    | ok nodes => rw [hnodes] at h; cases h; rfl

/-- What holds the kept nodes before a call holds them after it. -/
theorem Holds.run (h : Holds fragments nodes) {call : Call} {changed : Fragments}
    (hrun : call.run fragments = .ok changed) : Holds changed (call.remember nodes) := by
  cases call with
  | add node isNode value =>
      have hnodes : ∀ entry ∈ nodes ++ [(value, node)], entry.2.isNode = true := by
        intro entry hmem
        rcases List.mem_append.1 hmem with hbefore | hnew
        · exact h.areNodes entry hbefore
        · exact List.mem_singleton.1 hnew ▸ isNode
      rcases add_eq_ok hrun with ⟨own, rfl, rfl⟩ | ⟨hunknown, -, hothers, hbuckets⟩
      · refine ⟨fun bucket => ?_, fun hnil entry hmem => ?_, hnodes⟩
        · rw [bucket_push, h.buckets, Call.remember, keptIn_append, keptIn_singleton,
            Bucket.isStr_name]
          simp
        · have hbefore : fragments.others = [] := by
            rwa [push, others_setBucket] at hnil
          rcases List.mem_append.1 hmem with hkept | hnew
          · exact h.others hbefore entry hkept
          · exact ⟨own, by rw [List.mem_singleton.1 hnew]⟩
      · refine ⟨fun bucket => ?_, fun hnil => absurd hnil hothers, hnodes⟩
        have hname : value.isStr bucket.name = false :=
          Bool.eq_false_iff.2 fun hstr =>
            Bucket.ofValue?_eq_none_iff.1 hunknown bucket (Value.isStr_iff.1 hstr)
        rw [hbuckets, h.buckets, Call.remember, keptIn_append, keptIn_singleton, hname]
        simp
  | get value =>
      rw [run_get hrun]
      exact h
  | clear value =>
      by_cases hnull : value = .null
      · rw [hnull] at hrun ⊢
        cases hrun
        exact holds_nil
      rw [run_clear hnull] at hrun
      rw [remember_clear hnull]
      have hnodes : ∀ entry ∈ nodes.filter fun entry => !value.same entry.1,
          entry.2.isNode = true :=
        fun entry hmem => h.areNodes entry (List.mem_of_mem_filter hmem)
      obtain ⟨-, ⟨own, rfl, rfl⟩ | ⟨hunknown, hothers, hbuckets⟩⟩ := clear_eq_ok hrun
      · refine ⟨fun bucket => ?_, fun hnil entry hmem => ?_, hnodes⟩
        · rw [bucket_setBucket_nil, keptIn_filter, h.buckets, Bucket.isStr_name]
          simp
        · rw [others_setBucket] at hnil
          exact h.others hnil entry (List.mem_of_mem_filter hmem)
      · refine ⟨fun bucket => ?_, fun hnil => absurd hnil hothers, hnodes⟩
        have hname : value.isStr bucket.name = false :=
          Bool.eq_false_iff.2 fun hstr =>
            Bucket.ofValue?_eq_none_iff.1 hunknown bucket (Value.isStr_iff.1 hstr)
        rw [hbuckets, h.buckets, keptIn_filter, hname]
        simp

/-- After a call there are no other buckets if it cleared all of them, or if there were none and it
did not bring one into existence. -/
theorem others_run_iff {call : Call} {changed : Fragments}
    (hrun : call.run fragments = .ok changed) :
    changed.others = [] ↔ call = .clear .null ∨ (¬ call.IsStray ∧ fragments.others = []) := by
  cases call with
  | add node isNode value =>
      rcases add_eq_ok hrun with ⟨own, rfl, rfl⟩ | ⟨-, hbefore, hafter, -⟩
      · simp [push, others_setBucket, Call.IsStray]
      · simp [hbefore, hafter]
  | get value =>
      rw [run_get hrun]
      simp [Call.IsStray]
  | clear value =>
      by_cases hnull : value = .null
      · rw [hnull] at hrun ⊢
        cases hrun
        simp
      rw [run_clear hnull] at hrun
      obtain ⟨hkey, ⟨own, rfl, rfl⟩ | ⟨hunknown, hafter, -⟩⟩ := clear_eq_ok hrun
      · simp [others_setBucket, Call.IsStray, Bucket.ofValue?_name]
      · simp [hnull, hafter, Call.IsStray, hkey, hunknown]

/-- Clearing a bucket does not fail if its name can be a key. -/
theorem exists_run_clear {call : Call} (h : call = .clear .null ∨ call.IsStray)
    (fragments : Fragments) : ∃ changed, call.run fragments = .ok changed := by
  cases call with
  | clear value =>
      rcases h with heq | ⟨hnull, hkey, hunknown⟩
      · cases heq
        exact ⟨_, rfl⟩
      · rw [run_clear hnull]
        unfold clear
        rw [requireKey_eq, hkey]
        dsimp only [Except.map, Bind.bind, Except.bind]
        rw [hunknown]
        exact ⟨_, rfl⟩
  | add node isNode value => rcases h with heq | hstray <;> contradiction
  | get value => rcases h with heq | hstray <;> contradiction

/-! ## What calls do -/

/-- What holds the kept nodes before calls holds them after the calls. -/
theorem Holds.course (calls : List Call) (h : Holds fragments nodes) :
    Holds (course calls (fragments, nodes)).1 (course calls (fragments, nodes)).2 := by
  induction calls generalizing fragments nodes with
  | nil => exact h
  | cons call calls ih =>
      rw [Fragments.course]
      cases hrun : call.run fragments with
      | ok changed => exact ih (h.run hrun)
      | error failure => exact ih h

/-- There are no other buckets after calls just when the calls are settled and there were none
before or all buckets were cleared. -/
theorem others_course_iff (calls : List Call) :
    (course calls (fragments, nodes)).1.others = [] ↔
      (fragments.others = [] ∨ .clear .null ∈ calls) ∧ Settled calls := by
  induction calls generalizing fragments nodes with
  | nil => simp [course, Settled]
  | cons call calls ih =>
      have hstray : call = .clear .null → ¬ call.IsStray := by
        rintro rfl hstray
        exact hstray.1 rfl
      rw [course, Settled, List.mem_cons, eq_comm (a := Call.clear .null)]
      cases hrun : call.run fragments with
      | ok changed =>
          dsimp only
          rw [ih, others_run_iff hrun]
          tauto
      | error failure =>
          have hnone : ¬ (call = .clear .null ∨ call.IsStray) := by
            intro hclears
            obtain ⟨changed, hchanged⟩ := exists_run_clear hclears fragments
            cases hrun.symm.trans hchanged
          dsimp only
          rw [ih]
          tauto

/-! ## Combining -/

theorem combined_eq_joined (fragments : Fragments) :
    fragments.combined = joined .all (fragments.raw ++ fragments.all ++
      (joined .any fragments.any).toList) := by
  have halternatives : fragments.alternatives = (joined .any fragments.any).toList := by
    unfold alternatives
    match fragments.any with
    | [] => rfl
    | [_] => rfl
    | _ :: _ :: _ => rfl
  unfold combined
  rw [halternatives]
  match fragments.raw ++ fragments.all ++ (joined .any fragments.any).toList with
  | [] => rfl
  | [_] => rfl
  | _ :: _ :: _ => rfl

/-- Nodes that were added to the three buckets are in the three buckets. -/
theorem perm_keptIn (h : ∀ entry ∈ nodes, ∃ bucket : Bucket, entry.1 = .str bucket.name) :
    (Bucket.ordered.flatMap fun bucket => keptIn bucket nodes).Perm (nodes.map Prod.snd) := by
  induction nodes with
  | nil => exact List.Perm.refl _
  | cons entry nodes ih =>
      obtain ⟨⟨own, hown⟩, hnodes⟩ := List.forall_mem_cons.1 h
      obtain ⟨value, node⟩ := entry
      have hkept (bucket : Bucket) : keptIn bucket ((value, node) :: nodes) =
          (if bucket = own then [node] else []) ++ keptIn bucket nodes := by
        have hsplit := keptIn_append bucket [(value, node)] nodes
        have hname : value.isStr bucket.name = decide (bucket = own) := by
          rw [← Bucket.isStr_name]
          exact congrArg (Value.isStr · bucket.name) hown
        rw [keptIn_singleton, hname] at hsplit
        simpa using hsplit
      have hrest := (ih hnodes).cons node
      simp only [Bucket.ordered, List.flatMap_cons, List.flatMap_nil, List.append_nil] at hrest ⊢
      simp only [hkept, List.map_cons]
      refine List.Perm.trans ?_ hrest
      cases own with
      | raw => exact List.Perm.refl _
      | all => exact List.perm_middle
      | any =>
          exact (List.Perm.append_left _ List.perm_middle).trans List.perm_middle

theorem isEmpty_iff (hothers : fragments.others = []) :
    fragments.isEmpty = true ↔ fragments.combined = none := by
  have hnone : fragments.combined = none ↔ (fragments.verdicts fun _ => true).every = [] :=
    combined_eq_none_iff
  rw [hnone]
  simp [isEmpty, entries, hothers, Verdicts.every, verdicts]

/-- Nothing is lost just when a bucket that does not exist was not cleared, or all buckets were
cleared after it. -/
theorem losesNothing_iff (calls : List Call) : LosesNothing calls ↔ Settled calls := by
  have hholds : Holds (after calls) (kept calls) := holds_nil.course calls
  have hothers : (after calls).others = [] ↔ Settled calls := by
    unfold after
    rw [others_course_iff]
    simp
  constructor
  · intro h
    have hbuckets := h.buckets
    unfold entries Bucket.ordered at hbuckets
    rw [List.map_append] at hbuckets
    exact hothers.1 (List.map_eq_nil_iff.1 (List.append_right_eq_self.1 hbuckets))
  · intro hsettled
    have hnone := hothers.2 hsettled
    have hnodes : (after calls).Forall (·.isNode = true) := by
      intro bucket node hmem
      rw [hholds.buckets] at hmem
      obtain ⟨entry, hentry, rfl⟩ := List.mem_map.1 hmem
      exact hholds.areNodes entry (List.mem_of_mem_filter hentry)
    have hcombined := toFilter?_eq_combined hnodes
    refine ⟨?_, ?_, perm_keptIn (hholds.others hnone), ?_⟩
    · unfold entries
      rw [hnone]
      rfl
    · rw [hcombined, combined_eq_joined, ← hholds.buckets, ← hholds.buckets, ← hholds.buckets]
      rfl
    · rw [hcombined]
      exact isEmpty_iff hnone

/-- A bucket that was cleared without having existed accepts a node, and the node is not
combined. -/
theorem unknownBucket_loses_node :
    let node : Filter := .condition .equals (.str "cn") (.str "a")
    let calls : List Call := [.clear (.str "xor"), .add node rfl (.str "xor")]
    (kept calls).map Prod.snd = [node] ∧ (after calls).toFilter? = none ∧
      (after calls).isEmpty = false ∧ ¬ LosesNothing calls := by
  intro node calls
  have hkept : (kept calls).map Prod.snd = [node] := by with_unfolding_all rfl
  have hnone : (after calls).toFilter? = none := by with_unfolding_all rfl
  have hempty : (after calls).isEmpty = false := by decide +kernel
  refine ⟨hkept, hnone, hempty, fun h => ?_⟩
  rw [h.isEmpty.2 hnone] at hempty
  cases hempty

end Fragments

end Directory
