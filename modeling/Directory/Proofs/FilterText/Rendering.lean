import Directory.Proofs.FilterText.Canonical

/-!
# Parsing rendered filters

Which filters survive being written as a filter string and parsed again. `Renders node f` says that
`node` is what the parser makes of the filter string of `f`; every renderable filter has such a
node, condition by condition and child by child.
-/

namespace Directory.FilterText

/-- A name that is told from the operator after it and from the sign of a group. -/
@[mk_iff]
structure IsAttribute (attr : List Char) : Prop where
  ne_nil : attr ≠ []
  plain : ∀ c ∈ attr, c ≠ '(' ∧ c ≠ ')' ∧ c ≠ '='
  trimmed : IsTrimmed attr
  head : ∀ c ∈ attr.head?, c ≠ '&' ∧ c ≠ '|' ∧ c ≠ '!'
  last : ∀ c ∈ attr.getLast?, c ≠ '>' ∧ c ≠ '<' ∧ c ≠ '~'

/-- A value that is told from the wildcards that a test puts around it. -/
@[mk_iff]
structure IsValueFor (test : Test) (value : List Char) : Prop where
  plain : ∀ c ∈ value, c ≠ '(' ∧ c ≠ ')' ∧ c ≠ '*'
  last : test.after = "" → ∀ c ∈ value.getLast?, isBlank c = false
  ne_nil : test = .startsWith ∨ test = .endsWith → value ≠ []

instance (attr : List Char) : Decidable (IsAttribute attr) :=
  decidable_of_iff (attr ≠ [] ∧ attr.all (fun c => c ≠ '(' ∧ c ≠ ')' ∧ c ≠ '=') = true ∧
      IsTrimmed attr ∧ attr.head?.all (fun c => c ≠ '&' ∧ c ≠ '|' ∧ c ≠ '!') = true ∧
      attr.getLast?.all (fun c => c ≠ '>' ∧ c ≠ '<' ∧ c ≠ '~') = true)
    (by simp [isAttribute_iff, Option.all_eq_true])

instance (test : Test) (value : List Char) : Decidable (IsValueFor test value) :=
  decidable_of_iff (value.all (fun c => c ≠ '(' ∧ c ≠ ')' ∧ c ≠ '*') = true ∧
      (test.after = "" → value.getLast?.all (!isBlank ·) = true) ∧
      (test = .startsWith ∨ test = .endsWith → value ≠ []))
    (by simp [isValueFor_iff, Option.all_eq_true])

/-- A filter whose conditions have such attributes and values. -/
inductive Renderable : Filter → Prop
  | condition {test : Test} {attr value : String} (htest : test ≠ .plain)
      (hattr : IsAttribute attr.toList) (hvalue : IsValueFor test value.toList) :
      Renderable (.condition test (.str attr) (.str value))
  | has {attr : String} (hattr : IsAttribute attr.toList) : Renderable (.has (.str attr))
  | not {child : Filter} (hchild : Renderable child) : Renderable (.not child)
  | group {junction : Junction} {children : List Filter}
      (hchildren : ∀ child ∈ children, Renderable child) : Renderable (.group junction children)

/-- The operator with which a test is written. -/
def comparatorOf : Test → Comparator
  | .approximately => .approximately
  | .atLeast => .atLeast
  | .atMost => .atMost
  | _ => .equal

/-- A value between the wildcards of a test. -/
def written (test : Test) (value : List Char) : List Char :=
  test.before.toList ++ value ++ test.after.toList

/-- The operator with which a junction is written. -/
def signOf : Junction → GroupSign
  | .all => .and
  | .any => .or

@[simp] theorem sign_comparatorOf (test : Test) :
    (comparatorOf test).sign = test.sign.toList := by
  cases test <;> rfl

@[simp] theorem char_signOf (junction : Junction) :
    [(signOf junction).char] = junction.sign.toList := by
  cases junction <;> rfl

/-! ## Conditions -/

/-- A name and a value without parentheses make a condition without parentheses. -/
theorem IsAttribute.noParens_condition {attr value : List Char} (h : IsAttribute attr)
    (comparator : Comparator) (hplain : NoParens value) :
    NoParens (attr ++ comparator.sign ++ value) := by
  rw [noParens_append_iff, noParens_append_iff]
  refine ⟨⟨fun c hc => ?_, ?_⟩, hplain⟩
  · exact isParen_eq_false_iff.2 ⟨(h.plain c hc).1, (h.plain c hc).2.1⟩
  · cases comparator <;> simp [NoParens, Comparator.sign, isParen]

/-- The parts of a condition whose attribute is a name. -/
theorem IsAttribute.conditionParts {attr value : List Char} (h : IsAttribute attr)
    (comparator : Comparator) (hplain : NoParens value)
    (hlast : ∀ c ∈ value.getLast?, isBlank c = false) : ConditionParts attr comparator value where
  ne_nil := h.ne_nil
  trimmed := h.trimmed.trim_eq
  open_ne := fun hopen => (h.plain '(' (List.mem_of_mem_head? hopen)).1 rfl
  sign_ne := by
    intro sign hsign
    have hhead := h.head _ hsign
    cases sign <;> simp [GroupSign.char] at hhead
  unsplit := by
    rintro before inside after rfl
    refine (h.plain '=' ?_).2.2 rfl
    cases inside <;> simp [Comparator.sign]
  value_last := hlast
  balanced := (h.noParens_condition comparator hplain).balanced

/-- A condition with a name and with a value that does not end in a blank is well-formed. -/
theorem IsAttribute.wellFormed {attr value : String} (h : IsAttribute attr.toList)
    (comparator : Comparator) (hplain : value.toList.all (!isParen ·) = true)
    (hlast : value.toList.getLast?.all (!isBlank ·) = true) :
    WellFormed (.condition attr comparator value) := by
  have hnone : NoParens value.toList := by simpa [NoParens] using hplain
  have hend := by simpa [Option.all_eq_true] using hlast
  simpa using WellFormed.condition (h.conditionParts comparator hnone hend)

/-- A name does not merge with the operator after it. -/
theorem IsAttribute.mergesWith_eq_false {attr : List Char} (h : IsAttribute attr)
    (comparator : Comparator) : mergesWith attr comparator = false := by
  have hlast (c : Char) (hc : attr.getLast? = some c) := h.last c hc
  rw [← Bool.not_eq_true]
  simp only [mergesWith, Bool.and_eq_true, Bool.or_eq_true, decide_eq_true_eq]
  rintro ⟨-, (hc | hc) | hc⟩ <;> simpa using hlast _ hc

/-- Wildcards are no parentheses. -/
theorem noParens_written {value : List Char} (test : Test)
    (hplain : ∀ c ∈ value, c ≠ '(' ∧ c ≠ ')' ∧ c ≠ '*') : NoParens (written test value) := by
  rw [written, noParens_append_iff, noParens_append_iff]
  refine ⟨⟨?_, fun c hc => ?_⟩, ?_⟩
  · cases test <;> simp [NoParens, Test.before, isParen]
  · exact isParen_eq_false_iff.2 ⟨(hplain c hc).1, (hplain c hc).2.1⟩
  · cases test <;> simp [NoParens, Test.after, isParen]

/-- A test puts a wildcard after its value, or nothing. -/
theorem toList_after (test : Test) (hafter : test.after ≠ "") : test.after.toList = ['*'] := by
  cases test <;> simp_all [Test.after]

/-- A blank at the end of a value has a wildcard after it. -/
theorem isBlank_getLast?_written {test : Test} {value : List Char}
    (hvalue : test.after = "" → ∀ c ∈ value.getLast?, isBlank c = false) :
    ∀ c ∈ (written test value).getLast?, isBlank c = false := by
  intro c hc
  by_cases hafter : test.after = ""
  · rw [written, hafter, String.toList_empty, List.append_nil] at hc
    by_cases hnil : value = []
    · have hbefore : ∀ d ∈ test.before.toList, d = '*' := by cases test <;> simp [Test.before]
      rw [hnil, List.append_nil] at hc
      rw [hbefore c (List.mem_of_getLast? hc)]
      decide
    · rw [List.getLast?_append_of_ne_nil _ hnil] at hc
      exact hvalue hafter c hc
  · rw [written, toList_after test hafter, List.getLast?_concat] at hc
    cases hc
    decide

namespace IsValueFor

variable {test : Test} {value : List Char}

/-- The wildcards of a value that is compared for equality choose its test. -/
theorem equalityFilter_written (h : IsValueFor test value) (htest : test ≠ .plain)
    (hequal : comparatorOf test = .equal) (attr : Value) :
    Part.equalityFilter attr (written test value) =
      .condition test attr (.str (String.ofList value)) := by
  -- the value has no wildcards of its own that could be taken for those of the test
  have hhead : value.head? ≠ some '*' := fun hc =>
    (h.plain '*' (List.mem_of_mem_head? hc)).2.2 rfl
  have hlast : value.getLast? ≠ some '*' := fun hc =>
    (h.plain '*' (List.mem_of_getLast? hc)).2.2 rfl
  have hne : value ≠ ['*'] := by
    rintro rfl
    exact hhead rfl
  cases test with
  | plain => exact absurd rfl htest
  | approximately | atLeast | atMost => cases hequal
  | equals => simp [Part.equalityFilter, written, Test.before, Test.after, hhead, hlast, hne]
  | startsWith =>
      have hvalue := h.ne_nil (.inl rfl)
      obtain ⟨c, rest, rfl⟩ := List.exists_cons_of_ne_nil hvalue
      have hfirst : c ≠ '*' := by simpa using hhead
      have hfinal : (c :: (rest ++ ['*'])).getLast? = some '*' := by
        rw [← List.cons_append, List.getLast?_concat]
      have hstart : (c :: (rest ++ ['*'])).dropLast = c :: rest := by
        rw [← List.cons_append, List.dropLast_concat]
      simp [Part.equalityFilter, written, Test.before, Test.after, hfirst, hfinal, hstart]
  | endsWith =>
      have hvalue := h.ne_nil (.inr rfl)
      have hfinal : ('*' :: value).getLast? ≠ some '*' := by
        rwa [← List.singleton_append, List.getLast?_append_of_ne_nil _ hvalue]
      simp [Part.equalityFilter, written, Test.before, Test.after, hvalue, hfinal]
  | contains =>
      have hfinal : ('*' :: (value ++ ['*'])).getLast? = some '*' := by
        rw [← List.cons_append, List.getLast?_concat]
      simp [Part.equalityFilter, written, Test.before, Test.after, hfinal]

end IsValueFor

/-! ## Filters -/

/-- The parser makes the node of the filter string of the filter. -/
structure Renders (node : Node) (f : Filter) : Prop where
  wellFormed : WellFormed node
  settled : node.isSettled = true
  text : f.text = .ok (String.ofList node.text)
  filter : (Part.ofNode node).toFilter = .ok f

/-- A condition is parsed to a condition with the wildcards in its value. -/
theorem renders_condition {test : Test} {attr value : String} (htest : test ≠ .plain)
    (hattr : IsAttribute attr.toList) (hvalue : IsValueFor test value.toList) :
    Renders (.condition (String.ofList attr.toList) (comparatorOf test)
      (String.ofList (written test value.toList))) (.condition test (.str attr) (.str value)) where
  wellFormed := WellFormed.condition
    (hattr.conditionParts _ (noParens_written test hvalue.plain)
      (isBlank_getLast?_written hvalue.last))
  settled := by
    rw [Node.isSettled, String.toList_ofList, hattr.mergesWith_eq_false]
    rfl
  text := by
    simp [Filter.text, Value.text, Node.text, written, bind, Except.bind, pure, Except.pure,
      ← String.toList_inj]
  filter := by
    rw [String.ofList_toList]
    -- wildcards count only after an equals sign by itself
    cases hcomparator : comparatorOf test with
    | equal =>
        rw [Part.ofNode, Part.toFilter, Part.equality, String.toList_ofList,
          hvalue.equalityFilter_written htest hcomparator, String.ofList_toList]
    | atLeast | atMost | approximately =>
        cases test <;> simp_all [comparatorOf, Part.ofNode, Part.toFilter, written, Test.before,
          Test.after]

/-- The presence of an attribute is parsed to a condition with a wildcard for its value. -/
theorem renders_has {attr : String} (hattr : IsAttribute attr.toList) :
    Renders (.condition (String.ofList attr.toList) .equal (String.ofList ['*']))
      (.has (.str attr)) where
  wellFormed := by
    refine WellFormed.condition (hattr.conditionParts _ ?_ ?_)
    · simp [NoParens, isParen]
    · simp
      decide
  settled := by
    rw [Node.isSettled, String.toList_ofList, hattr.mergesWith_eq_false]
    rfl
  text := by
    simp [Filter.text, Value.text, Node.text, Comparator.sign, bind, Except.bind, pure, Except.pure,
      ← String.toList_inj]
  filter := by
    rw [String.ofList_toList]
    rfl

/-- What holds of each filter of a list holds of the list. -/
theorem exists_renders_all {children : List Filter}
    (h : ∀ child ∈ children, ∃ node, Renders node child) :
    ∃ nodes, (∀ node ∈ nodes, WellFormed node) ∧ Node.areSettled nodes = true ∧
      Filter.textAll children = .ok (String.ofList (Node.textAll nodes)) ∧
      Part.toFilters (Part.ofEach nodes) = .ok children := by
  induction children with
  | nil => exact ⟨[], by simp, rfl, rfl, rfl⟩
  | cons child children ih =>
      obtain ⟨node, hnode⟩ := h child List.mem_cons_self
      obtain ⟨nodes, hwell, hsettled, htext, hfilter⟩ :=
        ih fun child hmem => h child (List.mem_cons_of_mem _ hmem)
      refine ⟨node :: nodes, List.forall_mem_cons.2 ⟨hnode.wellFormed, hwell⟩, ?_, ?_, ?_⟩
      · rw [Node.areSettled, hnode.settled, hsettled]
        rfl
      · rw [Filter.textAll, hnode.text, htext, Node.textAll, String.ofList_append]
        rfl
      · rw [Part.ofEach, Part.toFilters, hnode.filter, hfilter]
        rfl

/-- Every renderable filter is written so that a node is read from it. -/
theorem Renderable.exists_renders {f : Filter} (h : Renderable f) : ∃ node, Renders node f := by
  induction h with
  | condition htest hattr hvalue => exact ⟨_, renders_condition htest hattr hvalue⟩
  | has hattr => exact ⟨_, renders_has hattr⟩
  | @not child _ ih =>
      obtain ⟨node, hnode⟩ := ih
      refine ⟨.group .not [node], ?_, ?_, ?_, ?_⟩
      · exact WellFormed.group (fun _ => rfl) (by simpa using hnode.wellFormed)
      · rw [Node.isSettled, Node.areSettled, hnode.settled]
        rfl
      · rw [Filter.text, hnode.text]
        simp [Node.text, Node.textAll, GroupSign.char, bind, Except.bind, pure, Except.pure,
          ← String.toList_inj]
      · rw [Part.ofNode, Part.ofEach, Part.toFilter, Part.toFilters, hnode.filter]
        rfl
  | @group junction children _ ih =>
      obtain ⟨nodes, hwell, hsettled, htext, hfilter⟩ := exists_renders_all ih
      refine ⟨.group (signOf junction) nodes, ?_, hsettled, ?_, ?_⟩
      · exact WellFormed.group (fun hsign => by cases junction <;> cases hsign) hwell
      · rw [Filter.text, htext]
        simp [Node.text, bind, Except.bind, pure, Except.pure, ← String.toList_inj,
          ← char_signOf]
      · rw [Part.ofNode, Part.toFilter, hfilter]
        cases junction <;> rfl

theorem allAlike_self {children : List Filter}
    (h : ∀ child ∈ children, child.alike child = .ok true) :
    Filter.allAlike children children = .ok true := by
  induction children with
  | nil => rw [Filter.allAlike]
  | cons child children ih =>
      rw [List.forall_mem_cons] at h
      rw [Filter.allAlike, h.1]
      exact ih h.2

/-- A renderable filter is equal to itself. -/
theorem Renderable.alike_self {f : Filter} (h : Renderable f) : f.alike f = .ok true := by
  induction h with
  | condition => simp [Filter.alike, Value.alike, bind, Except.bind]
  | has => simp [Filter.alike, Value.alike]
  | not _ ih => rw [Filter.alike, ih]
  | group _ ih => rw [Filter.alike, if_pos rfl, allAlike_self ih]

/-- The filter string of a renderable filter is parsed to one node, which has the same filter string
and stands for an equal filter. -/
theorem parse_text_toFilter {f : Filter} (h : Renderable f) :
    ∃ text node, f.text = .ok text ∧ parse text = .ok [node] ∧
      (Part.ofNode node).text = .ok text ∧
      (Part.ofNode node).toFilter = .ok f ∧ f.alike f = .ok true := by
  obtain ⟨node, hnode⟩ := h.exists_renders
  refine ⟨_, node, hnode.text, ?_, Part.text_ofNode node, hnode.filter, h.alike_self⟩
  have hread : DerivesAll (Node.textAll [node]) [node] := by
    rw [derivesAll_textAll_iff (by simp) (by simpa using hnode.wellFormed), Node.areSettled,
      hnode.settled]
    rfl
  rw [parse_eq_ok_iff, String.toList_ofList]
  simpa [Node.textAll] using hread

/-- A nested filter with an empty group, an operator in a value and a blank before a wildcard. -/
theorem parse_text_toFilter_nested :
    let f : Filter := .group .any [.not (.condition .contains (.str "cn") (.str "a>= ")),
      .group .all [], .has (.str "mail"), .condition .atMost (.str "x>y") (.str "")]
    Renderable f ∧ ∃ text node, f.text = .ok text ∧ parse text = .ok [node] ∧
      (Part.ofNode node).text = .ok text ∧
      (Part.ofNode node).toFilter = .ok f ∧ f.alike f = .ok true := by
  intro f
  have h : Renderable f := by
    refine Renderable.group ?_
    simp only [List.forall_mem_cons]
    refine ⟨?_, ?_, ?_, ?_, by simp⟩
    · exact Renderable.not (Renderable.condition (by decide) (by decide) (by decide))
    · exact Renderable.group (by simp)
    · exact Renderable.has (by decide)
    · exact Renderable.condition (by decide) (by decide) (by decide)
  exact ⟨h, parse_text_toFilter h⟩

end Directory.FilterText
