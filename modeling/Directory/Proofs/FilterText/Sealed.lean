import Directory.Proofs.FilterText.Rendering

/-!
# Parsing filters with sealed values

A value is sealed if its text holds no parenthesis and no asterisk. Whatever else it holds, it
cannot end its condition or put a wildcard into it: `Sealed.exists_fits` says that the filter string
of such a filter is one group, which is read as a node of the same form.
-/

namespace Directory.FilterText

/-- A filter in which attributes are names and values have texts without parentheses and
asterisks. -/
inductive Sealed : Filter → Prop
  | condition {test : Test} {attr text : String} {value : Value} (hattr : IsAttribute attr.toList)
      (htext : value.text = .ok text) (hplain : ∀ c ∈ text.toList, c ≠ '(' ∧ c ≠ ')' ∧ c ≠ '*') :
      Sealed (.condition test (.str attr) value)
  | has {attr : String} (hattr : IsAttribute attr.toList) : Sealed (.has (.str attr))
  | not {child : Filter} (hchild : Sealed child) : Sealed (.not child)
  | group {junction : Junction} {children : List Filter}
      (hchildren : ∀ child ∈ children, Sealed child) : Sealed (.group junction children)

/-- A parsed node has the form of a filter: the groups, the attributes and the operators are the
same, and in a value only the wildcards of the test are asterisks. Blanks at the end of a value may
be missing. -/
inductive Fits : Node → Filter → Prop
  | condition {test : Test} {attr : String} {value : Value} {kept blanks : List Char}
      (hvalue : value.text = .ok (String.ofList (kept ++ blanks)))
      (hblanks : allBlank blanks = true) (hplain : '*' ∉ kept) :
      Fits (.condition attr (comparatorOf test) (String.ofList (written test kept)))
        (.condition test (.str attr) value)
  | has {attr : String} : Fits (.condition attr .equal "*") (.has (.str attr))
  | not {node : Node} {child : Filter} (hchild : Fits node child) :
      Fits (.group .not [node]) (.not child)
  | group {junction : Junction} {nodes : List Node} {children : List Filter}
      (hchildren : List.Forall₂ Fits nodes children) :
      Fits (.group (signOf junction) nodes) (.group junction children)

/-! ## Conditions -/

/-- Only the trimmed content counts. -/
theorem Derives.of_trim_eq {content other : List Char} {node : Node} (h : Derives content node)
    (htrim : trim other = trim content) : Derives other node := by
  cases h with
  | wrapped hcontent hinner hnode => exact .wrapped (htrim.trans hcontent) hinner hnode
  | group hcontent hrow hgaps hchildren hcount =>
      exact .group (htrim.trans hcontent) hrow hgaps hchildren hcount
  | condition hbalanced hopen hsign hsplit hattr =>
      rw [← htrim] at hbalanced hopen hsign hsplit
      exact .condition hbalanced hopen hsign hsplit hattr

/-- A value is kept up to the blanks that end its condition. -/
theorem exists_written_eq (test : Test) (value : List Char) :
    ∃ kept blanks rest, value = kept ++ blanks ∧ allBlank blanks = true ∧
      (test.after = "" → ∀ c ∈ kept.getLast?, isBlank c = false) ∧
      written test value = written test kept ++ rest ∧ allBlank rest = true := by
  by_cases hafter : test.after = ""
  · -- nothing stands between the value and the end of the condition
    obtain ⟨kept, blanks, rfl, hblanks, hlast⟩ := exists_eq_append_blanks value
    exact ⟨kept, blanks, blanks, rfl, hblanks, fun _ => hlast, by simp [written, hafter], hblanks⟩
  · exact ⟨value, [], [], by simp, rfl, fun h => absurd h hafter, by simp, rfl⟩

/-- The filter string of a filter is one group, of which the content is read as a node of the same
form. -/
structure ReadAs (f : Filter) (content : List Char) (node : Node) : Prop where
  text : f.text = .ok (String.ofList ('(' :: content ++ [')']))
  balanced : Balanced content
  derives : Derives content node
  fits : Fits node f

variable {attr : String}

theorem exists_readAs_condition {test : Test} {text : String} {value : Value}
    (hattr : IsAttribute attr.toList) (htext : value.text = .ok text)
    (hplain : ∀ c ∈ text.toList, c ≠ '(' ∧ c ≠ ')' ∧ c ≠ '*') :
    ∃ content node, ReadAs (.condition test (.str attr) value) content node := by
  obtain ⟨kept, blanks, rest, hvalue, hblanks, hlast, hwritten, hrest⟩ :=
    exists_written_eq test text.toList
  have hkept : ∀ c ∈ kept, c ≠ '(' ∧ c ≠ ')' ∧ c ≠ '*' := by
    intro c hc
    exact hplain c (hvalue ▸ List.mem_append_left _ hc)
  have hparts := hattr.conditionParts (comparatorOf test) (noParens_written test hkept)
    (isBlank_getLast?_written hlast)
  have hne : attr.toList ++ (comparatorOf test).sign ++ written test kept ≠ [] := by
    simp [hattr.ne_nil]
  have hcontent : attr.toList ++ (comparatorOf test).sign ++ written test text.toList =
      attr.toList ++ (comparatorOf test).sign ++ written test kept ++ rest := by
    rw [hwritten, List.append_assoc _ _ rest]
  refine ⟨attr.toList ++ (comparatorOf test).sign ++ written test text.toList,
    .condition attr (comparatorOf test) (String.ofList (written test kept)), ?_, ?_, ?_, ?_⟩
  · simp [Filter.text, Value.text, htext, written, bind, Except.bind, pure, Except.pure,
      ← String.toList_inj]
  · exact (hattr.noParens_condition _ (noParens_written test hplain)).balanced
  · have hderives := hparts.derives_iff.2 (hattr.mergesWith_eq_false _)
    rw [String.ofList_toList] at hderives
    refine hderives.of_trim_eq ?_
    rw [hcontent, hparts.isTrimmed.trim_append hne hrest, hparts.isTrimmed.trim_eq]
  · refine Fits.condition ?_ hblanks fun hmem => (hkept _ hmem).2.2 rfl
    rw [htext, ← hvalue, String.ofList_toList]

theorem readAs_has (hattr : IsAttribute attr.toList) :
    ReadAs (.has (.str attr)) (attr.toList ++ Comparator.sign .equal ++ ['*'])
      (.condition attr .equal "*") := by
  have hplain : NoParens ['*'] := by simp [NoParens, isParen]
  have hparts := hattr.conditionParts .equal hplain (by simp; decide)
  have hderives := hparts.derives_iff.2 (hattr.mergesWith_eq_false _)
  rw [String.ofList_toList] at hderives
  refine ⟨?_, hparts.balanced, hderives, Fits.has⟩
  simp [Filter.text, Value.text, Comparator.sign, bind, Except.bind, pure, Except.pure,
    ← String.toList_inj]

/-! ## Groups -/

/-- What holds of each filter of a list holds of the list. -/
theorem exists_readAs_all {children : List Filter}
    (h : ∀ child ∈ children, ∃ content node, ReadAs child content node) :
    ∃ contents nodes, Filter.textAll children = .ok (String.ofList (grouped contents)) ∧
      (∀ content ∈ contents, Balanced content) ∧ List.Forall₂ Derives contents nodes ∧
      List.Forall₂ Fits nodes children := by
  induction children with
  | nil => exact ⟨[], [], rfl, by simp, .nil, .nil⟩
  | cons child children ih =>
      obtain ⟨content, node, hchild⟩ := h child List.mem_cons_self
      obtain ⟨contents, nodes, htext, hbalanced, hderives, hfits⟩ :=
        ih fun child hmem => h child (List.mem_cons_of_mem _ hmem)
      refine ⟨content :: contents, node :: nodes, ?_, List.forall_mem_cons.2
        ⟨hchild.balanced, hbalanced⟩, .cons hchild.derives hderives, .cons hchild.fits hfits⟩
      rw [Filter.textAll, hchild.text, htext]
      simp [bind, Except.bind, pure, Except.pure, ← String.toList_inj]

/-- The content of a group is read as the group of what its members are read as. -/
theorem derives_grouped (sign : GroupSign) {contents : List (List Char)} {nodes : List Node}
    (hbalanced : ∀ content ∈ contents, Balanced content)
    (hderives : List.Forall₂ Derives contents nodes) (hcount : sign = .not → nodes.length = 1) :
    Balanced (sign.char :: grouped contents) ∧
      Derives (sign.char :: grouped contents) (.group sign nodes) := by
  have hrow := row_grouped hbalanced
  refine ⟨?_, Derives.group (isTrimmed_cons_grouped sign.isBlank_char contents).trim_eq hrow ?_
    hderives hcount⟩
  · rw [Balanced, closes_cons_iff (by cases sign <;> rfl)]
    exact hrow.balanced
  · intro gap hgap
    rw [List.eq_of_mem_replicate hgap]
    rfl

/-- Every filter with sealed values is written as one group, which is read as a node of the same
form. -/
theorem Sealed.exists_readAs {f : Filter} (h : Sealed f) :
    ∃ content node, ReadAs f content node := by
  induction h with
  | condition hattr htext hplain => exact exists_readAs_condition hattr htext hplain
  | has hattr => exact ⟨_, _, readAs_has hattr⟩
  | @not child _ ih =>
      obtain ⟨content, node, hchild⟩ := ih
      have hcontent : ∀ other ∈ [content], Balanced other := by simpa using hchild.balanced
      obtain ⟨hbalanced, hderives⟩ := derives_grouped .not hcontent (.cons hchild.derives .nil)
        fun _ => rfl
      refine ⟨_, _, ?_, hbalanced, hderives, Fits.not hchild.fits⟩
      rw [Filter.text, hchild.text]
      simp [GroupSign.char, bind, Except.bind, pure, Except.pure, ← String.toList_inj]
  | @group junction children _ ih =>
      obtain ⟨contents, nodes, htext, hbalanced, hderives, hfits⟩ := exists_readAs_all ih
      obtain ⟨hgroup, hread⟩ := derives_grouped (signOf junction) hbalanced hderives
        fun hsign => by cases junction <;> cases hsign
      refine ⟨_, _, ?_, hgroup, hread, Fits.group hfits⟩
      rw [Filter.text, htext]
      simp [bind, Except.bind, pure, Except.pure, ← String.toList_inj, ← char_signOf]

/-- The filter string of a filter with sealed values is read as one node, of the same form. -/
theorem Sealed.exists_fits {f : Filter} (h : Sealed f) :
    ∃ text node, f.text = .ok text ∧ text ≠ "" ∧ parse text = .ok [node] ∧ Fits node f := by
  obtain ⟨content, node, hread⟩ := h.exists_readAs
  refine ⟨_, node, hread.text, ?_, ?_, hread.fits⟩
  · rw [ne_eq, ← String.toList_inj]
    simp
  · have hrow : Row (grouped [content]) [content] [[], []] :=
      row_grouped (by simpa using hread.balanced)
    rw [parse_eq_ok_iff, String.toList_ofList]
    exact ⟨[content], [[], []], by simpa using hrow, by simp, .cons hread.derives .nil⟩

end Directory.FilterText
