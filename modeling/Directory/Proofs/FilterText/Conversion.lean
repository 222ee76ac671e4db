import Directory.Proofs.FilterText.Rendering

/-!
# Parsed nodes as filters

What a parsed node stands for. A condition keeps its text whatever asterisks are in its value, as
those that choose the test are written again by the test; a negation keeps its only child. So every
node that is read from a filter string stands for a filter with the same text, and the filters are
assembled to what the nodes are assembled to.
-/

namespace Directory.FilterText

/-- The node is the given one or stands somewhere below it. -/
inductive Node.IsWithin (node : Node) : Node → Prop
  | self : node.IsWithin node
  | child {sign : GroupSign} {children : List Node} {child : Node} (hmem : child ∈ children)
      (hwithin : node.IsWithin child) : node.IsWithin (.group sign children)

/-- Filters offered for assembly in the way of the nodes that they come from: one by itself, and
several in a row. -/
def Part.ofFilters : List Filter → Part
  | [f] => .plain (.filter f)
  | filters => .several (filters.map fun f => .plain (.filter f))

/-- The node stands for the filter, which is written as the node is. -/
structure Converts (node : Node) (f : Filter) : Prop where
  filter : (Part.ofNode node).toFilter = .ok f
  text : f.text = .ok (String.ofList node.text)

/-- What is within a well-formed node is well-formed. -/
theorem WellFormed.of_isWithin {node root : Node} (hwithin : node.IsWithin root)
    (h : WellFormed root) : WellFormed node := by
  induction hwithin with
  | self => exact h
  | child hmem _ ih =>
      cases h with
      | group _ hchildren => exact ih (hchildren _ hmem)

/-! ## Conditions -/

/-- A test writes the wildcards around its value. -/
theorem text_condition_str (test : Test) (attr value : String) :
    Filter.text (.condition test (.str attr) (.str value)) =
      .ok ("(" ++ attr ++ test.sign ++ test.before ++ value ++ test.after ++ ")") := by
  rw [Filter.text, Value.text, Value.text]
  rfl

/-- A list with asterisks at both ends is one asterisk or has its rest between them. -/
theorem eq_of_starred {value : List Char} (hhead : value.head? = some '*')
    (hlast : value.getLast? = some '*') :
    value = ['*'] ∨ value = '*' :: (value.drop 1).dropLast ++ ['*'] := by
  obtain ⟨rest, rfl⟩ := List.head?_eq_some_iff.1 hhead
  by_cases hrest : rest = []
  · exact .inl (by rw [hrest])
  · obtain ⟨before, hbefore⟩ := List.getLast?_eq_some_iff.1 <|
      (List.getLast?_cons_of_ne_nil hrest).symm.trans hlast
    exact .inr (by simp [hbefore])

/-- The asterisks at the ends of a value are written again by the test that they choose. -/
theorem text_equalityFilter (attr : String) (value : List Char) :
    (Part.equalityFilter (.str attr) value).text =
      .ok ("(" ++ attr ++ "=" ++ String.ofList value ++ ")") := by
  by_cases hstar : value = ['*']
  · rw [Part.equalityFilter, if_pos hstar, hstar]
    simp [Filter.text, Value.text, bind, Except.bind, pure, Except.pure, ← String.toList_inj]
  by_cases hhead : value.head? = some '*' <;> by_cases hlast : value.getLast? = some '*'
  · have hvalue := (eq_of_starred hhead hlast).resolve_left hstar
    rw [Part.equalityFilter, if_neg hstar, if_pos ⟨hhead, hlast⟩, text_condition_str,
      Except.ok.injEq, ← String.toList_inj]
    conv_rhs => rw [hvalue]
    simp [Test.sign, Test.before, Test.after]
  · obtain ⟨rest, rfl⟩ := List.head?_eq_some_iff.1 hhead
    rw [Part.equalityFilter, if_neg hstar, if_neg (fun h => hlast h.2), if_pos hhead,
      text_condition_str, Except.ok.injEq, ← String.toList_inj]
    simp [Test.sign, Test.before, Test.after]
  · obtain ⟨before, rfl⟩ := List.getLast?_eq_some_iff.1 hlast
    rw [Part.equalityFilter, if_neg hstar, if_neg (fun h => hhead h.1), if_neg hhead, if_pos hlast,
      text_condition_str, Except.ok.injEq, ← String.toList_inj]
    simp [Test.sign, Test.before, Test.after]
  · rw [Part.equalityFilter, if_neg hstar, if_neg (fun h => hhead h.1), if_neg hhead, if_neg hlast,
      text_condition_str, Except.ok.injEq, ← String.toList_inj]
    simp [Test.sign, Test.before, Test.after]

/-- A condition stands for a filter that is written as it is. Only an equals sign by itself has a
test chosen by the value. -/
theorem exists_converts_condition (attr : String) (comparator : Comparator) (value : String) :
    ∃ f, Converts (.condition attr comparator value) f := by
  cases comparator with
  | equal =>
      refine ⟨_, rfl, ?_⟩
      rw [text_equalityFilter, Except.ok.injEq, ← String.toList_inj]
      simp [Node.text, Comparator.sign]
  | atLeast | atMost | approximately =>
      refine ⟨_, rfl, ?_⟩
      rw [text_condition_str, Except.ok.injEq, ← String.toList_inj]
      simp [Node.text, Comparator.sign, Test.sign, Test.before, Test.after]

/-! ## Groups -/

/-- Nodes that each stand for a filter stand for the filters in order. -/
theorem exists_converts_all {nodes : List Node} (h : ∀ node ∈ nodes, ∃ f, Converts node f) :
    ∃ filters, Part.toFilters (Part.ofEach nodes) = .ok filters ∧
      List.Forall₂ Converts nodes filters := by
  induction nodes with
  | nil => exact ⟨[], rfl, .nil⟩
  | cons node nodes ih =>
      obtain ⟨f, hf⟩ := h node List.mem_cons_self
      obtain ⟨filters, hfilters, hall⟩ := ih fun node hmem => h node (List.mem_cons_of_mem _ hmem)
      refine ⟨f :: filters, ?_, .cons hf hall⟩
      rw [Part.ofEach, Part.toFilters, hf.filter, hfilters]
      rfl

/-- The filters of nodes are written as the nodes are. -/
theorem textAll_of_converts {nodes : List Node} {filters : List Filter}
    (h : List.Forall₂ Converts nodes filters) :
    Filter.textAll filters = .ok (String.ofList (Node.textAll nodes)) := by
  induction h with
  | nil => rfl
  | cons hf _ ih =>
      rw [Filter.textAll, hf.text, ih, Node.textAll, String.ofList_append]
      rfl

/-- The filter of a negation is the negated filter of its only child. -/
theorem Converts.not {child : Node} {f : Filter} (h : Converts child f) :
    Converts (.group .not [child]) (.not f) where
  filter := by
    rw [Part.ofNode, Part.ofEach, Part.ofEach, Part.toFilter, Part.toFilters, Part.toFilters,
      h.filter]
    rfl
  text := by
    rw [Filter.text, h.text]
    simp [Node.text, Node.textAll, GroupSign.char, bind, Except.bind, pure, Except.pure,
      ← String.toList_inj]

/-- A well-formed node stands for a filter that is written as it is. -/
theorem WellFormed.exists_converts {node : Node} (h : WellFormed node) :
    ∃ f, Converts node f := by
  induction h with
  | condition => exact exists_converts_condition _ _ _
  | @group sign children hcount _ ih =>
      cases sign with
      | not =>
          obtain ⟨child, rfl⟩ := List.length_eq_one_iff.1 (hcount rfl)
          obtain ⟨f, hf⟩ := ih child List.mem_cons_self
          exact ⟨_, hf.not⟩
      | and | or =>
          obtain ⟨filters, hfilters, hall⟩ := exists_converts_all ih
          refine ⟨_, by rw [Part.ofNode, Part.toFilter, hfilters]; rfl, ?_⟩
          rw [Filter.text, textAll_of_converts hall]
          simp [Node.text, GroupSign.char, Junction.sign, bind, Except.bind, pure, Except.pure,
            ← String.toList_inj]

/-! ## Filter strings -/

/-- Filters are assembled to their texts, one after the other. -/
theorem assemble_ofFilters {nodes : List Node} {filters : List Filter}
    (h : List.Forall₂ Converts nodes filters) :
    assemble (Part.ofFilters filters) = .ok (String.ofList (Node.textAll nodes)) := by
  have hmembers : members (Part.ofFilters filters) =
      .ok (filters.map fun f => .plain (.filter f)) := by
    match filters with
    | [] | [_] | _ :: _ :: _ => rfl
  have htexts : (filters.map fun f => Part.plain (.filter f)).mapM nodeText =
      .ok (nodes.map fun node => String.ofList node.text) := by
    rw [mapM_eq_ok_iff, List.forall₂_map_left_iff, List.forall₂_map_right_iff]
    exact h.flip.imp fun f node hf => hf.text
  rw [assemble, hmembers]
  simp only [bind, Except.bind, assembleAll, htexts, pure, Except.pure, Except.ok.injEq]
  rw [← String.toList_inj, toList_join, String.toList_ofList, Node.textAll_eq_flatMap,
    List.flatMap_map]
  simp

/-- The nodes of a filter string are well-formed. -/
theorem wellFormed_of_parse {s : String} {nodes : List Node} (hparse : parse s = .ok nodes) :
    ∀ node ∈ nodes, WellFormed node := by
  obtain ⟨contents, _, _, _, hforall⟩ := parse_eq_ok_iff.1 hparse
  exact forall_of_forall₂ hforall fun _ _ _ hnode => hnode.wellFormed

/-- Every node of a filter string, also one below another, stands for a filter with the text of the
node, and the filters of the string are assembled to what its nodes are assembled to. -/
theorem parse_toFilter_keeps_text {s : String} {nodes : List Node} (hparse : parse s = .ok nodes) :
    (∀ root ∈ nodes, ∀ node : Node, node.IsWithin root →
      ∃ f text, (Part.ofNode node).toFilter = .ok f ∧ f.text = .ok text ∧
        (Part.ofNode node).text = .ok text) ∧
    ∃ filters text, Part.toFilters (Part.ofEach nodes) = .ok filters ∧
      assemble (Part.ofFilters filters) = .ok text ∧ assemble (Part.ofNodes nodes) = .ok text := by
  have hwell := wellFormed_of_parse hparse
  constructor
  · intro root hroot node hwithin
    obtain ⟨f, hf⟩ := ((hwell root hroot).of_isWithin hwithin).exists_converts
    exact ⟨f, _, hf.filter, hf.text, Part.text_ofNode node⟩
  · obtain ⟨filters, hfilters, hall⟩ :=
      exists_converts_all fun node hmem => (hwell node hmem).exists_converts
    exact ⟨filters, _, hfilters, assemble_ofFilters hall,
      assemble_ofNodes (parse_eq_ok_iff.1 hparse).ne_nil⟩

/-- A negation, a value of asterisks only, one with an operator in it, and two filters in a row. -/
theorem parse_toFilter_keeps_text_nested :
    let nodes : List Node :=
      [.group .and [.group .not [.condition "cn" .equal "**"], .condition "sn" .equal "*a*>=b"],
        .condition "age" .atMost "*"]
    parse "(&(!(cn=**))(sn=*a*>=b))(age<=*)" = .ok nodes ∧
      (∀ root ∈ nodes, ∀ node : Node, node.IsWithin root →
        ∃ f text, (Part.ofNode node).toFilter = .ok f ∧ f.text = .ok text ∧
          (Part.ofNode node).text = .ok text) ∧
      ∃ filters text, Part.toFilters (Part.ofEach nodes) = .ok filters ∧
        assemble (Part.ofFilters filters) = .ok text ∧
        assemble (Part.ofNodes nodes) = .ok text := by
  intro nodes
  have hcn : IsAttribute "cn".toList := by decide
  have hsn : IsAttribute "sn".toList := by decide
  have hage : IsAttribute "age".toList := by decide
  have hwell : ∀ node ∈ nodes, WellFormed node := by
    simp only [nodes, List.forall_mem_cons]
    refine ⟨WellFormed.group (by simp) ?_, hage.wellFormed _ (by decide) (by decide), by simp⟩
    simp only [List.forall_mem_cons]
    refine ⟨WellFormed.group (fun _ => rfl) ?_, hsn.wellFormed _ (by decide) (by decide), by simp⟩
    simpa using hcn.wellFormed _ (by decide) (by decide)
  have hparse : parse "(&(!(cn=**))(sn=*a*>=b))(age<=*)" = .ok nodes :=
    parse_eq_ok_iff.2 ((derivesAll_textAll_iff (by simp [nodes]) hwell).2 (by decide))
  exact ⟨hparse, parse_toFilter_keeps_text hparse⟩

end Directory.FilterText
