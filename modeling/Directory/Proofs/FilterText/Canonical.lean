import Directory.Proofs.FilterText.Grammar

/-!
# Reading a written filter back

What the filter string of a parsed node is read as. `Derives.wellFormed` collects what is true of
every parsed node, and `derives_inner_iff` says which of these nodes are read back from their own
text: all but those with a condition whose attribute ends in a character that makes a longer
operator of the equals sign after it. The attribute had a blank there, which is not written.
-/

namespace Directory.FilterText

/-- The last character of the attribute makes a longer operator of the equals sign after it. -/
def mergesWith (attr : List Char) (comparator : Comparator) : Bool :=
  comparator = .equal && (attr.getLast? = some '>' || attr.getLast? = some '<' ||
    attr.getLast? = some '~')

namespace Node

mutual

/-- No condition in the node has an attribute that merges with the operator. -/
def isSettled : Node → Bool
  | .condition attr comparator _ => !mergesWith attr.toList comparator
  | .group _ children => areSettled children

/-- No condition in the nodes has an attribute that merges with the operator. -/
def areSettled : List Node → Bool
  | [] => true
  | node :: nodes => node.isSettled && areSettled nodes

end

theorem areSettled_iff {nodes : List Node} :
    areSettled nodes = true ↔ ∀ node ∈ nodes, node.isSettled = true := by
  induction nodes with
  | nil => simp [areSettled]
  | cons node nodes ih => simp [areSettled, ih]

theorem textAll_eq_flatMap (nodes : List Node) : textAll nodes = nodes.flatMap text := by
  induction nodes with
  | nil => rfl
  | cons node nodes ih => rw [textAll, ih, List.flatMap_cons]

end Node

/-- The parts of a condition as the parser leaves them. -/
structure ConditionParts (attr : List Char) (comparator : Comparator) (value : List Char) :
    Prop where
  ne_nil : attr ≠ []
  trimmed : trim attr = attr
  open_ne : attr.head? ≠ some '('
  sign_ne : ∀ sign, attr.head? ≠ some (GroupSign.char sign)
  unsplit : ∀ before inside after, attr ≠ before ++ Comparator.sign inside ++ after
  value_last : ∀ c ∈ value.getLast?, isBlank c = false
  balanced : Balanced (attr ++ comparator.sign ++ value)

/-- A node with the parts of its conditions, and the children of its negations, as the parser
leaves them. -/
inductive WellFormed : Node → Prop
  | condition {attr value : List Char} {comparator : Comparator}
      (h : ConditionParts attr comparator value) :
      WellFormed (.condition (String.ofList attr) comparator (String.ofList value))
  | group {sign : GroupSign} {children : List Node} (hcount : sign = .not → children.length = 1)
      (hchildren : ∀ child ∈ children, WellFormed child) : WellFormed (.group sign children)

/-! ## Conditions -/

/-- A character that merges with an equals sign after it makes an operator with it. -/
theorem mergesWith_iff {attr : List Char} {comparator : Comparator} :
    mergesWith attr comparator = true ↔
      comparator = .equal ∧ ∃ before longer c, attr = before ++ [c] ∧
        Comparator.sign longer = [c, '='] := by
  constructor
  · intro h
    simp only [mergesWith, Bool.and_eq_true, Bool.or_eq_true, decide_eq_true_eq,
      List.getLast?_eq_some_iff] at h
    obtain ⟨rfl, (⟨before, rfl⟩ | ⟨before, rfl⟩) | ⟨before, rfl⟩⟩ := h
    · exact ⟨rfl, before, .atLeast, '>', rfl, rfl⟩
    · exact ⟨rfl, before, .atMost, '<', rfl, rfl⟩
    · exact ⟨rfl, before, .approximately, '~', rfl, rfl⟩
  · intro hparts
    obtain ⟨rfl, before, longer, c, rfl, hsign⟩ := hparts
    obtain rfl | rfl | rfl : c = '>' ∨ c = '<' ∨ c = '~' := by
      cases longer <;> simp_all [Comparator.sign, eq_comm]
    all_goals simp [mergesWith]

namespace ConditionParts

variable {attr value : List Char} {comparator : Comparator}

/-- Neither the attribute nor the value, nor the operator where there is no value, ends the text of
a condition with a blank. -/
theorem isTrimmed (h : ConditionParts attr comparator value) :
    IsTrimmed (attr ++ comparator.sign ++ value) where
  head := by
    intro c hc
    rw [List.append_assoc, List.head?_append_of_ne_nil _ h.ne_nil] at hc
    have htrimmed := isTrimmed_trim attr
    rw [h.trimmed] at htrimmed
    exact htrimmed.head c hc
  last := by
    intro c hc
    by_cases hvalue : value = []
    · obtain ⟨start, hsign⟩ : ∃ start, comparator.sign = start ++ ['='] := by
        rcases comparator.sign_eq with hsign | ⟨d, hsign⟩
        · exact ⟨[], hsign⟩
        · exact ⟨[d], hsign⟩
      rw [hvalue, List.append_nil, hsign, ← List.append_assoc, List.getLast?_concat] at hc
      obtain rfl : '=' = c := by simpa using hc
      decide
    · rw [List.getLast?_append_of_ne_nil _ hvalue] at hc
      exact h.value_last c hc

/-- A condition is split where its parts meet unless the attribute merges with the operator. -/
theorem split_iff (h : ConditionParts attr comparator value) :
    Split (attr ++ comparator.sign ++ value) attr comparator value ↔
      mergesWith attr comparator = false := by
  rw [← Bool.not_eq_true, mergesWith_iff]
  constructor
  · rintro hsplit ⟨rfl, before, longer, c, rfl, hsign⟩
    have hle := hsplit.leftmost before longer value (by rw [hsign]; simp [Comparator.sign])
    rw [List.length_append, List.length_singleton] at hle
    omega
  · intro hmerge
    refine ⟨rfl, fun before inside after heq => ?_, fun longer after heq => ?_⟩
    · by_contra hlt
      rw [List.append_assoc, List.append_assoc] at heq
      -- the attribute goes on after `before`, so that it holds the operator or its first character
      obtain ⟨rest, hattr, hrest⟩ : ∃ rest, attr = before ++ rest ∧
          inside.sign ++ after = rest ++ (comparator.sign ++ value) := by
        rcases List.append_eq_append_iff.1 heq with ⟨rest, rfl, hrest⟩ | ⟨rest, hattr, hrest⟩
        · simp at hlt
        · exact ⟨rest, hattr, hrest⟩
      cases rest with
      | nil => simp [hattr] at hlt
      | cons c rest =>
          rcases inside.sign_eq with hsign | ⟨d, hsign⟩
          · simp only [hsign, List.cons_append, List.nil_append, List.cons.injEq] at hrest
            exact h.unsplit before inside rest (by rw [hattr, hsign, ← hrest.1]; simp)
          · simp only [hsign, List.cons_append, List.nil_append, List.cons.injEq] at hrest
            obtain ⟨rfl, hrest⟩ := hrest
            cases rest with
            | nil =>
                refine hmerge ⟨?_, before, inside, d, hattr, hsign⟩
                cases comparator <;> simp [Comparator.sign] at hrest ⊢
            | cons c rest =>
                simp only [List.cons_append, List.cons.injEq] at hrest
                exact h.unsplit before inside rest (by rw [hattr, hsign, ← hrest.1]; simp)
    · rw [List.append_assoc, List.append_assoc, List.append_cancel_left_eq] at heq
      obtain ⟨rfl, -⟩ := Comparator.sign_append_inj heq
      exact Nat.le_refl _

/-- A condition is read back from its text unless the attribute merges with the operator. -/
theorem derives_iff (h : ConditionParts attr comparator value) :
    Derives (attr ++ comparator.sign ++ value)
        (.condition (String.ofList attr) comparator (String.ofList value)) ↔
      mergesWith attr comparator = false := by
  have htrim := h.isTrimmed.trim_eq
  have hhead : (attr ++ comparator.sign ++ value).head? = attr.head? := by
    rw [List.append_assoc, List.head?_append_of_ne_nil _ h.ne_nil]
  have hopen : (trim (attr ++ comparator.sign ++ value)).head? ≠ some '(' := by
    rw [htrim, hhead]
    exact h.open_ne
  have hsign (sign) : (trim (attr ++ comparator.sign ++ value)).head? ≠
      some (GroupSign.char sign) := by
    rw [htrim, hhead]
    exact h.sign_ne sign
  have hblank : allBlank attr = false := by
    rw [← Bool.not_eq_true, ← trim_eq_nil_iff, h.trimmed]
    exact h.ne_nil
  rw [derives_condition_iff h.balanced hopen hsign, parseCondition_eq_ok_iff, htrim, ← h.split_iff]
  constructor
  · intro hparts
    obtain ⟨attr', comparator', value', hsplit, -, heq⟩ := hparts
    simp only [Node.condition.injEq, String.ofList_inj] at heq
    obtain ⟨-, rfl, rfl⟩ := heq
    have hattr := hsplit.eq
    rw [List.append_assoc, List.append_assoc, List.append_cancel_right_eq] at hattr
    rwa [← hattr] at hsplit
  · exact fun hsplit => ⟨attr, comparator, value, hsplit, hblank, by rw [h.trimmed]⟩

end ConditionParts

/-! ## Nodes -/

namespace Node

@[simp] theorem inner_condition (attr value : List Char) (comparator : Comparator) :
    inner (.condition (String.ofList attr) comparator (String.ofList value)) =
      attr ++ comparator.sign ++ value := by
  simp [inner, text]

@[simp] theorem inner_group (sign : GroupSign) (children : List Node) :
    inner (.group sign children) = sign.char :: textAll children := by
  rw [inner, text, List.cons_append, List.drop_succ_cons, List.drop_zero, List.dropLast_concat]

/-- The text of a node is a group around what is inside. -/
theorem text_eq (node : Node) : node.text = '(' :: node.inner ++ [')'] := by
  cases node with
  | condition attr comparator value => simp [inner, text]
  | group sign children => simp [text]

end Node

/-- The texts of nodes are groups, one after the other. -/
theorem Node.textAll_eq_grouped (nodes : List Node) :
    textAll nodes = grouped (nodes.map inner) := by
  rw [textAll_eq_flatMap, grouped, List.flatMap_map]
  exact congrArg (nodes.flatMap ·) (funext text_eq)

/-- The texts of nodes, one after the other, are a row of groups without anything between them. -/
theorem row_textAll {nodes : List Node} (h : ∀ node ∈ nodes, Balanced node.inner) :
    Row (Node.textAll nodes) (nodes.map Node.inner) (List.replicate (nodes.length + 1) []) := by
  rw [Node.textAll_eq_grouped]
  simpa using row_grouped (List.forall_mem_map.2 h)

/-- What is inside the text of a well-formed node is balanced. -/
theorem WellFormed.balanced_inner {node : Node} (h : WellFormed node) : Balanced node.inner := by
  induction h with
  | condition h =>
      rw [Node.inner_condition]
      exact h.balanced
  | @group sign children _ _ ih =>
      rw [Node.inner_group, Balanced, closes_cons_iff (by cases sign <;> rfl)]
      exact (row_textAll ih).balanced

/-- Nodes are read back from their texts if each is. -/
theorem forall₂_derives_iff {nodes : List Node} {contents gaps : List (List Char)}
    (h : ∀ node ∈ nodes, WellFormed node) (hrow : Row (Node.textAll nodes) contents gaps) :
    List.Forall₂ Derives contents nodes ↔ ∀ node ∈ nodes, Derives node.inner node := by
  cases hrow.splitGroups_eq.symm.trans
    (row_textAll fun node hmem => (h node hmem).balanced_inner).splitGroups_eq
  rw [List.forall₂_map_left_iff, List.forall₂_same]

theorem GroupSign.isBlank_char (sign : GroupSign) : isBlank sign.char = false := by
  cases sign <;> decide

/-- The text of a group ends with its operator or with a parenthesis. -/
theorem isTrimmed_inner_group (sign : GroupSign) (children : List Node) :
    IsTrimmed (sign.char :: Node.textAll children) := by
  rw [Node.textAll_eq_grouped]
  exact isTrimmed_cons_grouped sign.isBlank_char _

/-- A well-formed node is read back from its text if and only if it is settled. -/
theorem WellFormed.derives_inner_iff {node : Node} (h : WellFormed node) :
    Derives node.inner node ↔ node.isSettled = true := by
  induction h with
  | condition h =>
      rw [Node.inner_condition, h.derives_iff, Node.isSettled]
      simp
  | @group sign children hcount hchildren ih =>
      -- a group is read back if and only if each child is read back from its own text
      have hsettled : Node.areSettled children = true ↔
          ∀ child ∈ children, Derives child.inner child := by
        rw [Node.areSettled_iff]
        exact forall₂_congr fun child hmem => (ih child hmem).symm
      rw [Node.inner_group, derives_group_iff (isTrimmed_inner_group sign children).trim_eq,
        Node.isSettled, hsettled]
      constructor
      · intro hparts
        obtain ⟨contents, gaps, children', hrow, -, hforall, -, heq⟩ := hparts
        cases heq
        exact (forall₂_derives_iff hchildren hrow).1 hforall
      · intro hderives
        have hrow := row_textAll fun child hmem => (hchildren child hmem).balanced_inner
        refine ⟨_, _, children, hrow, fun gap hgap => ?_,
          (forall₂_derives_iff hchildren hrow).2 hderives, hcount, rfl⟩
        rw [List.eq_of_mem_replicate hgap]
        rfl

/-- Well-formed nodes are what their texts stand for if and only if they are settled. -/
theorem derivesAll_textAll_iff {nodes : List Node} (hne : nodes ≠ [])
    (h : ∀ node ∈ nodes, WellFormed node) :
    DerivesAll (Node.textAll nodes) nodes ↔ Node.areSettled nodes = true := by
  have hsettled : Node.areSettled nodes = true ↔ ∀ node ∈ nodes, Derives node.inner node := by
    rw [Node.areSettled_iff]
    exact forall₂_congr fun node hmem => (h node hmem).derives_inner_iff.symm
  rw [hsettled]
  constructor
  · intro hparts
    obtain ⟨contents, gaps, hrow, -, hforall⟩ := hparts
    exact (forall₂_derives_iff h hrow).1 hforall
  · intro hderives
    have hrow := row_textAll fun node hmem => (h node hmem).balanced_inner
    exact ⟨_, _, hrow, by simpa using hne, (forall₂_derives_iff h hrow).2 hderives⟩

/-! ## Parsed nodes -/

/-- The parts of a condition that was read from a trimmed text. -/
theorem Split.conditionParts {content attr value : List Char} {comparator : Comparator}
    (hsplit : Split content attr comparator value) (htrimmed : IsTrimmed content)
    (hbalanced : Balanced content) (hopen : content.head? ≠ some '(')
    (hsign : ∀ sign, content.head? ≠ some (GroupSign.char sign)) (hattr : allBlank attr = false) :
    ConditionParts (trim attr) comparator value := by
  have hne : trim attr ≠ [] := by
    rw [ne_eq, trim_eq_nil_iff, hattr]
    exact Bool.false_ne_true
  obtain ⟨before, after, hbefore, hafter, heq⟩ := exists_trim attr
  have hcontent := hsplit.eq
  obtain rfl : before = [] := by
    cases before with
    | nil => rfl
    | cons b before =>
        have hblank := allBlank_iff.1 hbefore b List.mem_cons_self
        have hnot := htrimmed.head b (by rw [hcontent, heq]; rfl)
        cases hblank.symm.trans hnot
  rw [List.nil_append] at heq
  have hhead : content.head? = (trim attr).head? := by
    rw [hcontent, heq, List.append_assoc, List.append_assoc, List.head?_append_of_ne_nil _ hne,
      ← heq]
  refine ⟨hne, trim_trim attr, hhead ▸ hopen, hhead ▸ hsign, fun start inside rest hinside => ?_,
    fun c hc => ?_, ?_⟩
  · -- an operator inside would stand further left than the one at which the text was split
    have hle := hsplit.leftmost start inside (rest ++ after ++ comparator.sign ++ value)
      (by rw [hcontent, heq, hinside]; simp)
    have hlength : (trim attr).length ≤ attr.length := trim_length_le attr
    have hpos : 0 < inside.sign.length := by cases inside <;> simp [Comparator.sign]
    simp only [hinside, List.length_append] at hlength
    omega
  · refine htrimmed.last c ?_
    rw [hcontent]
    exact List.mem_getLast?_append_of_mem_getLast? hc
  · rw [hcontent] at hbalanced
    refine (closes_congr ?_).1 hbalanced
    simp only [List.filter_append, filter_isParen_trim]

/-- Every parsed node is well-formed. -/
theorem Derives.wellFormed {content : List Char} {node : Node} (h : Derives content node) :
    WellFormed node := by
  induction h using Derives.induction with
  | wrapped _ _ _ ih => exact ih
  | group _ _ _ _ hcount ih =>
      exact WellFormed.group hcount (forall_of_forall₂ ih fun _ _ _ hchild => hchild.2)
  | @condition content _ _ _ hbalanced hopen hsign hsplit hattr =>
      exact WellFormed.condition
        (hsplit.conditionParts (isTrimmed_trim content) hbalanced hopen hsign hattr)

/-! ## Assembling what was parsed -/

theorem toList_join (texts : List String) :
    (String.join texts).toList = texts.flatMap String.toList := by
  have hfold (start : String) : (texts.foldl (· ++ ·) start).toList =
      start.toList ++ texts.flatMap String.toList := by
    induction texts generalizing start with
    | nil => simp
    | cons text texts ih => simp [ih]
  simpa [String.join] using hfold ""

theorem nodeText_ofNode (node : Node) :
    nodeText (Part.ofNode node) = .ok (String.ofList node.text) := by
  rw [nodeText, ← Part.text_ofNode]
  cases node <;> rfl

/-- Parsed nodes are assembled to their texts, one after the other. -/
theorem assemble_ofNodes {nodes : List Node} (hne : nodes ≠ []) :
    assemble (Part.ofNodes nodes) = .ok (String.ofList (Node.textAll nodes)) := by
  -- a single node stands for itself, and several nodes are a list
  have hmembers : members (Part.ofNodes nodes) = .ok (nodes.map Part.ofNode) := by
    match nodes, hne with
    | [.condition ..], _ => rfl
    | [.group ..], _ => rfl
    | first :: second :: rest, _ =>
        rw [← Part.ofEach_eq_map]
        rfl
  have htexts : (nodes.map Part.ofNode).mapM nodeText =
      .ok (nodes.map fun node => String.ofList node.text) := by
    rw [mapM_eq_ok_iff, List.forall₂_map_left_iff, List.forall₂_map_right_iff, List.forall₂_same]
    exact fun node _ => nodeText_ofNode node
  rw [assemble, hmembers]
  simp only [bind, Except.bind, assembleAll, htexts, pure, Except.pure, Except.ok.injEq]
  rw [← String.toList_inj, toList_join, String.toList_ofList, Node.textAll_eq_flatMap,
    List.flatMap_map]
  simp

/-- The canonical text of a filter string is read as the same nodes, and is its own canonical text,
if and only if no attribute merges with the operator after it. -/
theorem assemble_reads_back_iff {s : String} {nodes : List Node} (hparse : parse s = .ok nodes) :
    (∃ text again, assemble (Part.ofNodes nodes) = .ok text ∧ parse text = .ok again ∧
      again = nodes ∧ assemble (Part.ofNodes again) = .ok text) ↔ Node.areSettled nodes = true := by
  have hderives := parse_eq_ok_iff.1 hparse
  have hne := hderives.ne_nil
  have hwell : ∀ node ∈ nodes, WellFormed node := by
    obtain ⟨contents, _, _, _, hforall⟩ := hderives
    exact forall_of_forall₂ hforall fun _ _ _ hnode => hnode.wellFormed
  have hagain : parse (String.ofList (Node.textAll nodes)) = .ok nodes ↔
      Node.areSettled nodes = true := by
    rw [parse_eq_ok_iff, String.toList_ofList, derivesAll_textAll_iff hne hwell]
  rw [← hagain, assemble_ofNodes hne]
  constructor
  · intro hparts
    obtain ⟨text, again, htext, hread, rfl, -⟩ := hparts
    cases htext
    exact hread
  · exact fun hread => ⟨_, nodes, rfl, hread, rfl, assemble_ofNodes hne⟩

/-- Blanks around an attribute, and text between two filters, are not written. -/
theorem assemble_reads_back_two :
    parse " ( cn ~= b )or(age >=<)" =
        .ok [.condition "cn" .approximately " b", .condition "age" .atLeast "<"] ∧
      ∃ text again, assemble (Part.ofNodes [.condition "cn" .approximately " b",
          .condition "age" .atLeast "<"]) = .ok text ∧
        parse text = .ok again ∧
        again = [.condition "cn" .approximately " b", .condition "age" .atLeast "<"] ∧
        assemble (Part.ofNodes again) = .ok text := by
  have hparse : parse " ( cn ~= b )or(age >=<)" =
      .ok [.condition "cn" .approximately " b", .condition "age" .atLeast "<"] := by
    with_unfolding_all rfl
  exact ⟨hparse, (assemble_reads_back_iff hparse).2 (by decide)⟩

/-- The blank between the attribute and the operator is not written, and then the operator is read
as a longer one. -/
theorem assemble_merges_operator :
    ¬ ∀ s nodes, parse s = .ok nodes →
      ∃ text, assemble (Part.ofNodes nodes) = .ok text ∧ parse text = .ok nodes := by
  intro h
  have hparse : parse "(cn> =x)" = .ok [.condition "cn>" .equal "x"] := by with_unfolding_all rfl
  have hassemble : assemble (Part.ofNodes [.condition "cn>" .equal "x"]) = .ok "(cn>=x)" := rfl
  have hagain : parse "(cn>=x)" = .ok [.condition "cn" .atLeast "x"] := by with_unfolding_all rfl
  obtain ⟨text, htext, hread⟩ := h _ _ hparse
  cases hassemble.symm.trans htext
  have heq := hagain.symm.trans hread
  simp at heq

end Directory.FilterText
