import Mathlib.Data.List.Forall2
import Directory.FilterText.Assembly
import Directory.Proofs.FilterText.Condition
import Directory.Proofs.FilterText.Row

/-!
# The grammar of filter strings

What filter strings are, said without the parser: `Derives` relates the content of a group to the
node that it stands for, and `DerivesAll` a whole filter string to its nodes. The parser reads
exactly the derived nodes (`parse_eq_ok_iff`), and refuses every text without a derivation.
-/

namespace Directory.FilterText

/-- The node that the content of a group stands for. Blanks around the content do not count. -/
inductive Derives : List Char → Node → Prop
  | wrapped {content inner : List Char} {node : Node}
      (htrim : trim content = '(' :: inner ++ [')']) (hinner : Balanced inner)
      (hnode : Derives inner node) : Derives content node
  | group {content rest : List Char} {contents gaps : List (List Char)} {sign : GroupSign}
      {children : List Node}
      (htrim : trim content = sign.char :: rest) (hrow : Row rest contents gaps)
      (hgaps : ∀ gap ∈ gaps, allBlank gap = true)
      (hchildren : List.Forall₂ Derives contents children)
      (hcount : sign = .not → children.length = 1) : Derives content (.group sign children)
  | condition {content attr value : List Char} {comparator : Comparator}
      (hbalanced : Balanced (trim content)) (hopen : (trim content).head? ≠ some '(')
      (hsign : ∀ sign, (trim content).head? ≠ some (GroupSign.char sign))
      (hsplit : Split (trim content) attr comparator value) (hattr : allBlank attr = false) :
      Derives content (.condition (String.ofList (trim attr)) comparator (String.ofList value))

/-- Induction on derivations, with what is known of each of the groups in a row. -/
@[elab_as_elim]
theorem Derives.induction
    {motive : (content : List Char) → (node : Node) → Derives content node → Prop}
    (wrapped : ∀ {content inner node} (htrim : trim content = '(' :: inner ++ [')'])
      (hinner : Balanced inner) (hnode : Derives inner node),
      motive inner node hnode → motive content node (.wrapped htrim hinner hnode))
    (group : ∀ {content rest contents gaps sign children}
      (htrim : trim content = GroupSign.char sign :: rest) (hrow : Row rest contents gaps)
      (hgaps : ∀ gap ∈ gaps, allBlank gap = true)
      (hchildren : List.Forall₂ Derives contents children)
      (hcount : sign = .not → children.length = 1),
      List.Forall₂ (fun inner child => ∃ hchild, motive inner child hchild) contents children →
        motive content (.group sign children) (.group htrim hrow hgaps hchildren hcount))
    (condition : ∀ {content attr comparator value} (hbalanced : Balanced (trim content))
      (hopen : (trim content).head? ≠ some '(')
      (hsign : ∀ sign, (trim content).head? ≠ some (GroupSign.char sign))
      (hsplit : Split (trim content) attr comparator value) (hattr : allBlank attr = false),
      motive content _ (.condition hbalanced hopen hsign hsplit hattr))
    {content : List Char} {node : Node} (h : Derives content node) : motive content node h := by
  -- on the length, as the children of a group come from a list of contents
  induction hn : content.length using Nat.strongRecOn generalizing content node with
  | ind n ih =>
      have hle := trim_length_le content
      cases h with
      | @wrapped _ inner _ htrim hinner hnode =>
          rw [htrim] at hle
          exact wrapped htrim hinner hnode (ih inner.length (by simp at hle; omega) hnode rfl)
      | @group _ rest contents gaps sign children htrim hrow hgaps hchildren hcount =>
          rw [htrim, List.length_cons] at hle
          have hlt : ∀ inner ∈ contents, inner.length < n := fun inner hmem => by
            have := splitGroups_length_lt hrow.splitGroups_eq inner hmem
            omega
          refine group htrim hrow hgaps hchildren hcount ?_
          exact ((List.forall₂_and_left ..).2 ⟨hlt, hchildren⟩).imp fun inner child hchild =>
            ⟨hchild.2, ih inner.length hchild.1 hchild.2 rfl⟩
      | condition hbalanced hopen hsign hsplit hattr =>
          exact condition hbalanced hopen hsign hsplit hattr

/-- The nodes that a filter string stands for: it is a row of at least one group, each of which
stands for one node. -/
def DerivesAll (cs : List Char) (nodes : List Node) : Prop :=
  ∃ contents gaps, Row cs contents gaps ∧ contents ≠ [] ∧ List.Forall₂ Derives contents nodes

theorem GroupSign.ofChar?_eq_some_iff {c : Char} {sign : GroupSign} :
    GroupSign.ofChar? c = some sign ↔ c = sign.char := by
  constructor
  · intro h
    have hfound := List.find?_some h
    exact (beq_iff_eq.1 hfound).symm
  · rintro rfl
    cases sign <;> rfl

/-! ## One content at a time -/

section Inversion

variable {content : List Char} {node : Node}

/-- A wrapped content stands for what is inside. -/
theorem derives_wrapped_iff {inner : List Char} (htrim : trim content = '(' :: inner ++ [')'])
    (hinner : Balanced inner) : Derives content node ↔ Derives inner node := by
  constructor
  · intro h
    cases h with
    | wrapped htrim' _ hnode =>
        rw [htrim, List.append_left_inj, List.cons_inj_right] at htrim'
        rwa [htrim']
    | @group _ _ _ _ sign _ htrim' =>
        rw [htrim] at htrim'
        cases sign <;> cases htrim'
    | condition _ hopen => simp [htrim] at hopen
  · exact Derives.wrapped htrim hinner

/-- A content with an operator in front stands for a group. -/
theorem derives_group_iff {sign : GroupSign} {rest : List Char}
    (htrim : trim content = sign.char :: rest) :
    Derives content node ↔ ∃ contents gaps children, Row rest contents gaps ∧
      (∀ gap ∈ gaps, allBlank gap = true) ∧ List.Forall₂ Derives contents children ∧
      (sign = .not → children.length = 1) ∧ node = .group sign children := by
  constructor
  · intro h
    cases h with
    | wrapped htrim' =>
        rw [htrim] at htrim'
        cases sign <;> cases htrim'
    | @group _ rest' contents gaps sign' children htrim' hrow hgaps hchildren hcount =>
        rw [htrim, List.cons.injEq] at htrim'
        obtain ⟨hsign, rfl⟩ := htrim'
        obtain rfl : sign = sign' := by cases sign <;> cases sign' <;> simp_all [GroupSign.char]
        exact ⟨contents, gaps, children, hrow, hgaps, hchildren, hcount, rfl⟩
    | condition _ _ hsign => exact absurd (by rw [htrim]; rfl) (hsign sign)
  · intro hparts
    obtain ⟨contents, gaps, children, hrow, hgaps, hchildren, hcount, rfl⟩ := hparts
    exact Derives.group htrim hrow hgaps hchildren hcount

/-- Any other content stands for a condition. -/
theorem derives_condition_iff (hbalanced : Balanced content)
    (hopen : (trim content).head? ≠ some '(')
    (hsign : ∀ sign, (trim content).head? ≠ some (GroupSign.char sign)) :
    Derives content node ↔ parseCondition (trim content) = .ok node := by
  rw [parseCondition_eq_ok_iff]
  constructor
  · intro h
    cases h with
    | wrapped htrim => simp [htrim] at hopen
    | @group _ _ _ _ sign _ htrim => exact absurd (by rw [htrim]; rfl) (hsign sign)
    | condition _ _ _ hsplit hattr => exact ⟨_, _, _, hsplit, hattr, rfl⟩
  · intro hparts
    obtain ⟨attr, comparator, value, hsplit, hattr, rfl⟩ := hparts
    exact Derives.condition (balanced_trim_iff.2 hbalanced) hopen hsign hsplit hattr

/-- A content that begins with a parenthesis but is not wrapped stands for nothing. -/
theorem not_derives_of_not_wrapped {rest : List Char} (htrim : trim content = '(' :: rest)
    (hwrap : ∀ inner, Balanced inner → trim content ≠ '(' :: inner ++ [')']) :
    ¬ Derives content node := by
  intro h
  cases h with
  | wrapped htrim' hinner => exact hwrap _ hinner htrim'
  | @group _ _ _ _ sign _ htrim' =>
      rw [htrim] at htrim'
      cases sign <;> cases htrim'
  | condition _ hopen => simp [htrim] at hopen

end Inversion

/-! ## The parser, one content at a time -/

/-- A sequence of readings succeeds if each of them does. -/
theorem mapM_eq_ok_iff {f : α → Except ε β} {xs : List α} {ys : List β} :
    xs.mapM f = .ok ys ↔ List.Forall₂ (fun x y => f x = .ok y) xs ys := by
  induction xs generalizing ys with
  | nil =>
      rw [List.mapM_nil, List.forall₂_nil_left_iff]
      exact ⟨fun h => (Except.ok.inj h).symm, fun h => by rw [h]; rfl⟩
  | cons x xs ih =>
      rw [List.mapM_cons, List.forall₂_cons_left_iff]
      cases hx : f x with
      | error e => simp [bind, Except.bind]
      | ok y =>
          cases hxs : xs.mapM f with
          | error e =>
              simp only [bind, Except.bind, reduceCtorEq, false_iff]
              intro hparts
              obtain ⟨_, rest, _, hrest, _⟩ := hparts
              cases hxs.symm.trans (ih.2 hrest)
          | ok rest =>
              simp only [bind, Except.bind, pure, Except.pure, Except.ok.injEq]
              constructor
              · rintro rfl
                exact ⟨y, rest, rfl, ih.1 hxs, rfl⟩
              · intro hparts
                obtain ⟨_, rest', rfl, hrest, rfl⟩ := hparts
                cases hxs.symm.trans (ih.2 hrest)
                rfl

/-- Relations that agree on the members of a list relate it to the same lists. -/
theorem forall₂_congr_of_mem {R S : α → β → Prop} {xs : List α} {ys : List β}
    (h : ∀ x ∈ xs, ∀ y, R x y ↔ S x y) : List.Forall₂ R xs ys ↔ List.Forall₂ S xs ys := by
  induction xs generalizing ys with
  | nil => rw [List.forall₂_nil_left_iff, List.forall₂_nil_left_iff]
  | cons x xs ih =>
      have hxs (zs : List β) : List.Forall₂ R xs zs ↔ List.Forall₂ S xs zs :=
        ih fun x hx => h x (List.mem_cons_of_mem _ hx)
      simp only [List.forall₂_cons_left_iff, h x List.mem_cons_self, hxs]

/-- What is related to members of a list has whatever property it has from them. -/
theorem forall_of_forall₂ {R : α → β → Prop} {P : β → Prop} {xs : List α} {ys : List β}
    (h : List.Forall₂ R xs ys) (hprop : ∀ x ∈ xs, ∀ y, R x y → P y) : ∀ y ∈ ys, P y := by
  induction h with
  | nil => simp
  | @cons x y xs ys hxy _ ih =>
      rw [List.forall_mem_cons]
      exact ⟨hprop x List.mem_cons_self y hxy,
        ih fun x hx => hprop x (List.mem_cons_of_mem _ hx)⟩

/-- Lists of which the members correspond have a property throughout if the other has the
corresponding one. -/
theorem forall_mem_iff_of_forall₂ {R : α → β → Prop} {P : α → Prop} {Q : β → Prop} {xs : List α}
    {ys : List β} (h : List.Forall₂ R xs ys) (hprop : ∀ x y, R x y → (P x ↔ Q y)) :
    (∀ x ∈ xs, P x) ↔ ∀ y ∈ ys, Q y :=
  ⟨fun hall => forall_of_forall₂ h fun x hx y hxy => (hprop x y hxy).1 (hall x hx),
    fun hall => forall_of_forall₂ h.flip fun y hy x hxy => (hprop x y hxy).2 (hall y hy)⟩

/-- What is in the first of two related lists is related to something in the second. -/
theorem exists_mem_of_forall₂ {R : α → β → Prop} {xs : List α} {ys : List β} {x : α}
    (h : List.Forall₂ R xs ys) (hx : x ∈ xs) : ∃ y ∈ ys, R x y := by
  have hall : ∀ x ∈ xs, ∃ y ∈ ys, R x y :=
    forall_of_forall₂ h.flip fun y hy _ hxy => ⟨y, hy, hxy⟩
  exact hall x hx

/-- The group that an operator makes of the groups after it. -/
def parseGroup (sign : GroupSign) (rest : List Char) : Except Malformed Node := do
  let parts ← splitGroups rest
  match parts.stray with
  | stray :: _ => .error (.strayText (strayText rest stray))
  | [] => do
    let children ← parts.groups.mapM parseContent
    if sign = .not ∧ children.length ≠ 1 then throw .negationOfMany
    return .group sign children

/-- The parser without the evidence that it ends. -/
theorem parseContent_eq (content : List Char) :
    parseContent content =
      match unwrap? (trim content) with
      | .error e => .error e
      | .ok (some inner) => parseContent inner
      | .ok none =>
        match trim content with
        | [] => .error .nothing
        | c :: rest =>
          match GroupSign.ofChar? c with
          | some sign => parseGroup sign rest
          | none =>
            if c = '(' then .error (.groupWithoutOperator (c :: rest))
            else parseCondition (c :: rest) := by
  conv_lhs => unfold parseContent
  dsimp only
  split
  · next h => rw [h]
  · next h => rw [h]
  · next h =>
    simp only [h]
    split
    · next htrim _ => rw [htrim]
    · next htrim _ =>
      rw [htrim]
      dsimp only
      split
      · next hc => rw [hc]
      · next hc =>
        rw [hc]
        dsimp only [parseGroup]
        split
        · next hparts => rw [hparts]; rfl
        · next parts hparts =>
          have hmap : parts.groups.attach.mapM (fun group => parseContent group.1) =
              parts.groups.mapM parseContent := by
            rw [List.mapM_subtype (g := parseContent) fun _ _ => rfl, List.unattach_attach]
          rw [hparts, hmap]
          rfl

theorem parseGroup_eq_ok_iff {sign : GroupSign} {rest : List Char} {node : Node} :
    parseGroup sign rest = .ok node ↔ ∃ contents gaps children, Row rest contents gaps ∧
      (∀ gap ∈ gaps, allBlank gap = true) ∧
      List.Forall₂ (fun content node => parseContent content = .ok node) contents children ∧
      (sign = .not → children.length = 1) ∧ node = .group sign children := by
  unfold parseGroup
  constructor
  · intro h
    cases hparts : splitGroups rest with
    | error e => simp [hparts, bind, Except.bind] at h
    | ok parts =>
        simp only [hparts, bind, Except.bind] at h
        split at h
        · cases h
        · next hstray =>
          split at h
          · cases h
          · next children hchildren =>
            split at h
            · cases h
            · next hcount =>
              cases h
              exact ⟨parts.groups, parts.outside, children, splitGroups_eq_ok_iff.1 hparts,
                Groups.stray_eq_nil_iff.1 hstray, mapM_eq_ok_iff.1 hchildren,
                fun hsign => Decidable.not_not.1 fun hne => hcount ⟨hsign, hne⟩, rfl⟩
  · intro hparts
    obtain ⟨contents, gaps, children, hrow, hgaps, hchildren, hcount, rfl⟩ := hparts
    have hstray : (Groups.mk contents gaps).stray = [] := Groups.stray_eq_nil_iff.2 hgaps
    rw [hrow.splitGroups_eq]
    simp only [bind, Except.bind, hstray, mapM_eq_ok_iff.2 hchildren]
    rw [if_neg fun h => h.2 (hcount h.1)]
    rfl

/-! ## The parser and the grammar -/

/-- The parser reads a balanced content as the node that it stands for, and nothing else. -/
theorem parseContent_eq_ok_iff {content : List Char} {node : Node} (hbalanced : Balanced content) :
    parseContent content = .ok node ↔ Derives content node := by
  -- on the length: what is inside of parentheses is shorter than the content around it
  induction hn : content.length using Nat.strongRecOn generalizing content node with
  | ind n ih =>
      obtain ⟨wrapped, hwrap⟩ := exists_unwrap? (balanced_trim_iff.2 hbalanced)
      rw [parseContent_eq, hwrap]
      cases wrapped with
      | some inner =>
          obtain ⟨hinner, htrim⟩ := unwrap?_eq_some_iff.1 hwrap
          have hlt := Nat.lt_of_lt_of_le (unwrap?_length_lt hwrap) (trim_length_le content)
          rw [derives_wrapped_iff htrim hinner]
          exact ih inner.length (by omega) hinner rfl
      | none =>
          -- the first character tells what a content is that is not wrapped
          have hnot (inner) (hinner : Balanced inner) : trim content ≠ '(' :: inner ++ [')'] := by
            intro htrim
            cases hwrap.symm.trans (unwrap?_eq_some_iff.2 ⟨hinner, htrim⟩)
          cases htrim : trim content with
          | nil =>
              have hopen : (trim content).head? ≠ some '(' := by simp [htrim]
              have hsign (sign) : (trim content).head? ≠ some (GroupSign.char sign) := by
                simp [htrim]
              rw [derives_condition_iff hbalanced hopen hsign, htrim]
              exact iff_of_false (fun h => by cases h) (by simp [parseCondition, splitCondition])
          | cons c rest =>
              cases hc : GroupSign.ofChar? c with
              | some sign =>
                  obtain rfl := GroupSign.ofChar?_eq_some_iff.1 hc
                  simp only [hc]
                  rw [parseGroup_eq_ok_iff, derives_group_iff htrim]
                  have hlength := trim_length_le content
                  rw [htrim, List.length_cons] at hlength
                  have hchild {contents gaps} (hrow : Row rest contents gaps) (children) :
                      List.Forall₂ (fun content node => parseContent content = .ok node) contents
                        children ↔ List.Forall₂ Derives contents children := by
                    refine forall₂_congr_of_mem fun inner hmem node => ?_
                    have hlt := splitGroups_length_lt hrow.splitGroups_eq inner hmem
                    exact ih inner.length (by omega) (hrow.balanced_of_mem inner hmem) rfl
                  refine exists_congr fun contents => exists_congr fun gaps =>
                    exists_congr fun children => and_congr_right fun hrow => ?_
                  rw [hchild hrow]
              | none =>
                  have hsign (sign) : (trim content).head? ≠ some (GroupSign.char sign) := by
                    rw [htrim, List.head?_cons, ne_eq, Option.some.injEq]
                    intro heq
                    cases hc.symm.trans (GroupSign.ofChar?_eq_some_iff.2 heq)
                  simp only [hc]
                  by_cases hopen : c = '('
                  · subst hopen
                    rw [if_pos rfl]
                    exact iff_of_false (fun h => by cases h) (not_derives_of_not_wrapped htrim hnot)
                  · rw [if_neg hopen, ← htrim]
                    refine (derives_condition_iff hbalanced ?_ hsign).symm
                    simpa [htrim] using hopen

/-- The parser reads a filter string as the nodes that it stands for, and nothing else. -/
theorem parse_eq_ok_iff {s : String} {nodes : List Node} :
    parse s = .ok nodes ↔ DerivesAll s.toList nodes := by
  have hcontents {contents : List (List Char)} (h : ∀ content ∈ contents, Balanced content) :
      contents.mapM parseContent = .ok nodes ↔ List.Forall₂ Derives contents nodes := by
    rw [mapM_eq_ok_iff]
    exact forall₂_congr_of_mem fun content hmem node => parseContent_eq_ok_iff (h content hmem)
  unfold parse
  constructor
  · intro h
    simp only [bind, Except.bind] at h
    split at h
    · cases h
    · split at h
      · cases h
      · next parts hparts =>
        have htrim := splitGroups_eq_ok_iff.1 hparts
        split at h
        · cases h
        · next hempty =>
          obtain ⟨gaps, hrow⟩ := exists_row_trim_iff.1 ⟨_, htrim⟩
          exact ⟨parts.groups, gaps, hrow, by simpa using hempty,
            (hcontents hrow.balanced_of_mem).1 h⟩
  · intro hparts
    obtain ⟨contents, gaps, hrow, hne, hnodes⟩ := hparts
    obtain ⟨gaps, htrim⟩ := exists_row_trim_iff.2 ⟨gaps, hrow⟩
    -- the check that goes before the scanner passes for every balanced text
    have hcounts : checkCounts (trim s.toList) = .ok () := by
      have hsettled := htrim.balanced.settled
      unfold checkCounts
      rw [if_neg (by omega), if_neg (by omega)]
    have hempty : contents.isEmpty = false := by simpa using hne
    simp only [hcounts, htrim.splitGroups_eq, hempty, bind, Except.bind]
    exact (hcontents hrow.balanced_of_mem).2 hnodes

/-! ## What a caller gets -/

/-- The result for nodes: a single node by itself, and several nodes as a list in their order. -/
inductive ResultFor : List Node → Part → Prop
  | one (node : Node) : ResultFor [node] (Part.ofNode node)
  | several (nodes : List Node) (hcount : 2 ≤ nodes.length) :
      ResultFor nodes (.several (nodes.map Part.ofNode))

theorem Part.ofEach_eq_map (nodes : List Node) : Part.ofEach nodes = nodes.map Part.ofNode := by
  induction nodes with
  | nil => rfl
  | cons node nodes ih => simp [Part.ofEach, ih]

theorem resultFor_iff {nodes : List Node} {part : Part} (hne : nodes ≠ []) :
    ResultFor nodes part ↔ part = Part.ofNodes nodes := by
  constructor
  · intro h
    cases h with
    | one => rfl
    | several _ hcount =>
        match nodes, hcount with
        | _ :: _ :: _, _ => rw [Part.ofNodes, Part.ofEach_eq_map]; simp
  · rintro rfl
    match nodes, hne with
    | [node], _ => exact ResultFor.one node
    | first :: second :: rest, _ =>
        have hresult := ResultFor.several (first :: second :: rest) (by simp)
        rwa [← Part.ofEach_eq_map] at hresult

theorem DerivesAll.ne_nil {cs : List Char} {nodes : List Node} (h : DerivesAll cs nodes) :
    nodes ≠ [] := by
  rintro rfl
  obtain ⟨contents, _, _, hne, hnodes⟩ := h
  exact hne (List.forall₂_nil_right_iff.1 hnodes)

theorem parseValue_str (s : String) :
    parseValue (.str s) = (parse s).mapError Malformed.toFailure :=
  rfl

/-- A text is read exactly if it has a derivation, and then as the derived nodes. Every other text
is refused as malformed. -/
theorem parseValue_reads_derivations (s : String) :
    (∀ part, Part.ofNodes <$> parseValue (.str s) = .ok part ↔
      ∃ nodes, DerivesAll s.toList nodes ∧ ResultFor nodes part) ∧
    ((∃ failure, parseValue (.str s) = .error failure ∧ failure.kind = .malformedFilter) ↔
      ¬ ∃ nodes, DerivesAll s.toList nodes) := by
  rw [parseValue_str]
  cases hparse : parse s with
  | ok nodes =>
      have hnodes := parse_eq_ok_iff.1 hparse
      have hunique {other} (h : DerivesAll s.toList other) : other = nodes :=
        Except.ok.inj ((parse_eq_ok_iff.2 h).symm.trans hparse)
      refine ⟨fun part => ?_, ?_⟩
      · simp only [Except.mapError, Functor.map, Except.map, Except.ok.injEq]
        constructor
        · rintro rfl
          exact ⟨nodes, hnodes, (resultFor_iff hnodes.ne_nil).2 rfl⟩
        · intro hparts
          obtain ⟨other, hother, hresult⟩ := hparts
          obtain rfl := hunique hother
          exact ((resultFor_iff hother.ne_nil).1 hresult).symm
      · exact iff_of_false (fun ⟨_, h, _⟩ => by cases h) (fun h => h ⟨nodes, hnodes⟩)
  | error malformed =>
      have hnone : ¬ ∃ nodes, DerivesAll s.toList nodes := by
        intro hparts
        obtain ⟨nodes, hnodes⟩ := hparts
        cases hparse.symm.trans (parse_eq_ok_iff.2 hnodes)
      refine ⟨fun part => ?_, ?_⟩
      · refine iff_of_false (fun h => by cases h) ?_
        intro hparts
        obtain ⟨nodes, hnodes, -⟩ := hparts
        exact hnone ⟨nodes, hnodes⟩
      · exact iff_of_true ⟨_, rfl, rfl⟩ hnone

end Directory.FilterText
