import Mathlib.Data.List.Infix
import Directory.Proofs.FilterText.Conversion

/-!
# Groups hidden in conditions

A condition goes up to the parenthesis that closes its group, so that further groups in it are a
part of its attribute or of its value. `parse_showsGroups_iff` says for which accepted texts no
group is hidden so: those in which every opening parenthesis that directly follows another one
stands first in its group, or after the operator of it.
-/

namespace Directory.FilterText

/-- The text begins as a condition does, with neither a parenthesis nor the operator of a group. -/
def StartsCondition (cs : List Char) : Prop :=
  ∃ c, (trim cs).head? = some c ∧ c ≠ '(' ∧ ∀ sign : GroupSign, c ≠ sign.char

/-- Between two opening parentheses there is what begins as a condition does. -/
def HidesGroup (cs : List Char) : Prop :=
  ∃ gap, NoParens gap ∧ StartsCondition gap ∧ '(' :: gap ++ ['('] <:+: cs

/-- No condition in the node has a parenthesis in its attribute or its value. -/
def Node.IsPlain (node : Node) : Prop :=
  ∀ attr comparator value, (Node.condition attr comparator value).IsWithin node →
    NoParens attr.toList ∧ NoParens value.toList

/-- The nodes show the groups of the text: no condition has a parenthesis in it, and each group
stands for a node, where a redundant group stands for the node of the group in it. -/
structure ShowsGroups (cs : List Char) (nodes : List Node) : Prop where
  conditions : ∀ root ∈ nodes, root.IsPlain
  groups : ∀ content, Balanced content → '(' :: content ++ [')'] <:+: cs →
    ∃ root ∈ nodes, ∃ node : Node, node.IsWithin root ∧ Derives content node

/-! ## How a text begins -/

theorem head?_trim (cs : List Char) : (trim cs).head? = (trimStart cs).head? := by
  rw [trim]
  cases hstart : trimStart cs with
  | nil => rfl
  | cons c rest =>
      have hc := List.head?_dropWhile_not isBlank cs
      rw [show cs.dropWhile isBlank = c :: rest from hstart] at hc
      rw [trimEnd, List.reverse_cons, List.dropWhile_append]
      split <;> simp_all

/-- What follows an opening parenthesis does not count. -/
theorem startsCondition_append_open_iff (gap rest : List Char) :
    StartsCondition (gap ++ '(' :: rest) ↔ StartsCondition gap := by
  have hopen : isBlank '(' = false := by decide
  unfold StartsCondition
  rw [head?_trim, head?_trim, trimStart, List.dropWhile_append, trimStart]
  cases gap.dropWhile isBlank with
  | nil => simp [hopen]
  | cons c rest => simp

/-- Neither a group in parentheses nor one with an operator begins as a condition does. -/
theorem not_startsCondition {cs rest : List Char} {c : Char} (htrim : trim cs = c :: rest)
    (hc : c = '(' ∨ ∃ sign : GroupSign, c = sign.char) : ¬ StartsCondition cs := by
  intro hstarts
  obtain ⟨c', hhead, hopen, hsign⟩ := hstarts
  rw [htrim, List.head?_cons, Option.some.injEq] at hhead
  subst hhead
  rcases hc with hc | ⟨sign, hc⟩
  · exact hopen hc
  · exact hsign sign hc

/-! ## Hidden groups, one parenthesis at a time -/

section Hidden

variable {gap cs : List Char}

theorem hidesGroup_cons_iff {c : Char} (hc : c ≠ '(') : HidesGroup (c :: cs) ↔ HidesGroup cs := by
  have hprefix (gap : List Char) : ¬ '(' :: gap ++ ['('] <+: c :: cs := by
    rw [List.cons_append, List.cons_prefix_cons]
    exact fun h => hc h.1.symm
  simp only [HidesGroup, List.infix_cons_iff, hprefix, false_or]

/-- A text without parentheses at the start does not matter. -/
theorem hidesGroup_append_iff (hgap : NoParens gap) : HidesGroup (gap ++ cs) ↔ HidesGroup cs := by
  induction gap with
  | nil => rfl
  | cons c gap ih =>
      obtain ⟨hc, hrest⟩ := List.forall_mem_cons.1 hgap
      rw [List.cons_append, hidesGroup_cons_iff (isParen_eq_false_iff.1 hc).1, ih hrest]

/-- What is between two opening parentheses is before a closing one or after it. -/
theorem hidesGroup_append_close_iff (before after : List Char) :
    HidesGroup (before ++ ')' :: after) ↔ HidesGroup before ∨ HidesGroup after := by
  have hsplit {gap : List Char} (hgap : NoParens gap) :
      '(' :: gap ++ ['('] <:+: before ++ ')' :: after ↔
        '(' :: gap ++ ['('] <:+: before ∨ '(' :: gap ++ ['('] <:+: after := by
    have hnot : ')' ∉ '(' :: gap ++ ['('] := by
      simpa using fun h => (isParen_eq_false_iff.1 (hgap _ h)).2 rfl
    rw [List.infix_append_iff]
    constructor
    · rintro (h | h | ⟨left, right, heq, hleft, hright⟩)
      · exact .inl h
      · rcases List.infix_cons_iff.1 h with h | h
        · rw [List.cons_append, List.cons_prefix_cons] at h
          exact absurd h.1 (by decide)
        · exact .inr h
      · -- nothing of it can be on the right, which begins with the closing parenthesis
        rcases List.prefix_cons_iff.1 hright with rfl | ⟨tail, rfl, _⟩
        · rw [List.append_nil] at heq
          exact .inl (heq ▸ hleft.isInfix)
        · exact absurd (heq ▸ List.mem_append_right left List.mem_cons_self) hnot
    · rintro (h | h)
      · exact .inl h
      · exact .inr (.inl (h.trans (List.suffix_cons _ _).isInfix))
  constructor
  · intro hhides
    obtain ⟨gap, hgap, hstarts, hwithin⟩ := hhides
    rcases (hsplit hgap).1 hwithin with h | h
    · exact .inl ⟨gap, hgap, hstarts, h⟩
    · exact .inr ⟨gap, hgap, hstarts, h⟩
  · rintro (⟨gap, hgap, hstarts, h⟩ | ⟨gap, hgap, hstarts, h⟩)
    · exact ⟨gap, hgap, hstarts, (hsplit hgap).2 (.inl h)⟩
    · exact ⟨gap, hgap, hstarts, (hsplit hgap).2 (.inr h)⟩

/-- The text between an opening parenthesis and the next one is hiding the group of that one, or
the rest is. -/
theorem hidesGroup_open_iff (hgap : NoParens gap) (rest : List Char) :
    HidesGroup ('(' :: gap ++ '(' :: rest) ↔
      StartsCondition gap ∨ HidesGroup ('(' :: rest) := by
  have hrest : HidesGroup (gap ++ '(' :: rest) ↔ HidesGroup ('(' :: rest) :=
    hidesGroup_append_iff hgap
  rw [← hrest]
  constructor
  · intro hhides
    obtain ⟨other, hother, hstarts, hwithin⟩ := hhides
    rcases List.infix_cons_iff.1 hwithin with h | h
    · obtain ⟨tail, heq⟩ := h
      -- both are what stands before the first parenthesis of the same text
      have hsame : other ++ '(' :: tail = gap ++ '(' :: rest := by simpa using heq
      have htake := congrArg (List.takeWhile (!isParen ·)) hsame
      rw [takeWhile_append_of_noParens _ hother rfl,
        takeWhile_append_of_noParens _ hgap rfl] at htake
      exact .inl (htake ▸ hstarts)
    · exact .inr ⟨other, hother, hstarts, h⟩
  · rintro (hstarts | ⟨other, hother, hstarts, h⟩)
    · exact ⟨gap, hgap, hstarts, ⟨[], rest, by simp⟩⟩
    · exact ⟨other, hother, hstarts, h.trans (List.suffix_cons _ _).isInfix⟩

/-- One opening parenthesis hides nothing. -/
theorem not_hidesGroup_open (h : NoParens cs) : ¬ HidesGroup ('(' :: cs) := by
  have hnot : '(' ∉ cs := fun hmem => (isParen_eq_false_iff.1 (h _ hmem)).1 rfl
  intro hhides
  obtain ⟨gap, _, _, hwithin⟩ := hhides
  rcases List.infix_cons_iff.1 hwithin with h | h
  · exact hnot ((List.cons_prefix_cons.1 h).2.subset (by simp))
  · exact hnot (h.subset (by simp))

theorem not_hidesGroup_of_noParens (h : NoParens cs) : ¬ HidesGroup cs := by
  intro hhides
  obtain ⟨gap, _, _, hwithin⟩ := hhides
  exact (isParen_eq_false_iff.1 (h '(' (hwithin.subset (by simp)))).1 rfl

end Hidden

/-! ## Rows -/

section Rows

variable {cs : List Char} {contents gaps : List (List Char)}

/-- What stands outside the groups of a row hides nothing. -/
theorem Row.hidesGroup_iff (h : Row cs contents gaps) :
    HidesGroup cs ↔ ∃ content ∈ contents, HidesGroup ('(' :: content) := by
  induction h with
  | gap hgap => simp [not_hidesGroup_of_noParens hgap]
  | group hgap _ _ ih =>
      rw [hidesGroup_append_close_iff, hidesGroup_append_iff hgap, ih]
      simp

/-- A content that does not begin as a condition does hides what the groups in it do. -/
theorem Row.hidesGroup_open_iff (h : Row cs contents gaps) (hstarts : ¬ StartsCondition cs) :
    HidesGroup ('(' :: cs) ↔ ∃ content ∈ contents, HidesGroup ('(' :: content) := by
  cases h with
  | gap hgap => simp [not_hidesGroup_open hgap]
  | @group gap content rest contents _ hgap _ hrest =>
      rw [List.append_assoc, List.cons_append, startsCondition_append_open_iff] at hstarts
      rw [← List.cons_append, ← List.cons_append, hidesGroup_append_close_iff,
        FilterText.hidesGroup_open_iff hgap, hrest.hidesGroup_iff]
      simp [hstarts]

/-- A group in two texts, of which the first is balanced, is in one of them. -/
theorem Balanced.infix_group_append {before after inner : List Char} (hbefore : Balanced before)
    (hinner : Balanced inner) (h : '(' :: inner ++ [')'] <:+: before ++ after) :
    '(' :: inner ++ [')'] <:+: before ∨ '(' :: inner ++ [')'] <:+: after := by
  rcases List.infix_append_iff.1 h with h | h | ⟨left, right, heq, hleft, hright⟩
  · exact .inl h
  · exact .inr h
  · -- a part of the group that is cut off its end opens more than it closes
    rcases List.eq_nil_or_concat right with rfl | ⟨right, c, rfl⟩
    · rw [List.append_nil] at heq
      exact .inl (heq ▸ hleft.isInfix)
    · cases left with
      | nil => exact .inr (heq ▸ hright.isInfix)
      | cons c' left =>
          rw [List.concat_eq_append, ← List.append_assoc, List.cons_append, List.cons_append,
            ← List.cons_append, ← List.cons_append] at heq
          obtain ⟨hopened, -⟩ := List.append_inj' heq rfl
          obtain ⟨rfl, rfl⟩ := List.cons.inj hopened
          obtain ⟨start, rfl⟩ := hleft
          have hstart := hbefore.bounded start (List.prefix_append _ _)
          have hpart := hinner.bounded left (List.prefix_append _ _)
          have hsettled := hbefore.settled
          simp at hsettled hstart hpart
          omega

theorem Row.infix_group {inner : List Char} (h : Row cs contents gaps) (hinner : Balanced inner)
    (hwithin : '(' :: inner ++ [')'] <:+: cs) :
    ∃ content ∈ contents, '(' :: inner ++ [')'] <:+: '(' :: content ++ [')'] := by
  induction h with
  | gap hgap =>
      exact absurd rfl (isParen_eq_false_iff.1 (hgap '(' (hwithin.subset (by simp)))).1
  | @group gap content rest contents gaps hgap hcontent _ ih =>
      have hgroup : Balanced ('(' :: content ++ [')']) :=
        hcontent.closes_group_iff.2 (closes_nil_iff.2 rfl)
      rw [List.append_assoc, List.append_cons ('(' :: content)] at hwithin
      rcases hgap.balanced.infix_group_append hinner hwithin with hwithin | hwithin
      · exact absurd rfl (isParen_eq_false_iff.1 (hgap '(' (hwithin.subset (by simp)))).1
      · rcases hgroup.infix_group_append hinner hwithin with hwithin | hwithin
        · exact ⟨content, List.mem_cons_self, hwithin⟩
        · obtain ⟨other, hmem, hother⟩ := ih hwithin
          exact ⟨other, List.mem_cons_of_mem _ hmem, hother⟩

/-- A group that is part of a group is that group or is in its content. -/
theorem Balanced.infix_group {content inner : List Char} (hcontent : Balanced content)
    (hinner : Balanced inner) (h : '(' :: inner ++ [')'] <:+: '(' :: content ++ [')']) :
    inner = content ∨ '(' :: inner ++ [')'] <:+: content := by
  rcases List.infix_cons_iff.1 h with h | h
  · obtain ⟨tail, heq⟩ := h
    have hsame : inner ++ ')' :: tail = content ++ [')'] := by simpa using heq
    have htake := congrArg (takeGroup 0) hsame
    rw [hinner.takeGroup_eq, hcontent.takeGroup_eq] at htake
    exact .inl (Prod.mk.inj (Option.some.inj htake)).1
  · rcases hcontent.infix_group_append hinner h with h | h
    · exact .inr h
    · simpa using h.subset (List.mem_cons_self (a := '('))

end Rows

/-! ## Contents -/

section Contents

variable {content inner : List Char} {node : Node}

theorem Node.isPlain_condition_iff {attr value : String} {comparator : Comparator} :
    (Node.condition attr comparator value).IsPlain ↔
      NoParens attr.toList ∧ NoParens value.toList := by
  constructor
  · exact fun h => h attr comparator value .self
  · intro h attr' comparator' value' hwithin
    cases hwithin with
    | self => exact h

theorem Node.isPlain_group_iff {sign : GroupSign} {children : List Node} :
    (Node.group sign children).IsPlain ↔ ∀ child ∈ children, child.IsPlain := by
  constructor
  · exact fun h child hmem attr comparator value hwithin => h _ _ _ (.child hmem hwithin)
  · intro h attr comparator value hwithin
    cases hwithin with
    | child hmem hwithin => exact h _ hmem _ _ _ hwithin

theorem noParens_trim_iff {cs : List Char} : NoParens (trim cs) ↔ NoParens cs := by
  have hfilter (ds : List Char) : NoParens ds ↔ ds.filter isParen = [] := by
    simp [NoParens, List.filter_eq_nil_iff]
  rw [hfilter, hfilter, filter_isParen_trim]

/-- A condition is without parentheses exactly if its content is. -/
theorem Split.noParens_iff {attr value : List Char} {comparator : Comparator}
    (h : Split content attr comparator value) :
    NoParens content ↔ NoParens attr ∧ NoParens value := by
  have hsign : NoParens comparator.sign := by
    cases comparator <;> simp [NoParens, Comparator.sign, isParen]
  rw [h.eq, noParens_append_iff, noParens_append_iff]
  simp [hsign]

/-- The content of a condition hides a group exactly if it has a parenthesis. -/
theorem hidesGroup_open_iff_not_noParens (hbalanced : Balanced content)
    (hstarts : StartsCondition content) : HidesGroup ('(' :: content) ↔ ¬ NoParens content := by
  constructor
  · exact fun hhides hnone => not_hidesGroup_open hnone hhides
  · intro hnot
    rcases noParens_or_exists_eq content with hnone | ⟨gap, rest, hgap, rfl | rfl⟩
    · exact absurd hnone hnot
    · exact (hidesGroup_open_iff hgap rest).2
        (.inl ((startsCondition_append_open_iff gap rest).1 hstarts))
    · -- a balanced text does not begin with a closing parenthesis
      rw [Balanced, hgap.balanced.closes_append_iff, closes_close_iff] at hbalanced
      obtain ⟨d, hd, _⟩ := hbalanced
      omega

theorem row_wrapped (hinner : Balanced inner) :
    Row ('(' :: inner ++ [')']) [inner] [[], []] := by
  have hall : ∀ content ∈ [inner], Balanced content := by simpa using hinner
  simpa using row_grouped hall

/-- A content that stands for a group is a row of the contents that stand for the children. -/
theorem exists_row_of_sign {sign : GroupSign} {rest : List Char} {contents gaps : List (List Char)}
    (htrim : trim content = sign.char :: rest) (hrow : Row rest contents gaps) :
    ∃ gaps, Row content contents gaps := by
  have hsign : NoParens [sign.char] := by
    cases sign <;> simp [NoParens, GroupSign.char, isParen]
  exact exists_row_trim_iff.1 (htrim ▸ hrow.append_left hsign)

/-- What neither is wrapped nor has the operator of a group begins as a condition does. -/
theorem Split.startsCondition {attr value : List Char} {comparator : Comparator}
    (h : Split (trim content) attr comparator value) (hopen : (trim content).head? ≠ some '(')
    (hsign : ∀ sign, (trim content).head? ≠ some (GroupSign.char sign)) :
    StartsCondition content := by
  cases htrim : trim content with
  | nil =>
      have heq := h.eq
      rw [htrim] at heq
      cases comparator <;> simp [Comparator.sign] at heq
  | cons c rest =>
      rw [htrim] at hopen hsign
      simp only [List.head?_cons, ne_eq, Option.some.injEq] at hopen hsign
      exact ⟨c, by rw [htrim]; rfl, hopen, hsign⟩

/-- A node has a condition with a parenthesis in it exactly if its content hides a group. -/
theorem Derives.isPlain_iff (h : Derives content node) :
    node.IsPlain ↔ ¬ HidesGroup ('(' :: content) := by
  induction h using Derives.induction with
  | wrapped htrim hinner _ ih =>
      obtain ⟨gaps, hrow⟩ := exists_row_trim_iff.1 ⟨_, htrim ▸ row_wrapped hinner⟩
      rw [hrow.hidesGroup_open_iff (not_startsCondition htrim (.inl rfl)), ih]
      simp
  | group htrim hrow _ _ _ ih =>
      obtain ⟨gaps, hrow⟩ := exists_row_of_sign htrim hrow
      rw [hrow.hidesGroup_open_iff (not_startsCondition htrim (.inr ⟨_, rfl⟩)),
        Node.isPlain_group_iff, ← forall_mem_iff_of_forall₂ ih fun _ _ h => h.2.symm]
      simp
  | condition hbalanced hopen hsign hsplit _ =>
      have hparts := hsplit.noParens_iff
      rw [noParens_trim_iff] at hparts
      rw [hidesGroup_open_iff_not_noParens (balanced_trim_iff.1 hbalanced)
        (hsplit.startsCondition hopen hsign), not_not, Node.isPlain_condition_iff, hparts]
      simp [noParens_trim_iff]

/-- A group in a content that hides none stands for a node within that of the content. -/
theorem Derives.exists_of_infix (h : Derives content node) (hhides : ¬ HidesGroup ('(' :: content))
    (hinner : Balanced inner) (hwithin : '(' :: inner ++ [')'] <:+: content) :
    ∃ part : Node, part.IsWithin node ∧ Derives inner part := by
  induction h using Derives.induction with
  | @wrapped content other node htrim hother hnode ih =>
      obtain ⟨gaps, hrow⟩ := exists_row_trim_iff.1 ⟨_, htrim ▸ row_wrapped hother⟩
      rw [hrow.hidesGroup_open_iff (not_startsCondition htrim (.inl rfl))] at hhides
      obtain ⟨content, hmem, hwithin⟩ := hrow.infix_group hinner hwithin
      obtain rfl : content = other := by simpa using hmem
      rcases hother.infix_group hinner hwithin with rfl | hwithin
      · exact ⟨node, .self, hnode⟩
      · exact ih (by simpa using hhides) hwithin
  | group htrim hrow _ _ _ ih =>
      obtain ⟨gaps, hrow⟩ := exists_row_of_sign htrim hrow
      rw [hrow.hidesGroup_open_iff (not_startsCondition htrim (.inr ⟨_, rfl⟩))] at hhides
      obtain ⟨content, hmem, hwithin⟩ := hrow.infix_group hinner hwithin
      obtain ⟨child, hchild, hnode, ih⟩ := exists_mem_of_forall₂ ih hmem
      rcases (hrow.balanced_of_mem content hmem).infix_group hinner hwithin with rfl | hwithin
      · exact ⟨child, .child hchild .self, hnode⟩
      · obtain ⟨part, hpart, hderives⟩ := ih (fun h => hhides ⟨content, hmem, h⟩) hwithin
        exact ⟨part, .child hchild hpart, hderives⟩
  | condition hbalanced hopen hsign hsplit _ =>
      rw [hidesGroup_open_iff_not_noParens (balanced_trim_iff.1 hbalanced)
        (hsplit.startsCondition hopen hsign), not_not] at hhides
      exact absurd rfl (isParen_eq_false_iff.1 (hhides '(' (hwithin.subset (by simp)))).1

end Contents

/-! ## Filter strings -/

/-- The nodes of an accepted text show all of its groups exactly if there is nothing between two
opening parentheses of the text that begins as a condition does. -/
theorem parse_showsGroups_iff {s : String} {nodes : List Node} (hparse : parse s = .ok nodes) :
    ShowsGroups s.toList nodes ↔ ¬ HidesGroup s.toList := by
  obtain ⟨contents, gaps, hrow, _, hnodes⟩ := parse_eq_ok_iff.1 hparse
  have hplain : ¬ HidesGroup s.toList ↔ ∀ root ∈ nodes, root.IsPlain := by
    rw [hrow.hidesGroup_iff, ← forall_mem_iff_of_forall₂ hnodes fun _ _ h => h.isPlain_iff.symm]
    simp
  refine ⟨fun h => hplain.2 h.conditions, fun hhides => ⟨hplain.1 hhides, ?_⟩⟩
  intro inner hinner hwithin
  obtain ⟨content, hmem, hwithin⟩ := hrow.infix_group hinner hwithin
  obtain ⟨root, hroot, hderives⟩ := exists_mem_of_forall₂ hnodes hmem
  rcases (hrow.balanced_of_mem content hmem).infix_group hinner hwithin with rfl | hwithin
  · exact ⟨root, hroot, root, .self, hderives⟩
  · have hcontent := hderives.isPlain_iff.1 (hplain.1 hhides root hroot)
    obtain ⟨part, hpart, hpartDerives⟩ := hderives.exists_of_infix hcontent hinner hwithin
    exact ⟨root, hroot, part, hpart, hpartDerives⟩

/-- A negation next to a condition, of which the value has an escaped parenthesis. -/
theorem parse_showsGroups_nested :
    let nodes : List Node :=
      [.group .and [.group .not [.condition "cn" .equal "a\\28b"], .condition "sn" .equal "c"]]
    parse "(&(!(cn=a\\28b))(sn=c))" = .ok nodes ∧
      (ShowsGroups "(&(!(cn=a\\28b))(sn=c))".toList nodes ↔
        ¬ HidesGroup "(&(!(cn=a\\28b))(sn=c))".toList) := by
  intro nodes
  have hcn : IsAttribute "cn".toList := by decide
  have hsn : IsAttribute "sn".toList := by decide
  have hwell : ∀ node ∈ nodes, WellFormed node := by
    simp only [nodes, List.forall_mem_singleton]
    refine WellFormed.group (by simp) (List.forall_mem_cons.2 ⟨WellFormed.group (by simp) ?_, ?_⟩)
    · simpa using hcn.wellFormed _ (by decide) (by decide)
    · simpa using hsn.wellFormed _ (by decide) (by decide)
  have hparse : parse "(&(!(cn=a\\28b))(sn=c))" = .ok nodes :=
    parse_eq_ok_iff.2 ((derivesAll_textAll_iff (by simp [nodes]) hwell).2 (by decide))
  exact ⟨hparse, parse_showsGroups_iff hparse⟩

/-- A group in the value of a condition is no node of what is read. -/
theorem parse_hides_group : ¬ ∀ s nodes, parse s = .ok nodes → ShowsGroups s.toList nodes := by
  intro h
  have hparse : parse "(cn=a(sn=b))" = .ok [.condition "cn" .equal "a(sn=b)"] := by
    with_unfolding_all rfl
  have hplain := (h _ _ hparse).conditions _ List.mem_cons_self
  have hvalue := (Node.isPlain_condition_iff.1 hplain).2
  exact absurd (hvalue '(' (by decide)) (by decide)

end Directory.FilterText
