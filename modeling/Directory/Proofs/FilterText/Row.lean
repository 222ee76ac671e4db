import Directory.FilterText.Parser
import Directory.Proofs.FilterText.Balance

/-!
# Rows of groups

A text that is a row of parenthesised groups with gaps around them. `splitGroups_eq_ok_iff` says
that the scanner takes a text apart exactly if it is such a row, and `exists_splitGroups_iff` that
every balanced text is one. `unwrap?_eq_some_iff` does the same for a text that is one group.
-/

namespace Directory.FilterText

/-- A text made of a gap and then of groups, each with a gap after it: the contents of the groups,
which are balanced, and the gaps, which are without parentheses. -/
inductive Row : List Char → List (List Char) → List (List Char) → Prop
  | gap {gap : List Char} (hgap : NoParens gap) : Row gap [] [gap]
  | group {gap content rest : List Char} {contents gaps : List (List Char)}
      (hgap : NoParens gap) (hcontent : Balanced content) (hrest : Row rest contents gaps) :
      Row (gap ++ '(' :: content ++ ')' :: rest) (content :: contents) (gap :: gaps)

/-! ## The scanner, one group at a time -/

theorem takeWhile_append_of_noParens {gap : List Char} {c : Char} (rest : List Char)
    (hgap : NoParens gap) (hc : isParen c = true) :
    (gap ++ c :: rest).takeWhile (!isParen ·) = gap := by
  rw [List.takeWhile_append_of_pos fun a ha => by simp [hgap a ha]]
  simp [hc]

theorem dropWhile_append_of_noParens {gap : List Char} {c : Char} (rest : List Char)
    (hgap : NoParens gap) (hc : isParen c = true) :
    (gap ++ c :: rest).dropWhile (!isParen ·) = c :: rest := by
  rw [List.dropWhile_append_of_pos fun a ha => by simp [hgap a ha]]
  simp [hc]

/-- A text either has no parentheses or has a first one. -/
theorem noParens_or_exists_eq (cs : List Char) :
    NoParens cs ∨
      ∃ gap rest, NoParens gap ∧ (cs = gap ++ '(' :: rest ∨ cs = gap ++ ')' :: rest) := by
  have hgap : NoParens (cs.takeWhile (!isParen ·)) := by
    intro c hc
    simpa using List.mem_takeWhile_imp hc
  have heq := List.takeWhile_append_dropWhile (p := (!isParen ·)) (l := cs)
  cases hrest : cs.dropWhile (!isParen ·) with
  | nil =>
      rw [hrest, List.append_nil] at heq
      rw [← heq]
      exact Or.inl hgap
  | cons c rest =>
      have hc : isParen c = true := by
        have hnot := List.head?_dropWhile_not (!isParen ·) cs
        simpa [hrest] using hnot
      rw [hrest] at heq
      refine Or.inr ⟨_, rest, hgap, ?_⟩
      obtain rfl | rfl : c = '(' ∨ c = ')' := by simpa [isParen] using hc
      · exact Or.inl heq.symm
      · exact Or.inr heq.symm

theorem splitGroups_gap {gap : List Char} (hgap : NoParens gap) :
    splitGroups gap = .ok ⟨[], [gap]⟩ := by
  have hdrop : gap.dropWhile (!isParen ·) = [] := by
    rw [List.dropWhile_eq_nil_iff]
    exact fun c hc => by simp [hgap c hc]
  have htake : gap.takeWhile (!isParen ·) = gap := by
    rw [List.takeWhile_eq_self_iff]
    exact fun c hc => by simp [hgap c hc]
  unfold splitGroups
  split
  · rw [htake]
  · next hrest => cases hdrop.symm.trans hrest

theorem splitGroups_close {gap : List Char} (rest : List Char) (hgap : NoParens gap) :
    splitGroups (gap ++ ')' :: rest) = .error .missingOpen := by
  have hdrop := dropWhile_append_of_noParens rest hgap (c := ')') rfl
  unfold splitGroups
  split
  · next hrest => cases hdrop.symm.trans hrest
  · next hrest =>
    cases hdrop.symm.trans hrest
    rfl

theorem splitGroups_unclosed {gap rest : List Char} (hgap : NoParens gap)
    (hnone : takeGroup 0 rest = none) :
    splitGroups (gap ++ '(' :: rest) = .error .missingClose := by
  have hdrop := dropWhile_append_of_noParens rest hgap (c := '(') rfl
  unfold splitGroups
  split
  · next hrest => cases hdrop.symm.trans hrest
  · next hrest =>
    cases hdrop.symm.trans hrest
    rw [if_neg (by decide)]
    split
    · rfl
    · next hgroup => cases hnone.symm.trans hgroup

theorem splitGroups_group {gap content : List Char} (rest : List Char) (hgap : NoParens gap)
    (hcontent : Balanced content) :
    splitGroups (gap ++ '(' :: content ++ ')' :: rest) =
      (splitGroups rest).map fun more => ⟨content :: more.groups, gap :: more.outside⟩ := by
  rw [List.append_assoc, List.cons_append]
  have htake := takeWhile_append_of_noParens (content ++ ')' :: rest) hgap (c := '(') rfl
  have hdrop := dropWhile_append_of_noParens (content ++ ')' :: rest) hgap (c := '(') rfl
  have htaken := hcontent.takeGroup_eq rest
  conv_lhs => unfold splitGroups
  split
  · next hrest => cases hdrop.symm.trans hrest
  · next hrest =>
    cases hdrop.symm.trans hrest
    rw [if_neg (by decide), htake]
    split
    · next hgroup => cases htaken.symm.trans hgroup
    · next hgroup =>
      cases htaken.symm.trans hgroup
      cases splitGroups rest <;> rfl

/-! ## Rows and the scanner -/

/-- The scanner takes a row apart into its contents and gaps. -/
theorem Row.splitGroups_eq {cs : List Char} {contents gaps : List (List Char)}
    (h : Row cs contents gaps) : splitGroups cs = .ok ⟨contents, gaps⟩ := by
  induction h with
  | gap hgap => exact splitGroups_gap hgap
  | group hgap hcontent _ ih => rw [splitGroups_group _ hgap hcontent, ih]; rfl

/-- What the scanner takes apart is balanced and a row, and whatever is balanced it takes apart. -/
theorem splitGroups_spec (cs : List Char) :
    (∃ parts, splitGroups cs = .ok parts ∧ Row cs parts.groups parts.outside ∧ Balanced cs) ∨
      ((∃ e, splitGroups cs = .error e) ∧ ¬ Balanced cs) := by
  -- on the length, since the scanner goes on with what stands after the first group
  induction hn : cs.length using Nat.strongRecOn generalizing cs with
  | ind n ih =>
      rcases noParens_or_exists_eq cs with hgap | ⟨gap, rest, hgap, rfl | rfl⟩
      · exact Or.inl ⟨_, splitGroups_gap hgap, Row.gap hgap, hgap.balanced⟩
      · cases hgroup : takeGroup 0 rest with
        | none =>
            -- in a balanced text there would be a group to take
            refine Or.inr ⟨⟨_, splitGroups_unclosed hgap hgroup⟩, fun hbalanced => ?_⟩
            rw [Balanced, hgap.balanced.closes_append_iff, closes_open_iff] at hbalanced
            obtain ⟨_, _, hsome⟩ := hbalanced.exists_takeGroup
            cases hgroup.symm.trans hsome
        | some taken =>
            obtain ⟨content, rest'⟩ := taken
            obtain ⟨hcontent, rfl⟩ := takeGroup_eq_some_iff.1 hgroup
            have hbalanced : Balanced (gap ++ '(' :: content ++ ')' :: rest') ↔ Balanced rest' := by
              rw [List.append_assoc, Balanced, hgap.balanced.closes_append_iff,
                Balanced.closes_group_iff hcontent]
            rw [← List.cons_append, ← List.append_assoc, hbalanced,
              splitGroups_group rest' hgap hcontent]
            rcases ih rest'.length (by simp at hn; omega) rest' rfl with
              ⟨more, hmore, hrow, hrest⟩ | ⟨⟨e, he⟩, hrest⟩
            · exact Or.inl ⟨_, by rw [hmore]; rfl, Row.group hgap hcontent hrow, hrest⟩
            · exact Or.inr ⟨⟨e, by rw [he]; rfl⟩, hrest⟩
      · refine Or.inr ⟨⟨_, splitGroups_close rest hgap⟩, fun hbalanced => ?_⟩
        rw [Balanced, hgap.balanced.closes_append_iff, closes_close_iff] at hbalanced
        obtain ⟨d, hd, _⟩ := hbalanced
        omega

theorem splitGroups_eq_ok_iff {cs : List Char} {parts : Groups} :
    splitGroups cs = .ok parts ↔ Row cs parts.groups parts.outside := by
  constructor
  · intro h
    rcases splitGroups_spec cs with ⟨parts', hparts, hrow, _⟩ | ⟨⟨e, he⟩, _⟩
    · cases h.symm.trans hparts
      exact hrow
    · cases h.symm.trans he
  · exact fun h => h.splitGroups_eq

/-- A text can be taken apart exactly if it is balanced. -/
theorem exists_splitGroups_iff {cs : List Char} :
    (∃ parts, splitGroups cs = .ok parts) ↔ Balanced cs := by
  rcases splitGroups_spec cs with ⟨parts, hparts, _, hbalanced⟩ | ⟨⟨e, he⟩, hbalanced⟩
  · exact ⟨fun _ => hbalanced, fun _ => ⟨parts, hparts⟩⟩
  · refine ⟨?_, fun h => absurd h hbalanced⟩
    intro hparts
    obtain ⟨parts, hparts⟩ := hparts
    cases hparts.symm.trans he

theorem Row.balanced {cs : List Char} {contents gaps : List (List Char)}
    (h : Row cs contents gaps) : Balanced cs :=
  exists_splitGroups_iff.1 ⟨_, h.splitGroups_eq⟩

/-- The groups of a row are balanced. -/
theorem Row.balanced_of_mem {cs : List Char} {contents gaps : List (List Char)}
    (h : Row cs contents gaps) : ∀ content ∈ contents, Balanced content := by
  induction h with
  | gap => simp
  | group _ hcontent _ ih =>
      intro content hmem
      rcases List.mem_cons.1 hmem with rfl | hmem
      · exact hcontent
      · exact ih content hmem

/-! ## Rows without gaps -/

/-- Contents as groups, one after the other. -/
def grouped (contents : List (List Char)) : List Char :=
  contents.flatMap fun content => '(' :: content ++ [')']

@[simp] theorem grouped_nil : grouped [] = [] :=
  rfl

@[simp] theorem grouped_cons (content : List Char) (contents : List (List Char)) :
    grouped (content :: contents) = '(' :: content ++ ')' :: grouped contents := by
  simp [grouped]

/-- Groups one after the other are a row without anything between them. -/
theorem row_grouped {contents : List (List Char)} (h : ∀ content ∈ contents, Balanced content) :
    Row (grouped contents) contents (List.replicate (contents.length + 1) []) := by
  have hnil : NoParens [] := by simp [NoParens]
  induction contents with
  | nil => exact Row.gap hnil
  | cons content contents ih =>
      obtain ⟨hcontent, hcontents⟩ := List.forall_mem_cons.1 h
      rw [grouped_cons]
      exact Row.group hnil hcontent (ih hcontents)

/-- Groups after a character end with that character or with a parenthesis. -/
theorem isTrimmed_cons_grouped {c : Char} (hc : isBlank c = false) (contents : List (List Char)) :
    IsTrimmed (c :: grouped contents) where
  head := by
    intro d hd
    obtain rfl : c = d := by simpa using hd
    exact hc
  last := by
    intro d hd
    rcases List.eq_nil_or_concat contents with rfl | ⟨contents, content, rfl⟩
    · obtain rfl : c = d := by simpa using hd
      exact hc
    · rw [List.concat_eq_append, grouped, List.flatMap_append, List.flatMap_singleton,
        ← List.append_assoc, ← List.cons_append, List.getLast?_concat] at hd
      obtain rfl : ')' = d := by simpa using hd
      decide

/-! ## Blanks around a row -/

theorem Row.append_left {cs : List Char} {contents gaps : List (List Char)} {before : List Char}
    (h : Row cs contents gaps) (hbefore : NoParens before) :
    ∃ gaps, Row (before ++ cs) contents gaps := by
  cases h with
  | gap hgap => exact ⟨_, Row.gap (noParens_append_iff.2 ⟨hbefore, hgap⟩)⟩
  | @group gap content rest contents gaps hgap hcontent hrest =>
      refine ⟨(before ++ gap) :: gaps, ?_⟩
      rw [← List.append_assoc, ← List.append_assoc]
      exact Row.group (noParens_append_iff.2 ⟨hbefore, hgap⟩) hcontent hrest

theorem Row.append_right {cs : List Char} {contents gaps : List (List Char)} {after : List Char}
    (h : Row cs contents gaps) (hafter : NoParens after) :
    ∃ gaps, Row (cs ++ after) contents gaps := by
  induction h with
  | gap hgap => exact ⟨_, Row.gap (noParens_append_iff.2 ⟨hgap, hafter⟩)⟩
  | @group gap content rest contents _ hgap hcontent _ ih =>
      obtain ⟨gaps, hrest⟩ := ih
      refine ⟨gap :: gaps, ?_⟩
      rw [List.append_assoc, List.cons_append]
      exact Row.group hgap hcontent hrest

/-- The groups of a text are those of the trimmed text. -/
theorem exists_row_trim_iff {cs : List Char} {contents : List (List Char)} :
    (∃ gaps, Row (trim cs) contents gaps) ↔ ∃ gaps, Row cs contents gaps := by
  have hgrow {contents gaps} (h : Row (trim cs) contents gaps) : ∃ gaps, Row cs contents gaps := by
    obtain ⟨before, after, hbefore, hafter, heq⟩ := exists_trim cs
    obtain ⟨_, hleft⟩ := h.append_left (noParens_of_allBlank hbefore)
    rw [heq]
    exact hleft.append_right (noParens_of_allBlank hafter)
  constructor
  · intro hparts
    obtain ⟨gaps, h⟩ := hparts
    exact hgrow h
  · intro hparts
    obtain ⟨gaps, h⟩ := hparts
    -- the trimmed text is a row as well, and the scanner finds only one row in a text
    obtain ⟨parts, hparts⟩ := exists_splitGroups_iff.2 (balanced_trim_iff.2 h.balanced)
    have htrim := splitGroups_eq_ok_iff.1 hparts
    obtain ⟨gaps', hrow⟩ := hgrow htrim
    cases h.splitGroups_eq.symm.trans hrow.splitGroups_eq
    exact ⟨_, htrim⟩

/-- Nothing stands outside of the groups if the gaps are blank. -/
theorem Groups.stray_eq_nil_iff {parts : Groups} :
    parts.stray = [] ↔ ∀ gap ∈ parts.outside, allBlank gap = true := by
  simp [Groups.stray, List.filter_eq_nil_iff, trim_eq_nil_iff]

/-! ## A single group -/

/-- A row of one group that begins and ends with a parenthesis has nothing around the group. -/
theorem Row.eq_group {cs content : List Char} {gaps : List (List Char)}
    (h : Row cs [content] gaps) (hhead : cs.head? = some '(') (hlast : cs.getLast? = some ')') :
    Balanced content ∧ cs = '(' :: content ++ [')'] := by
  cases h with
  | @group gap _ rest _ _ hgap hcontent hrest =>
      cases hrest with
      | gap hrest =>
          -- neither gap can hold the parenthesis at its end of the text
          have hgapnil : gap = [] := by
            cases gap with
            | nil => rfl
            | cons c gap =>
                obtain rfl : c = '(' := by simpa using hhead
                simpa [isParen] using hgap '(' List.mem_cons_self
          have hrestnil : rest = [] := by
            rcases List.eq_nil_or_concat rest with rfl | ⟨rest, c, rfl⟩
            · rfl
            · rw [List.concat_eq_append] at hlast hrest
              rw [← List.cons_append, ← List.append_assoc, List.getLast?_concat] at hlast
              obtain rfl : c = ')' := by simpa using hlast
              simpa [isParen] using hrest ')' (by simp)
          subst hgapnil hrestnil
          exact ⟨hcontent, rfl⟩

/-- A text is unwrapped if it is one group from the first to the last character. -/
theorem unwrap?_eq_some_iff {cs content : List Char} :
    unwrap? cs = .ok (some content) ↔ Balanced content ∧ cs = '(' :: content ++ [')'] := by
  constructor
  · intro h
    unfold unwrap? at h
    split at h
    · next hends =>
      cases hparts : splitGroups cs with
      | error e => simp [hparts, bind, Except.bind] at h
      | ok parts =>
          simp only [hparts, bind, Except.bind] at h
          split at h
          · next group hgroups hstray =>
            cases h
            have hrow := splitGroups_eq_ok_iff.1 hparts
            rw [hgroups] at hrow
            exact hrow.eq_group hends.1 hends.2
          · cases h
    · cases h
  · intro hparts
    obtain ⟨hcontent, rfl⟩ := hparts
    have hnil : NoParens [] := by simp [NoParens]
    have hrow : Row ('(' :: content ++ [')']) [content] [[], []] :=
      Row.group hnil hcontent (Row.gap hnil)
    unfold unwrap?
    rw [if_pos ⟨rfl, List.getLast?_concat⟩, hrow.splitGroups_eq]
    rfl

/-- Unwrapping a balanced text does not fail. -/
theorem exists_unwrap? {cs : List Char} (h : Balanced cs) :
    ∃ content, unwrap? cs = .ok content := by
  obtain ⟨parts, hparts⟩ := exists_splitGroups_iff.2 h
  unfold unwrap?
  rw [hparts]
  simp only [bind, Except.bind]
  split
  · split <;> exact ⟨_, rfl⟩
  · exact ⟨_, rfl⟩

end Directory.FilterText
