import Directory.Proofs.FilterText.Grammar
import Directory.Proofs.Legible

/-!
# Parentheses that do not match

When a filter string is refused for its parentheses. Two checks look for this: the numbers of both
parentheses are compared, and each scan for groups follows how deep it is. The scan of the whole
text decides; `Scans.balanced` says that every text scanned inside of a balanced one is balanced,
so that no later scan fails.
-/

namespace Directory.FilterText

/-- The text is refused because of a parenthesis. -/
def Malformed.IsParenthesis (malformed : Malformed) : Prop :=
  malformed = .missingOpen ∨ malformed = .missingClose

/-- The texts in which groups are looked for while the content of a group is read: the content
itself where it begins and ends with parentheses, the texts scanned in what is unwrapped from it,
what stands after an operator, and the texts scanned in each of the groups there. -/
inductive Scans : List Char → List Char → Prop
  | wrapped {content : List Char} (hhead : (trim content).head? = some '(')
      (hlast : (trim content).getLast? = some ')') : Scans content (trim content)
  | inner {content inner text : List Char} (hwrap : unwrap? (trim content) = .ok (some inner))
      (hinner : Scans inner text) : Scans content text
  | operator {content rest : List Char} {sign : GroupSign}
      (htrim : trim content = sign.char :: rest) : Scans content rest
  | child {content rest group text : List Char} {sign : GroupSign} {parts : Groups}
      (htrim : trim content = sign.char :: rest) (hparts : splitGroups rest = .ok parts)
      (hgroup : group ∈ parts.groups) (hchild : Scans group text) : Scans content text

/-! ## The scan of a whole text -/

/-- Where no group can be taken, the parentheses that close do not make up for those that open. -/
theorem count_le_of_takeGroup_eq_none {depth : Nat} {cs : List Char}
    (h : takeGroup depth cs = none) : cs.count ')' ≤ cs.count '(' + depth := by
  induction cs generalizing depth with
  | nil => simp
  | cons c cs ih =>
      unfold takeGroup at h
      split at h
      · next hopen =>
        have := ih (Option.map_eq_none_iff.1 h)
        subst hopen
        simp only [List.count_cons_self, List.count_cons_of_ne (show '(' ≠ ')' by decide)]
        omega
      · next hopen =>
        split at h
        · next hclose =>
          subst hclose
          split at h
          · cases h
          · have := ih (Option.map_eq_none_iff.1 h)
            simp only [List.count_cons_self, List.count_cons_of_ne (show ')' ≠ '(' by decide)]
            omega
        · next hclose =>
          rw [List.count_cons_of_ne hopen, List.count_cons_of_ne hclose]
          exact ih (Option.map_eq_none_iff.1 h)

theorem NoParens.count_eq_zero {cs : List Char} (h : NoParens cs) {c : Char}
    (hc : isParen c = true) : cs.count c = 0 := by
  rw [List.count_eq_zero]
  intro hmem
  exact absurd (h c hmem) (by simp [hc])

/-- A scan that fails misses a parenthesis, and it misses one that closes only if more of them open
than close. -/
theorem splitGroups_eq_error {cs : List Char} {malformed : Malformed}
    (h : splitGroups cs = .error malformed) :
    malformed = .missingOpen ∨ malformed = .missingClose ∧ cs.count ')' < cs.count '(' := by
  -- on the length, as the scan goes on with what stands after the first group
  induction hn : cs.length using Nat.strongRecOn generalizing cs with
  | ind n ih =>
      rcases noParens_or_exists_eq cs with hgap | ⟨gap, rest, hgap, rfl | rfl⟩
      · cases (splitGroups_gap hgap).symm.trans h
      · cases hgroup : takeGroup 0 rest with
        | none =>
            cases (splitGroups_unclosed hgap hgroup).symm.trans h
            have hrest := count_le_of_takeGroup_eq_none hgroup
            refine Or.inr ⟨rfl, ?_⟩
            rw [List.count_append, List.count_append, hgap.count_eq_zero rfl,
              hgap.count_eq_zero rfl, List.count_cons_self,
              List.count_cons_of_ne (show '(' ≠ ')' by decide)]
            omega
        | some taken =>
            obtain ⟨content, rest'⟩ := taken
            obtain ⟨hcontent, rfl⟩ := takeGroup_eq_some_iff.1 hgroup
            rw [← List.cons_append, ← List.append_assoc,
              splitGroups_group rest' hgap hcontent] at h
            have hrest : splitGroups rest' = .error malformed := by
              cases hmore : splitGroups rest' with
              | error e => rw [hmore] at h; cases h; rfl
              | ok more => rw [hmore] at h; cases h
            refine (ih rest'.length (by simp at hn; omega) hrest rfl).imp_right fun hclose => ?_
            have hsettled := hcontent.settled
            refine ⟨hclose.1, ?_⟩
            rw [List.count_append, List.count_append, hgap.count_eq_zero rfl,
              hgap.count_eq_zero rfl]
            simp
            omega
      · cases (splitGroups_close rest hgap).symm.trans h
        exact Or.inl rfl

/-- Where both parentheses are equally frequent, a text that is not balanced closes a group too
early. -/
theorem not_balanced_iff {cs : List Char} (hcount : cs.count ')' = cs.count '(') :
    ¬ Balanced cs ↔ ∃ start, start <+: cs ∧ start.count '(' < start.count ')' := by
  constructor
  · intro h
    by_contra hnone
    refine h ⟨fun start hstart => ?_, hcount⟩
    by_contra hlt
    exact hnone ⟨start, hstart, by omega⟩
  · intro hparts h
    obtain ⟨start, hstart, hlt⟩ := hparts
    have := h.bounded start hstart
    omega

/-! ## The scans inside of a group -/

/-- Every text that is scanned inside of a balanced content is balanced. -/
theorem Scans.balanced {content text : List Char} (h : Scans content text)
    (hbalanced : Balanced content) : Balanced text := by
  have hrest {content rest : List Char} {sign : GroupSign}
      (htrim : trim content = sign.char :: rest) (hbalanced : Balanced content) :
      Balanced rest := by
    rw [← balanced_trim_iff, htrim, Balanced,
      closes_cons_iff (by cases sign <;> rfl)] at hbalanced
    exact hbalanced
  induction h with
  | wrapped => exact balanced_trim_iff.2 hbalanced
  | inner hwrap _ ih => exact ih (unwrap?_eq_some_iff.1 hwrap).1
  | operator htrim => exact hrest htrim hbalanced
  | child htrim hparts hgroup _ ih =>
      exact ih ((splitGroups_eq_ok_iff.1 hparts).balanced_of_mem _ hgroup)

/-- Unwrapping fails only where the scan does. -/
theorem unwrap?_eq_error {cs : List Char} {malformed : Malformed}
    (h : unwrap? cs = .error malformed) :
    cs.head? = some '(' ∧ cs.getLast? = some ')' ∧ splitGroups cs = .error malformed := by
  unfold unwrap? at h
  split at h
  · next hends =>
    cases hparts : splitGroups cs with
    | error e =>
        rw [hparts] at h
        cases h
        exact ⟨hends.1, hends.2, rfl⟩
    | ok parts =>
        simp only [hparts, bind, Except.bind] at h
        split at h <;> cases h
  · cases h

theorem parseCondition_ne_parenthesis {content : List Char} {malformed : Malformed}
    (h : parseCondition content = .error malformed) : ¬ malformed.IsParenthesis := by
  unfold parseCondition at h
  split at h
  · cases h
    simp [Malformed.IsParenthesis]
  · split at h
    · cases h
      simp [Malformed.IsParenthesis]
    · cases h

/-- A content that is refused for a parenthesis is so by one of the scans inside of it. -/
theorem exists_scan_of_parseContent_eq_error {content : List Char} {malformed : Malformed}
    (h : parseContent content = .error malformed) (hparen : malformed.IsParenthesis) :
    ∃ text, Scans content text ∧ splitGroups text = .error malformed := by
  -- on the length: what is inside of parentheses is shorter than the content around it
  induction hn : content.length using Nat.strongRecOn generalizing content with
  | ind n ih =>
      have hlength := trim_length_le content
      rw [parseContent_eq] at h
      split at h
      · next hwrap =>
        cases h
        obtain ⟨hhead, hlast, hscan⟩ := unwrap?_eq_error hwrap
        exact ⟨_, .wrapped hhead hlast, hscan⟩
      · next inner hwrap =>
        have hlt := unwrap?_length_lt hwrap
        obtain ⟨text, htext, hscan⟩ := ih inner.length (by omega) h rfl
        exact ⟨text, .inner hwrap htext, hscan⟩
      · split at h
        · cases h
          simp [Malformed.IsParenthesis] at hparen
        · next c rest htrim =>
          split at h
          · next sign hsign =>
            rw [GroupSign.ofChar?_eq_some_iff.1 hsign] at htrim
            rw [htrim, List.length_cons] at hlength
            unfold parseGroup at h
            cases hparts : splitGroups rest with
            | error e =>
                rw [hparts] at h
                cases h
                exact ⟨rest, .operator htrim, hparts⟩
            | ok parts =>
                simp only [hparts, bind, Except.bind] at h
                split at h
                · cases h
                  simp [Malformed.IsParenthesis] at hparen
                · split at h
                  · next hchildren =>
                    cases h
                    obtain ⟨group, hmem, hgroup⟩ := exists_mem_of_mapM_error hchildren
                    have hlt := splitGroups_length_lt hparts group hmem
                    obtain ⟨text, htext, hscan⟩ := ih group.length (by omega) hgroup rfl
                    exact ⟨text, .child htrim hparts hmem htext, hscan⟩
                  · split at h
                    · cases h
                      simp [Malformed.IsParenthesis] at hparen
                    · cases h
          · split at h
            · cases h
              simp [Malformed.IsParenthesis] at hparen
            · exact absurd hparen (parseCondition_ne_parenthesis h)

/-- A balanced content is never refused for a parenthesis. -/
theorem Balanced.parseContent_ne_parenthesis {content : List Char} {malformed : Malformed}
    (hbalanced : Balanced content) (h : parseContent content = .error malformed) :
    ¬ malformed.IsParenthesis := by
  intro hparen
  obtain ⟨text, htext, hscan⟩ := exists_scan_of_parseContent_eq_error h hparen
  obtain ⟨parts, hparts⟩ := exists_splitGroups_iff.2 (htext.balanced hbalanced)
  cases hparts.symm.trans hscan

/-! ## The whole parser -/

theorem count_trim (cs : List Char) {c : Char} (hc : isParen c = true) :
    (trim cs).count c = cs.count c := by
  rw [← List.count_filter hc, filter_isParen_trim, List.count_filter hc]

/-- Blanks around a text do not matter for how often the parentheses occur. -/
theorem checkCounts_trim (cs : List Char) : checkCounts (trim cs) = checkCounts cs := by
  simp only [checkCounts, count_trim cs (c := '(') rfl, count_trim cs (c := ')') rfl]

theorem parse_eq (s : String) :
    parse s = (do
      checkCounts s.toList
      let parts ← splitGroups (trim s.toList)
      if parts.groups.isEmpty then .error (.nothingIn (trim s.toList))
      else parts.groups.mapM parseContent) := by
  rw [← checkCounts_trim]
  rfl

theorem parse_of_count_lt {s : String} (hcount : s.toList.count '(' < s.toList.count ')') :
    parse s = .error .missingOpen := by
  rw [parse_eq, checkCounts, if_pos hcount]
  rfl

theorem parse_of_lt_count {s : String} (hcount : s.toList.count ')' < s.toList.count '(') :
    parse s = .error .missingClose := by
  rw [parse_eq, checkCounts, if_neg (by omega), if_pos hcount]
  rfl

/-- A text of which both parentheses are equally frequent is refused for a parenthesis exactly if
it is not balanced, and then for one that is missing before it is closed. -/
theorem parse_of_count_eq {s : String} (hcount : s.toList.count ')' = s.toList.count '(') :
    (¬ Balanced s.toList ∧ parse s = .error .missingOpen) ∨
      (Balanced s.toList ∧
        ∀ malformed, parse s = .error malformed → ¬ malformed.IsParenthesis) := by
  have hcounts : checkCounts s.toList = .ok () := by
    rw [checkCounts, if_neg (by omega), if_neg (by omega)]
  rw [parse_eq, hcounts, ← balanced_trim_iff]
  cases hparts : splitGroups (trim s.toList) with
  | error e =>
      refine Or.inl ⟨fun hbalanced => ?_, ?_⟩
      · obtain ⟨parts, hok⟩ := exists_splitGroups_iff.2 hbalanced
        cases hok.symm.trans hparts
      · rcases splitGroups_eq_error hparts with rfl | ⟨rfl, hlt⟩
        · rfl
        · rw [count_trim _ rfl, count_trim _ rfl] at hlt
          omega
  | ok parts =>
      have hrow := splitGroups_eq_ok_iff.1 hparts
      refine Or.inr ⟨hrow.balanced, fun malformed h => ?_⟩
      simp only [bind, Except.bind] at h
      split at h
      · cases h
        simp [Malformed.IsParenthesis]
      · obtain ⟨group, hmem, hgroup⟩ := exists_mem_of_mapM_error h
        exact (hrow.balanced_of_mem group hmem).parseContent_ne_parenthesis hgroup

/-- A text is refused for want of an opening parenthesis exactly if more of them close than open,
or if as many do but one closes too early. -/
theorem parse_eq_missingOpen_iff {s : String} :
    parse s = .error .missingOpen ↔
      s.toList.count '(' < s.toList.count ')' ∨
        (s.toList.count '(' = s.toList.count ')' ∧
          ∃ start, start <+: s.toList ∧ start.count '(' < start.count ')') := by
  rcases Nat.lt_trichotomy (s.toList.count '(') (s.toList.count ')') with hlt | heq | hgt
  · exact iff_of_true (parse_of_count_lt hlt) (Or.inl hlt)
  · rw [← not_balanced_iff heq.symm]
    rcases parse_of_count_eq heq.symm with ⟨hnot, hparse⟩ | ⟨hbalanced, hparse⟩
    · exact iff_of_true hparse (Or.inr ⟨heq, hnot⟩)
    · refine iff_of_false (fun h => hparse _ h (Or.inl rfl)) ?_
      rintro (hlt | ⟨-, hnot⟩)
      · omega
      · exact hnot hbalanced
  · rw [parse_of_lt_count hgt]
    refine iff_of_false (fun h => by cases h) ?_
    rintro (hlt | ⟨heq, -⟩) <;> omega

/-- A text is refused for want of a closing parenthesis exactly if more of them open than close. -/
theorem parse_eq_missingClose_iff {s : String} :
    parse s = .error .missingClose ↔ s.toList.count ')' < s.toList.count '(' := by
  rcases Nat.lt_trichotomy (s.toList.count '(') (s.toList.count ')') with hlt | heq | hgt
  · rw [parse_of_count_lt hlt]
    exact iff_of_false (fun h => by cases h) (by omega)
  · refine iff_of_false (fun h => ?_) (by omega)
    rcases parse_of_count_eq heq.symm with ⟨-, hparse⟩ | ⟨-, hparse⟩
    · cases h.symm.trans hparse
    · exact hparse _ h (Or.inr rfl)
  · exact iff_of_true (parse_of_lt_count hgt) hgt

/-! ## What a caller gets -/

theorem append_ne_of_not_isPrefixOf {start middle rest s : String}
    (h : start.toList.isPrefixOf s.toList = false) : start ++ middle ++ rest ≠ s := by
  rintro rfl
  rw [String.append_assoc, String.toList_append, ← Bool.not_eq_true,
    List.isPrefixOf_iff_prefix] at h
  exact h (List.prefix_append _ _)

/-- The words for a missing parenthesis are those of no other reason. -/
theorem Malformed.eq_of_text_eq {malformed found : Malformed} (hparen : malformed.IsParenthesis)
    (h : found.text = malformed.text) : found = malformed := by
  rcases hparen with rfl | rfl <;> cases found
  case inl.missingOpen | inr.missingClose => rfl
  case inl.missingClose | inl.nothing | inl.negationOfMany
      | inr.missingOpen | inr.nothing | inr.negationOfMany =>
    exact absurd h (by decide +kernel)
  -- the others quote a text after their first words
  all_goals exact absurd h (append_ne_of_not_isPrefixOf (by decide +kernel))

theorem parseValue_eq_parenthesis_iff {s : String} {malformed : Malformed}
    (hparen : malformed.IsParenthesis) :
    parseValue (.str s) = .error malformed.toFailure ↔ parse s = .error malformed := by
  rw [parseValue_str]
  cases parse s with
  | ok nodes => exact iff_of_false (fun h => by cases h) (fun h => by cases h)
  | error found =>
      simp only [Except.mapError, Except.error.injEq]
      constructor
      · intro h
        exact Malformed.eq_of_text_eq hparen (Option.some.inj (congrArg Failure.text h))
      · rintro rfl
        rfl

/-- An opening parenthesis is reported as missing exactly if a text closes more groups than it
opens, or closes as many but one of them too early, and a closing one exactly if it opens more than
it closes. Once the whole text has been scanned, every further scan succeeds, in whatever group it
is made, and no group is refused for a parenthesis. -/
theorem parseValue_reports_parentheses (s : String) :
    (parseValue (.str s) = .error Malformed.missingOpen.toFailure ↔
      s.toList.count '(' < s.toList.count ')' ∨
        (s.toList.count '(' = s.toList.count ')' ∧
          ∃ start, start <+: s.toList ∧ start.count '(' < start.count ')')) ∧
    (parseValue (.str s) = .error Malformed.missingClose.toFailure ↔
      s.toList.count ')' < s.toList.count '(') ∧
    ∀ parts, splitGroups (trim s.toList) = .ok parts → ∀ group ∈ parts.groups,
      (∀ text, Scans group text → ∃ inner, splitGroups text = .ok inner) ∧
      ∀ malformed, parseContent group = .error malformed → ¬ malformed.IsParenthesis := by
  refine ⟨?_, ?_, fun parts hparts group hmem => ?_⟩
  · rw [parseValue_eq_parenthesis_iff (Or.inl rfl), parse_eq_missingOpen_iff]
  · rw [parseValue_eq_parenthesis_iff (Or.inr rfl), parse_eq_missingClose_iff]
  · have hgroup := (splitGroups_eq_ok_iff.1 hparts).balanced_of_mem group hmem
    exact ⟨fun text htext => exists_splitGroups_iff.2 (htext.balanced hgroup),
      fun malformed => hgroup.parseContent_ne_parenthesis⟩

end Directory.FilterText
