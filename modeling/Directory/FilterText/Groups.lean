import Directory.FilterText.Malformed
import Directory.Text.Blank

/-!
# Groups in a text

The parenthesised groups at the top level of a text, and what stands outside of them.
-/

namespace Directory.FilterText

/-- A parenthesis. -/
def isParen (c : Char) : Bool :=
  c == '(' || c == ')'

/-- The text up to the parenthesis that closes the innermost of `depth + 1` open groups, and the
rest after that parenthesis. There is none if the text ends before. -/
def takeGroup : Nat → List Char → Option (List Char × List Char)
  | _, [] => none
  | depth, c :: cs =>
    if c = '(' then (takeGroup (depth + 1) cs).map fun (group, rest) => (c :: group, rest)
    else if c = ')' then
      match depth with
      | 0 => some ([], cs)
      | depth + 1 => (takeGroup depth cs).map fun (group, rest) => (c :: group, rest)
    else (takeGroup depth cs).map fun (group, rest) => (c :: group, rest)

/-- A group that was taken, its closing parenthesis and the rest make up the text. -/
theorem takeGroup_eq {depth : Nat} {cs group rest : List Char}
    (h : takeGroup depth cs = some (group, rest)) : cs = group ++ ')' :: rest := by
  induction cs generalizing depth group with
  | nil => simp [takeGroup] at h
  | cons c cs ih =>
      unfold takeGroup at h
      split at h
      · obtain ⟨⟨g, r⟩, hg, heq⟩ := Option.map_eq_some_iff.1 h
        cases heq
        simp [ih hg]
      · split at h
        · split at h
          · cases h
            simp_all
          · obtain ⟨⟨g, r⟩, hg, heq⟩ := Option.map_eq_some_iff.1 h
            cases heq
            simp [ih hg]
        · obtain ⟨⟨g, r⟩, hg, heq⟩ := Option.map_eq_some_iff.1 h
          cases heq
          simp [ih hg]

/-- What a text is made of: the contents of its top-level groups, and the fragments outside. -/
structure Groups where
  groups : List (List Char)
  outside : List (List Char)

set_option linter.unusedVariables false in
/-- Take a text apart. There is one fragment before each group and one after the last. -/
def splitGroups (cs : List Char) : Except Malformed Groups :=
  let fragment := cs.takeWhile (!isParen ·)
  match hrest : cs.dropWhile (!isParen ·) with
  | [] => .ok ⟨[], [fragment]⟩
  | c :: rest =>
    if c = ')' then .error .missingOpen
    else
      match hgroup : takeGroup 0 rest with
      | none => .error .missingClose
      | some (group, rest') => do
        let more ← splitGroups rest'
        return ⟨group :: more.groups, fragment :: more.outside⟩
termination_by cs.length
decreasing_by
  have hsub := (List.dropWhile_sublist (!isParen ·) (l := cs)).length_le
  have heq := takeGroup_eq hgroup
  simp [hrest, heq] at hsub
  omega

/-- The groups of a text are shorter than the text. -/
theorem splitGroups_length_lt {cs : List Char} {parts : Groups} (h : splitGroups cs = .ok parts) :
    ∀ group ∈ parts.groups, group.length < cs.length := by
  induction hn : cs.length using Nat.strongRecOn generalizing cs parts with
  | ind n ih =>
      have hsub := (List.dropWhile_sublist (!isParen ·) (l := cs)).length_le
      unfold splitGroups at h
      split at h
      · cases h
        simp
      · next c rest hrest =>
        split at h
        · cases h
        · split at h
          · cases h
          · next group rest' hgroup =>
            have heq := takeGroup_eq hgroup
            simp only [hrest, heq, List.length_cons, List.length_append] at hsub
            cases hmore : splitGroups rest' with
            | error e => simp [hmore, bind, Except.bind] at h
            | ok more =>
                simp only [hmore, bind, Except.bind, pure, Except.pure, Except.ok.injEq] at h
                subst h
                intro g hg
                rcases List.mem_cons.1 hg with rfl | hg
                · omega
                · have := ih rest'.length (by omega) hmore rfl g hg
                  omega

/-- The fragments outside the groups that are not blank, trimmed. -/
def Groups.stray (parts : Groups) : List (List Char) :=
  (parts.outside.map trim).filter (!·.isEmpty)

end Directory.FilterText
