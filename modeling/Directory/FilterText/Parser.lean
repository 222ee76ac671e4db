import Directory.FilterText.Groups
import Directory.FilterText.Node

/-!
# Parsing filter strings

A filter string is a row of parenthesised groups. The content of a group is an operator followed by
further groups, or a condition, or redundantly a single group again. Blanks around groups, and any
text between the groups at the root, are ignored.
-/

namespace Directory.FilterText

/-- The rest of a text after a text that it starts with. -/
def dropStart? : List Char → List Char → Option (List Char)
  | [], cs => some cs
  | _ :: _, [] => none
  | p :: ps, c :: cs => if p = c then dropStart? ps cs else none

/-- The operator that a text starts with, longer operators first, and the rest. -/
def Comparator.atStart? (cs : List Char) : Option (Comparator × List Char) :=
  Comparator.all.findSome? fun comparator =>
    (dropStart? comparator.sign cs).map fun rest => (comparator, rest)

/-- A condition taken apart at the first operator in it. -/
def splitCondition : List Char → Option (List Char × Comparator × List Char)
  | [] => none
  | c :: cs =>
    match Comparator.atStart? (c :: cs) with
    | some (comparator, value) => some ([], comparator, value)
    | none =>
      (splitCondition cs).map fun (attr, comparator, value) => (c :: attr, comparator, value)

/-- The condition that a text states. Only the attribute is trimmed. -/
def parseCondition (content : List Char) : Except Malformed Node :=
  match splitCondition content with
  | none => .error (.conditionWithoutOperator content)
  | some (attr, comparator, value) =>
    if allBlank attr then .error (.conditionWithoutAttribute content)
    else .ok (.condition (String.ofList (trim attr)) comparator (String.ofList value))

/-- The content of a text that is a single parenthesised group. -/
def unwrap? (content : List Char) : Except Malformed (Option (List Char)) :=
  if content.head? = some '(' ∧ content.getLast? = some ')' then do
    let parts ← splitGroups content
    match parts.groups, parts.stray with
    | [group], [] => return some group
    | _, _ => return none
  else .ok none

/-- What is unwrapped is shorter. -/
theorem unwrap?_length_lt {content group : List Char} (h : unwrap? content = .ok (some group)) :
    group.length < content.length := by
  unfold unwrap? at h
  split at h
  · cases hparts : splitGroups content with
    | error e => simp [hparts, bind, Except.bind] at h
    | ok parts =>
        simp only [hparts, bind, Except.bind] at h
        split at h
        · next g hgroups _ =>
          cases h
          exact splitGroups_length_lt hparts group (by simp [hgroups])
        · cases h
  · cases h

/-- The text after the last closing parenthesis, trimmed. -/
def afterLastGroup (cs : List Char) : List Char :=
  trim (cs.reverse.takeWhile (· != ')')).reverse

/-- The text to report when there is text between the groups of a group. -/
def strayText (rest stray : List Char) : List Char :=
  if (afterLastGroup rest).isEmpty then stray else afterLastGroup rest

set_option linter.unusedVariables false in
/-- The node that the content of a group stands for. -/
def parseContent (content : List Char) : Except Malformed Node :=
  let trimmed := trim content
  match hwrap : unwrap? trimmed with
  | .error e => .error e
  | .ok (some group) => parseContent group
  | .ok none =>
    match hcontent : trimmed with
    | [] => .error .nothing
    | c :: rest =>
      match GroupSign.ofChar? c with
      | none => if c = '(' then .error (.groupWithoutOperator trimmed) else parseCondition trimmed
      | some sign =>
        match hparts : splitGroups rest with
        | .error e => .error e
        | .ok parts =>
          match parts.stray with
          | stray :: _ => .error (.strayText (strayText rest stray))
          | [] => do
            let children ← parts.groups.attach.mapM fun ⟨group, _⟩ => parseContent group
            if sign = .not ∧ children.length ≠ 1 then throw .negationOfMany
            return .group sign children
termination_by content.length
decreasing_by
  · exact Nat.lt_of_lt_of_le (unwrap?_length_lt hwrap) (trim_length_le content)
  · next hmem =>
    have htrim : trimmed.length ≤ content.length := trim_length_le content
    have hgroup := splitGroups_length_lt hparts group hmem
    rw [hcontent, List.length_cons] at htrim
    omega

/-- As many parentheses are opened as are closed. -/
def checkCounts (cs : List Char) : Except Malformed Unit :=
  if cs.count '(' < cs.count ')' then .error .missingOpen
  else if cs.count ')' < cs.count '(' then .error .missingClose
  else .ok ()

/-- The nodes that a filter string stands for, one for each group at its root. -/
def parse (s : String) : Except Malformed (List Node) := do
  let cs := trim s.toList
  checkCounts cs
  let parts ← splitGroups cs
  if parts.groups.isEmpty then throw (.nothingIn cs)
  parts.groups.mapM parseContent

end Directory.FilterText
