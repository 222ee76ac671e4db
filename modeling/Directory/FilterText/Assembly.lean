import Directory.FilterText.Parser
import Directory.FilterText.Part
import Directory.Value.Access

/-!
# Assembling filter strings

Making conditions and groups by hand, and the filter string of a row of parts.
-/

namespace Directory.FilterText

/-- A part that has a text. -/
def withText (part : Part) : Except Failure Part := do
  let _ ← part.text
  return part

/-- The condition with the given parts, if the operator is one. -/
def makeCondition (attr sign value : Value) : Except Failure Part := do
  let known :=
    match sign with
    | .str s => Comparator.ofSign? s
    | _ => none
  match known with
  | some comparator => withText (.condition attr comparator value)
  | none => throw (Malformed.unknownComparator (← sign.text)).toFailure

/-- The group with the given children, if the operator is one. -/
def makeGroup (sign : Value) (children : List Part) : Except Failure Part := do
  let known :=
    match sign with
    | .str s => GroupSign.ofSign? s
    | _ => none
  match known with
  | some sign => withText (.group sign children)
  | none => throw (Malformed.unknownGroupSign (← sign.text)).toFailure

/-- The condition that a value states. Only a text can state one; what has no members has no
operator in it. -/
def conditionOf (content : Value) : Except Failure Part :=
  match content with
  | .str s => ((parseCondition s.toList).mapError Malformed.toFailure).map Part.ofNode
  | .bytes [] | .list [] | .tuple [] | .set [] | .dict [] => do
    throw (Malformed.conditionWithoutOperator (← content.text).toList).toFailure
  | .list _ | .tuple _ | .set _ | .dict _ => throw (Failure.misuse .unknownMember)
  | _ => throw Failure.wrongType

/-- The nodes that a value stands for. Only a text can stand for nodes. -/
def parseValue (value : Value) : Except Failure (List Node) := do
  Value.note [value]
  match value with
  | .str s => (parse s).mapError Malformed.toFailure
  | .bytes _ => throw Failure.wrongType
  | _ => throw (Failure.misuse .unknownMember)

/-- The filter string of a part that is a node. -/
def nodeText (part : Part) : Except Failure String := do
  if part.isNode then part.text
  else throw (Refusal.notAFilter (← part.shown)).toFailure

/-- The members of a part that is assembled by itself. A node is its own only member. -/
def members : Part → Except Failure (List Part)
  | .several parts => .ok parts
  | .plain (.filter node) => .ok [.plain (.filter node)]
  | .plain v => return (← v.items).map .plain
  | part => .ok [part]

/-- The filter string of parts, one after the other. -/
def assembleAll (parts : List Part) : Except Failure String :=
  return String.join (← parts.mapM nodeText)

/-- The filter string of a part, or of the members of it. -/
def assemble (part : Part) : Except Failure String := do
  assembleAll (← members part)

end Directory.FilterText
