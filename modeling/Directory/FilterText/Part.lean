import Directory.FilterText.Node
import Directory.Value.Equality

/-!
# Filter parts

Everything that can be offered for assembly. Conditions and groups can also be made by hand, of any
values; a parsed node is one that is made of texts (`Part.ofNode`), and has the same filter string
(`Part.text_ofNode`).
-/

namespace Directory.FilterText

/-- Something offered for assembly: a condition, a group, a row of parts, or any other value. -/
inductive Part where
  | condition (attr : Value) (comparator : Comparator) (value : Value)
  | group (sign : GroupSign) (children : List Part)
  | several (parts : List Part)
  | plain (value : Value)

namespace Part

mutual

/-- A parsed node as a part. -/
def ofNode : Node → Part
  | .condition attr comparator value => .condition (.str attr) comparator (.str value)
  | .group sign children => .group sign (ofEach children)

/-- Parsed nodes as parts. -/
def ofEach : List Node → List Part
  | [] => []
  | node :: nodes => ofNode node :: ofEach nodes

end

/-- What a filter string stands for as one part: its only node, or all of them. -/
def ofNodes : List Node → Part
  | [node] => ofNode node
  | nodes => .several (ofEach nodes)

/-- A part that is a condition, a group or a filter. -/
def isNode : Part → Bool
  | .condition .. | .group .. | .plain (.filter _) => true
  | _ => false

mutual

/-- The form in which a part is shown inside a larger value. -/
def shown : Part → Except Failure String
  | .condition attr comparator value => do
    let name ← attr.shown
    let text ← value.shown
    return "ConditionNode" ++
      enclose "(" ")" [name, quoteText (String.ofList comparator.sign), text]
  | .group sign children => do
    let texts ← shownAll children
    return "GroupNode" ++ enclose "(" ")" [quoteText sign.char.toString, enclose "[" "]" texts]
  | .several parts => (enclose "[" "]") <$> shownAll parts
  | .plain v => v.shown

/-- The forms in which parts are shown. -/
def shownAll : List Part → Except Failure (List String)
  | [] => .ok []
  | part :: parts => do
    let first ← part.shown
    let rest ← shownAll parts
    return first :: rest

end

mutual

/-- The text of a part, which is its filter string if it is a node. -/
def text : Part → Except Failure String
  | .condition attr comparator value => do
    let name ← attr.text
    let text ← value.text
    return "(" ++ name ++ String.ofList comparator.sign ++ text ++ ")"
  | .group sign children => do
    let text ← textAll children
    return "(" ++ sign.char.toString ++ text ++ ")"
  | .several parts => (enclose "[" "]") <$> shownAll parts
  | .plain v => v.text

/-- The texts of parts, one after the other. -/
def textAll : List Part → Except Failure String
  | [] => .ok ""
  | part :: parts => do
    let first ← part.text
    let rest ← textAll parts
    return first ++ rest

end

mutual

/-- A parsed node keeps its filter string as a part. -/
theorem text_ofNode : ∀ node, text (ofNode node) = .ok (String.ofList node.text)
  | .condition attr comparator value => by
    simp [ofNode, text, Value.text, Node.text, bind, Except.bind, pure, Except.pure,
      String.ext_iff, String.toList_append]
  | .group sign children => by
    simp [ofNode, text, textAll_ofEach children, Node.text, bind, Except.bind, pure, Except.pure,
      String.ext_iff, String.toList_append]

/-- Parsed nodes keep their filter strings as parts. -/
theorem textAll_ofEach : ∀ nodes, textAll (ofEach nodes) = .ok (String.ofList (Node.textAll nodes))
  | [] => by simp [ofEach, textAll, Node.textAll]
  | node :: nodes => by
    simp [ofEach, textAll, Node.textAll, text_ofNode node, textAll_ofEach nodes, bind, Except.bind,
      pure, Except.pure]

end

/-- The text of a node without its outer parentheses. -/
def inner (part : Part) : Except Failure String := do
  let cs := (← part.text).toList
  return String.ofList ((cs.drop 1).dropLast)

mutual

/-- Comparison of parts. -/
def alike : Part → Part → Except Failure Bool
  | .condition a c v, .condition b d w => do
    if !(← a.alike b) || c ≠ d then return false
    v.alike w
  | .group s xs, .group t ys =>
    if s = t ∧ xs.length = ys.length then allAlike xs ys else .ok false
  | .several xs, .several ys => if xs.length = ys.length then allAlike xs ys else .ok false
  | .plain v, .plain w => v.alike w
  | _, _ => .ok false

/-- Comparison of lists of parts, member by member. -/
def allAlike : List Part → List Part → Except Failure Bool
  | [], [] => .ok true
  | x :: xs, y :: ys => do if ← x.alike y then allAlike xs ys else return false
  | _, _ => .ok false

end

/-- Comparison of a part with itself. -/
def equalsItself : Part → Except Failure Bool
  | .plain v => v.equalsItself
  | _ => .ok true

/-- Comparisons of each of several parts with each of them. -/
def comparisons (parts : List Part) : Except Failure (List (List Bool)) :=
  parts.zipIdx.mapM fun (x, i) =>
    parts.zipIdx.mapM fun (y, j) => if i = j then x.equalsItself else x.alike y

/-- The filter that an equality condition stands for: wildcards at the ends of the value choose
among presence, substring and plain equality. -/
def equalityFilter (attr : Value) (value : List Char) : Filter :=
  let str (cs : List Char) : Value := .str (String.ofList cs)
  let starred := value.head? = some '*'
  let ending := value.getLast? = some '*'
  if value = ['*'] then .has attr
  else if starred ∧ ending then .condition .contains attr (str (value.drop 1).dropLast)
  else if starred then .condition .endsWith attr (str (value.drop 1))
  else if ending then .condition .startsWith attr (str value.dropLast)
  else .condition .equals attr (str value)

/-- The filter that an equality condition stands for, which must have a text as its value. -/
def equality (attr value : Value) : Except Failure Filter :=
  match value with
  | .str s => .ok (equalityFilter attr s.toList)
  | .list _ | .tuple _ | .set _ | .dict _ => .error (Failure.misuse .unknownMember)
  | _ => .error Failure.wrongType

mutual

/-- The filter that a condition or a group stands for. An empty negation stands for none, and
neither does what was not made as one of them. -/
def toFilter : Part → Except Failure Filter
  | .condition attr .atLeast value => .ok (.condition .atLeast attr value)
  | .condition attr .atMost value => .ok (.condition .atMost attr value)
  | .condition attr .approximately value => .ok (.condition .approximately attr value)
  | .condition attr .equal value => equality attr value
  | .group sign children => do
    let filters ← toFilters children
    match sign, filters with
    | .and, _ => return .group .all filters
    | .or, _ => return .group .any filters
    | .not, child :: _ => return .not child
    | .not, [] => throw (Failure.misuse .outOfRange)
  | .several _ | .plain _ => .error (Failure.misuse .unknownMember)

/-- The filters that parts stand for, in order. -/
def toFilters : List Part → Except Failure (List Filter)
  | [] => .ok []
  | part :: parts => do
    let first ← part.toFilter
    let rest ← toFilters parts
    return first :: rest

end

end Part

end Directory.FilterText
