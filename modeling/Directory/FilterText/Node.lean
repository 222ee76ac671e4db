import Directory.Value.Text

/-!
# Parsed filters

What the parser reads from a filter string: conditions and groups of them. A node's `text` is its
canonical filter string, of which `inner` is what stands between the outer parentheses.
-/

namespace Directory.FilterText

/-- The operator between the attribute and the value of a condition. -/
inductive Comparator where
  | atLeast
  | atMost
  | approximately
  | equal
deriving DecidableEq, Repr

namespace Comparator

/-- The characters of an operator. -/
def sign : Comparator → List Char
  | .atLeast => ['>', '=']
  | .atMost => ['<', '=']
  | .approximately => ['~', '=']
  | .equal => ['=']

/-- The operators, longer ones first. -/
def all : List Comparator :=
  [.atLeast, .atMost, .approximately, .equal]

/-- The operator with the given characters. -/
def ofSign? (sign : String) : Option Comparator :=
  all.find? (·.sign == sign.toList)

end Comparator

/-- The operator at the start of a group. -/
inductive GroupSign where
  | and
  | or
  | not
deriving DecidableEq, Repr

namespace GroupSign

/-- The character of an operator. -/
def char : GroupSign → Char
  | .and => '&'
  | .or => '|'
  | .not => '!'

/-- The operator with the given character. -/
def ofChar? (c : Char) : Option GroupSign :=
  [GroupSign.and, .or, .not].find? (·.char == c)

/-- The operator with the given text. -/
def ofSign? (sign : String) : Option GroupSign :=
  match sign.toList with
  | [c] => ofChar? c
  | _ => none

end GroupSign

/-- A parsed filter: a condition with its value as written, or a group. -/
inductive Node where
  | condition (attr : String) (comparator : Comparator) (value : String)
  | group (sign : GroupSign) (children : List Node)

namespace Node

mutual

/-- The filter string of a node. -/
def text : Node → List Char
  | .condition attr comparator value =>
    '(' :: attr.toList ++ comparator.sign ++ value.toList ++ [')']
  | .group sign children => '(' :: sign.char :: textAll children ++ [')']

/-- The filter strings of nodes, one after the other. -/
def textAll : List Node → List Char
  | [] => []
  | node :: nodes => node.text ++ textAll nodes

end

/-- The filter string without its outer parentheses. -/
def inner (node : Node) : List Char :=
  (node.text.drop 1).dropLast

end Node

end Directory.FilterText
