import Directory.Value.Text

/-!
# Combining filters

The three Boolean combinations of filters. They keep filters flat where that is possible: a further
operand joins a group of the same junction, and negating a negation gives the filter back.
-/

namespace Directory.Filter

/-- A filter combined with a further operand under a junction. A group of that junction takes the
operand as its last child; anything else is grouped with it. -/
def join (junction : Junction) (node operand : Filter) : Filter :=
  match node with
  | .group own children =>
    if own = junction then .group junction (children ++ [operand])
    else .group junction [node, operand]
  | _ => .group junction [node, operand]

/-- Both filters must hold. -/
def and (node operand : Filter) : Filter :=
  node.join .all operand

/-- One of the filters must hold. -/
def or (node operand : Filter) : Filter :=
  node.join .any operand

/-- The filter must not hold. -/
def negate : Filter → Filter
  | .not child => child
  | node => .not node

/-- The filter string without its outer parentheses, for conditions and groups. -/
def inner : Filter → Except Failure (Option String)
  | node@(.condition ..) | node@(.has _) | node@(.group ..) => do
    let cs := (← node.text).toList
    return some (String.ofList ((cs.drop 1).dropLast))
  | _ => .ok none

/-- A filter that stands for no filter at all. -/
def isNothing : Filter → Bool
  | .foreign .null => true
  | _ => false

end Directory.Filter
