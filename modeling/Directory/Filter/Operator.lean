import Directory.Filter.Basic
import Directory.Value.Equality

/-!
# Operator tokens

The tokens with which a caller asks for a filter. Every negated token has a positive one, and its
filter is the negation of the filter of that one.
-/

namespace Directory

/-- The operators. `bang` and `notEquals` are two spellings of one operator. -/
inductive Operator where
  | has
  | notHas
  | equals
  | bang
  | notEquals
  | atLeast
  | atMost
  | approximately
  | startsWith
  | notStartsWith
  | endsWith
  | notEndsWith
  | contains
  | notContains
deriving DecidableEq, Repr

namespace Operator

/-- The operators in the order in which they are listed. -/
def all : List Operator :=
  [.has, .notHas, .equals, .bang, .notEquals, .atLeast, .atMost, .approximately, .startsWith,
    .notStartsWith, .endsWith, .notEndsWith, .contains, .notContains]

/-- Every operator is listed. -/
theorem mem_all (op : Operator) : op ∈ all := by
  cases op <;> simp [all]

/-- The token of an operator. -/
def token : Operator → String
  | .has => "*"
  | .notHas => "!*"
  | .equals => "="
  | .bang => "!"
  | .notEquals => "!="
  | .atLeast => ">="
  | .atMost => "<="
  | .approximately => "~="
  | .startsWith => "starts_with"
  | .notStartsWith => "not_starts_with"
  | .endsWith => "ends_with"
  | .notEndsWith => "not_ends_with"
  | .contains => "contains"
  | .notContains => "not_contains"

/-- The operator with a token. -/
def ofToken? (token : String) : Option Operator :=
  all.find? (·.token == token)

/-- The operator that a value names. A value that cannot be a key names none and is refused. -/
def ofValue? (value : Value) : Except Failure (Option Operator) := do
  match ← value.requireKey with
  | .str s => return ofToken? s
  | _ => return none

/-- The operator asks for the presence of an attribute and takes no value. -/
def isPresence : Operator → Bool
  | .has | .notHas => true
  | _ => false

/-- The filter that an operator asks for. -/
def filter (op : Operator) (attr value : Value) : Filter :=
  match op with
  | .has => .has attr
  | .notHas => .not (.has attr)
  | .equals => .condition .equals attr value
  | .bang | .notEquals => .not (.condition .equals attr value)
  | .atLeast => .condition .atLeast attr value
  | .atMost => .condition .atMost attr value
  | .approximately => .condition .approximately attr value
  | .startsWith => .condition .startsWith attr value
  | .notStartsWith => .not (.condition .startsWith attr value)
  | .endsWith => .condition .endsWith attr value
  | .notEndsWith => .not (.condition .endsWith attr value)
  | .contains => .condition .contains attr value
  | .notContains => .not (.condition .contains attr value)

end Operator

/-- The filter for an operator token needs a value. A token that is no operator is taken for one
that does. -/
def requiresValue (token : Value) : Except Failure Bool := do
  match ← Operator.ofValue? token with
  | some op => return !op.isPresence
  | none => return true

/-- The filter for an operator token. -/
def makeFilter (token attr value : Value) : Except Failure Filter := do
  match ← Operator.ofValue? token with
  | some op => return op.filter attr value
  | none => throw (Refusal.unsupportedOperator (← token.text)).toFailure

end Directory
