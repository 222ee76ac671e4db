import Directory.Filter.Basic
import Directory.Value.Equality

/-!
# Combining by operator

What the operators "and", "or" and "not" give for filters and for other values in the place of
filters. Integers are combined bit by bit, as if they were written with infinitely many bits in
two's complement; sets are intersected and united, and dictionaries are united.
-/

namespace Directory

/-- The bits that two integers have in common. -/
def bitsOfBoth : Int → Int → Int
  | .ofNat m, .ofNat n => (m &&& n : Nat)
  | .ofNat m, .negSucc n => (m - (m &&& n) : Nat)
  | .negSucc m, .ofNat n => (n - (n &&& m) : Nat)
  | .negSucc m, .negSucc n => .negSucc (m ||| n)

/-- The bits that an integer has not. -/
def otherBits (n : Int) : Int :=
  -n - 1

/-- The bits that one of two integers has. -/
def bitsOfEither (m n : Int) : Int :=
  otherBits (bitsOfBoth (otherBits m) (otherBits n))

namespace Value

/-- The members that two sets have in common, as they are in the smaller set, or in the second one
if the two are of one size. -/
def common (xs ys : List Value) : List Value :=
  if xs.length < ys.length then xs.filter fun x => ys.any x.same
  else ys.filter fun y => xs.any y.same

/-- Two values that are no filters, combined by an operator. -/
def combine (junction : Junction) (x y : Value) : Except Failure Value :=
  match junction, x, y with
  | .all, .bool a, .bool b => .ok (.bool (a && b))
  | .any, .bool a, .bool b => .ok (.bool (a || b))
  | .all, .set xs, .set ys => .ok (.set (common xs ys))
  | .any, .set xs, .set ys => .ok (.set (distinct (xs ++ ys)))
  | .any, .dict es, .dict fs => .ok (.dict (fs.foldl (fun es (k, v) => insert es k v) es))
  | junction, x, y =>
    match junction, x.asInt?, y.asInt? with
    | .all, some m, some n => .ok (.int (bitsOfBoth m n))
    | .any, some m, some n => .ok (.int (bitsOfEither m n))
    | _, _, _ => .error Failure.wrongType

/-- A value that is no filter, negated by an operator. -/
def complement (value : Value) : Except Failure Value :=
  match value.asInt? with
  | some n => .ok (.int (otherBits n))
  | none => .error Failure.wrongType

end Value

namespace Filter

/-- A filter, and not a value in the place of one. -/
def requireNode (node : Filter) : Except Failure Filter :=
  if node.isNode then .ok node else .error (Failure.misuse .unknownMember)

/-- Two filters combined by an operator. A value in the place of the first filter is not combined
with a filter. -/
def combine (junction : Junction) (node operand : Filter) : Except Failure Filter :=
  match node, operand with
  | .foreign v, .foreign w => .foreign <$> v.combine junction w
  | .foreign _, _ => .error Failure.wrongType
  | node, operand => .ok (node.join junction operand)

/-- A filter negated by an operator. -/
def complement : Filter → Except Failure Filter
  | .foreign v => .foreign <$> v.complement
  | node => .ok node.negate

end Filter

end Directory
