import Directory.Failure.Basic

/-!
# Equality of values

Two values are alike if they are the same number, whatever its type (a truth value counts as zero or
one), or have the same type and alike parts. A result of an undefined operation is alike only to
itself. Sets and dictionaries are compared without regard to order. Filters are alike by kind of
node, attribute, value and children, but two blank nodes cannot be compared. Keys of dictionaries
are compared in the same way.
-/

namespace Directory

/-- The integer that a value stands for in a comparison. -/
def Value.asInt? : Value → Option Int
  | .int n => some n
  | .bool b => some (if b then 1 else 0)
  | _ => none

/-- Equality of two numbers; `none` if one of the values is no number. -/
def Value.sameNumber? (x y : Value) : Option Bool :=
  match x.asInt?, y.asInt?, x, y with
  | some m, some n, _, _ => some (m == n)
  | some m, none, _, .float b => some (b.sameAsInt m)
  | none, some n, .float a, _ => some (a.sameAsInt n)
  | none, none, .float a, .float b => some (a.same b)
  | _, _, _, _ => none

mutual

/-- Comparison of values as members of others. -/
def Value.alike : Value → Value → Except Failure Bool
  | .null, .null => .ok true
  | .str s, .str t => .ok (s == t)
  | .bytes bs, .bytes cs => .ok (bs == cs)
  | .float x, .float y => .ok (x.same y || x == y)
  | .list xs, .list ys => if xs.length = ys.length then Value.allAlike xs ys else .ok false
  | .tuple xs, .tuple ys => Value.allAlike xs ys
  | .set xs, .set ys => if xs.length = ys.length then Value.allIn xs ys else .ok false
  | .dict es, .dict fs => if es.length = fs.length then Value.entriesIn es fs else .ok false
  | .filter f, .filter g => f.alike g
  | .callback m _, .callback n _ => .ok (m == n)
  | x, y => .ok ((x.sameNumber? y).getD false)

/-- Comparison of lists of values, member by member. -/
def Value.allAlike : List Value → List Value → Except Failure Bool
  | [], [] => .ok true
  | x :: xs, y :: ys => do if ← x.alike y then Value.allAlike xs ys else return false
  | _, _ => .ok false

/-- Every value of the first list is alike to one of the second. -/
def Value.allIn : List Value → List Value → Except Failure Bool
  | [], _ => .ok true
  | x :: xs, ys => do if ← ys.anyM fun y => x.alike y then Value.allIn xs ys else return false

/-- Every entry of the first dictionary is in the second. -/
def Value.entriesIn : List (Value × Value) → List (Value × Value) → Except Failure Bool
  | [], _ => .ok true
  | (k, v) :: es, fs => do
    let isIn ← fs.anyM fun (l, w) => do if ← k.alike l then v.alike w else return false
    if isIn then Value.entriesIn es fs else return false

/-- Comparison of filters. -/
def Filter.alike : Filter → Filter → Except Failure Bool
  | .condition s a v, .condition t b w => do
    if s ≠ t then return false
    if ← a.alike b then v.alike w else return false
  | .has a, .has b => a.alike b
  | .raw s, .raw t => s.alike t
  | .not f, .not g => f.alike g
  | .group j fs, .group k gs => if j = k then Filter.allAlike fs gs else .ok false
  | .blank, .blank => .error Refusal.blankNode.toFailure
  | .foreign v, .foreign w => v.alike w
  | _, _ => .ok false

/-- Comparison of lists of filters, member by member. -/
def Filter.allAlike : List Filter → List Filter → Except Failure Bool
  | [], [] => .ok true
  | f :: fs, g :: gs => do if ← f.alike g then Filter.allAlike fs gs else return false
  | _, _ => .ok false

end

mutual

/-- Refuse a value that cannot be a key: a list, a set, a dictionary, a blank node, and what holds
one of them. -/
def Value.checkKey : Value → Except Failure Unit
  | .list _ | .set _ | .dict _ => .error Failure.wrongType
  | .tuple items => Value.checkKeys items
  | .filter node => node.checkKey
  | _ => .ok ()

/-- Refuse values of which one cannot be a key. -/
def Value.checkKeys : List Value → Except Failure Unit
  | [] => .ok ()
  | value :: values => do
    value.checkKey
    Value.checkKeys values

/-- Refuse a filter that cannot be a key. -/
def Filter.checkKey : Filter → Except Failure Unit
  | .condition _ attr value => do
    attr.checkKey
    value.checkKey
  | .has attr => attr.checkKey
  | .raw text => text.checkKey
  | .not child => child.checkKey
  | .group _ children => Filter.checkKeys children
  | .blank => .error Refusal.blankNode.toFailure
  | .foreign value => value.checkKey

/-- Refuse filters of which one cannot be a key. -/
def Filter.checkKeys : List Filter → Except Failure Unit
  | [] => .ok ()
  | node :: nodes => do
    node.checkKey
    Filter.checkKeys nodes

end

namespace Value

/-- Two values are alike. -/
def same (x y : Value) : Bool :=
  match x.alike y with
  | .ok isAlike => isAlike
  | .error _ => false

/-- Comparison of a value with itself. Only the result of an undefined operation differs from
itself. -/
def equalsItself : Value → Except Failure Bool
  | .float x => .ok (!x.isNaN)
  | .filter .blank => .error Refusal.blankNode.toFailure
  | _ => .ok true

/-- Equality with a text. -/
def isStr (value : Value) (s : String) : Bool :=
  match value with
  | .str t => t == s
  | _ => false

/-- The value if it can be a key. -/
def requireKey (value : Value) : Except Failure Value := do
  value.checkKey
  return value

/-- Look up a key in the entries of a dictionary. -/
def lookup? (entries : List (Value × α)) (key : Value) : Option α :=
  (entries.find? fun entry => entry.1.same key).map Prod.snd

/-- Put an entry into a dictionary: in the place of the entry with that key, or else at the end. -/
def insert (entries : List (Value × α)) (key : Value) (item : α) : List (Value × α) :=
  if entries.any fun entry => entry.1.same key then
    entries.map fun entry => if entry.1.same key then (entry.1, item) else entry
  else entries ++ [(key, item)]

/-- The distinct values of a list, each at its first place. -/
def distinct (values : List Value) : List Value :=
  values.foldl (fun seen value => if seen.any value.same then seen else seen ++ [value]) []

end Value

end Directory
