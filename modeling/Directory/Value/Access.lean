import Directory.Numeral
import Directory.Value.Equality

/-!
# Access to values

The operations that the library performs on values whose type it does not know: truth, iteration,
conversion to an integer, membership, and comparison with a number. Each fails if the type of the
value does not support it.
-/

namespace Directory.Value

/-- A value that counts as true: not null, not zero, not empty. -/
def isTrue : Value → Bool
  | .null => false
  | .bool b => b
  | .int n => n != 0
  | .float x => !x.isZero
  | .str s => s != ""
  | .bytes bs => !bs.isEmpty
  | .list items | .tuple items | .set items => !items.isEmpty
  | .dict entries => !entries.isEmpty
  | .filter _ | .callback _ _ => true

/-- The first value if it counts as true, and otherwise the second. -/
def orElse (value other : Value) : Value :=
  if value.isTrue then value else other

theorem orElse_list {items : List Value} (h : items ≠ []) (other : Value) :
    (list items).orElse other = list items := by
  cases items with
  | nil => exact absurd rfl h
  | cons item items => rfl

/-- The characters of a text as texts. -/
def characters (s : String) : List Value :=
  s.toList.map fun c => .str c.toString

/-- The members of a value that has members: the characters of a text, the numbers of bytes, the
keys of a dictionary. -/
def items? : Value → Option (List Value)
  | .str s => some (characters s)
  | .bytes bs => some (bs.map fun b => .int b.toNat)
  | .list items | .tuple items | .set items => some items
  | .dict entries => some (entries.map Prod.fst)
  | _ => none

/-- The members of a value. -/
def items (value : Value) : Except Failure (List Value) :=
  match value.items? with
  | some items => .ok items
  | none => .error Failure.wrongType

/-- Two values out of one with exactly two members. -/
def pair (value : Value) : Except Failure (Value × Value) := do
  match ← value.items with
  | [first, second] => .ok (first, second)
  | _ => .error Failure.wrongValue

/-- The integer that a value stands for: a number without its fraction, or a numeral. -/
def toInt : Value → Except Failure Int
  | .bool b => .ok (if b then 1 else 0)
  | .int n => .ok n
  | .float x =>
    if x.isFinite then .ok x.truncate
    else .error (if x.isNaN then Failure.wrongValue else Failure.misuse .overflow)
  | .str s => (intOfText? s).elim (.error Failure.wrongValue) .ok
  | .bytes bs => (intOfBytes? bs).elim (.error Failure.wrongValue) .ok
  | _ => .error Failure.wrongType

/-- A number in binary; `none` if the value is no number. An integer may be too large. -/
def toBinary? : Value → Option (Except Failure Binary64)
  | .float x => some (.ok x)
  | value => value.asInt?.map fun n =>
    (Binary64.ofInt? n).elim (.error (Failure.misuse .overflow)) .ok

/-- A number is less than an integer. -/
def lessThanInt : Value → Int → Except Failure Bool
  | .bool b, n => .ok ((if b then 1 else 0) < n)
  | .int m, n => .ok (m < n)
  | .float x, n => .ok (x.lessThanInt n)
  | _, _ => .error Failure.wrongType

/-- A row occurs in another. -/
def occursIn [BEq α] (needle : List α) : List α → Bool
  | [] => needle.isEmpty
  | c :: cs => needle.isPrefixOf (c :: cs) || occursIn needle cs

/-- Bytes have a byte as a member, given as a number or a truth value. -/
def holdsByte (bs : List UInt8) (member : Value) : Except Failure Bool :=
  match member.asInt? with
  | none => .error Failure.wrongType
  | some n =>
    if 0 ≤ n ∧ n < 256 then .ok (bs.any fun b => Int.ofNat b.toNat == n)
    else .error Failure.wrongValue

/-- The value has a member alike to another. A text has every text that occurs in it, and bytes have
all bytes that occur in them. A member of a set or a dictionary must be able to be a key; a set may
be looked up in a set, but is never there. -/
def holds (value member : Value) : Except Failure Bool :=
  match value, member with
  | .str s, .str t => .ok (occursIn t.toList s.toList)
  | .str _, _ => .error Failure.wrongType
  | .bytes bs, .bytes cs => .ok (occursIn cs bs)
  | .bytes bs, member => holdsByte bs member
  | .set _, .set _ => .ok false
  | .set items, member => return items.any (← member.requireKey).same
  | .dict entries, member => return (lookup? entries (← member.requireKey)).isSome
  | value, member => do (← value.items).anyM fun item => item.alike member

/-- The member at place zero of a value with members: of a dictionary, what it has for the key
zero. -/
def first : Value → Except Failure Value
  | .list items | .tuple items => (items.head?).elim (.error (Failure.misuse .outOfRange)) .ok
  | .str s => ((characters s).head?).elim (.error (Failure.misuse .outOfRange)) .ok
  | .bytes bs => (bs.head?).elim (.error (Failure.misuse .outOfRange)) fun b => .ok (.int b.toNat)
  | .dict entries => (lookup? entries (.int 0)).elim (.error (Failure.misuse .missingKey)) .ok
  | _ => .error Failure.wrongType

/-- The entries of a dictionary. -/
def entries : Value → Except Failure (List (Value × Value))
  | .dict entries => .ok entries
  | _ => .error (Failure.misuse .unknownMember)

/-- Look up a text key in a dictionary, with a value to give if it is not there. -/
def get (value : Value) (key : String) (default : Value) : Except Failure Value :=
  return (lookup? (← value.entries) (.str key)).getD default

/-- The text with its ASCII letters in lower case, for a comparison with an ASCII word. No other
character has a lower-case form that occurs in the words compared with. -/
def lowerText : Value → Except Failure (Option String)
  | .str s => .ok (some (s.map Char.toLower))
  | .bytes _ => .ok none
  | _ => .error (Failure.misuse .unknownMember)

/-- One of the values is the given word in any case. The values after it are not looked at. -/
def anyIsWord (word : String) : List Value → Except Failure Bool
  | [] => .ok false
  | value :: values => do
    if (← value.lowerText) = some word then return true
    anyIsWord word values

/-- Texts joined by a separator. -/
def join (separator : String) (values : List Value) : Except Failure String := do
  let texts ← values.mapM fun value =>
    match value with
    | .str s => .ok s
    | _ => .error Failure.wrongType
  return separator.intercalate texts

end Directory.Value
