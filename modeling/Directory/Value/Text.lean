import Directory.Binary64.Shortest
import Directory.Failure.Basic
import Directory.Numeral
import Directory.Text.Quoted

/-!
# The text of values and filters

A value has two texts: `Value.text`, in which a string stands for itself, and `Value.shown`, in
which strings are quoted and the structure can be seen. A filter's `text` is the filter string that
a server understands, and its `shown` form names the node. Only an integer with too many digits, a
blank node, and a raw node that does not hold a string have no text.
-/

namespace Directory

/-- The name under which a condition is shown. -/
def Test.name : Test → String
  | .plain => "Condition"
  | .equals => "Equals"
  | .approximately => "ApproximatelyEquals"
  | .atLeast => "GreaterThanOrEquals"
  | .atMost => "LessThanOrEquals"
  | .startsWith => "StartsWith"
  | .endsWith => "EndsWith"
  | .contains => "Contains"

/-- The tests. -/
def Test.all : List Test :=
  [.plain, .equals, .approximately, .atLeast, .atMost, .startsWith, .endsWith, .contains]

/-- Every test is listed. -/
theorem Test.mem_all (test : Test) : test ∈ all := by
  cases test <;> simp [all]

/-- The test with a name. -/
def Test.ofName? (name : String) : Option Test :=
  all.find? (·.name == name)

/-- The comparison operator of a condition. -/
def Test.sign : Test → String
  | .approximately => "~="
  | .atLeast => ">="
  | .atMost => "<="
  | _ => "="

/-- The wildcard before the value of a condition. -/
def Test.before : Test → String
  | .endsWith | .contains => "*"
  | _ => ""

/-- The wildcard after the value of a condition. -/
def Test.after : Test → String
  | .startsWith | .contains => "*"
  | _ => ""

/-- The name under which a group is shown. -/
def Junction.name : Junction → String
  | .all => "AndGroup"
  | .any => "OrGroup"

/-- The operator of a group. -/
def Junction.sign : Junction → String
  | .all => "&"
  | .any => "|"

/-- Texts between two delimiters, separated by commas. -/
def enclose (first last : String) (texts : List String) : String :=
  first ++ ", ".intercalate texts ++ last

/-- The shown form of a tuple: a single member is followed by a comma. -/
def tupleText : List String → String
  | [text] => "(" ++ text ++ ",)"
  | texts => enclose "(" ")" texts

/-- The shown form of a set. -/
def setText : List String → String
  | [] => "set()"
  | texts => enclose "\x7b" "\x7d" texts

mutual

/-- The shown form of a value. -/
def Value.shown : Value → Except Failure String
  | .null => .ok "None"
  | .bool true => .ok "True"
  | .bool false => .ok "False"
  | .int n => (intText? n).elim (.error Failure.wrongValue) .ok
  | .float x => .ok x.text
  | .str s => .ok (quoteText s)
  | .bytes bs => .ok (quoteBytes bs)
  | .list items => (enclose "[" "]") <$> Value.shownAll items
  | .tuple items => tupleText <$> Value.shownAll items
  | .set items => setText <$> Value.shownAll items
  | .dict entries => (enclose "\x7b" "\x7d") <$> Value.shownEntries entries
  | .filter node => node.shown
  | .callback _ _ => .ok "<callback>"

/-- The shown forms of values, in order. -/
def Value.shownAll : List Value → Except Failure (List String)
  | [] => .ok []
  | value :: values => do
    let first ← value.shown
    let rest ← Value.shownAll values
    return first :: rest

/-- The shown forms of the entries of a dictionary. -/
def Value.shownEntries : List (Value × Value) → Except Failure (List String)
  | [] => .ok []
  | (key, value) :: entries => do
    let name ← key.shown
    let text ← value.shown
    let rest ← Value.shownEntries entries
    return (name ++ ": " ++ text) :: rest

/-- The shown form of a filter. -/
def Filter.shown : Filter → Except Failure String
  | .condition test attr value => do
    let name ← attr.shown
    let text ← value.shown
    return test.name ++ enclose "(" ")" [name, text]
  | .has attr => return "Has" ++ enclose "(" ")" [← attr.shown]
  | .raw text => return "Raw" ++ enclose "(" ")" [← text.shown]
  | .not child => return "Not" ++ enclose "(" ")" [← child.shown]
  | .group junction children => return junction.name ++ enclose "(" ")" (← Filter.shownAll children)
  | .blank => .error Refusal.blankNode.toFailure
  | .foreign value => value.shown

/-- The shown forms of filters, in order. -/
def Filter.shownAll : List Filter → Except Failure (List String)
  | [] => .ok []
  | node :: nodes => do
    let first ← node.shown
    let rest ← Filter.shownAll nodes
    return first :: rest

end

mutual

/-- The text of a value. -/
def Value.text : Value → Except Failure String
  | .str s => .ok s
  | .filter node => node.text
  | value => value.shown

/-- The filter string of a filter. -/
def Filter.text : Filter → Except Failure String
  | .condition test attr value => do
    let name ← attr.text
    let text ← value.text
    return "(" ++ name ++ test.sign ++ test.before ++ text ++ test.after ++ ")"
  | .has attr => return "(" ++ (← attr.text) ++ "=*)"
  | .raw (.str s) => .ok s
  | .raw _ => .error Failure.wrongType
  | .not child => return "(!" ++ (← child.text) ++ ")"
  | .group junction children => return "(" ++ junction.sign ++ (← Filter.textAll children) ++ ")"
  | .blank => .error Refusal.blankNode.toFailure
  | .foreign value => value.text

/-- The filter strings of filters, one after the other. -/
def Filter.textAll : List Filter → Except Failure String
  | [] => .ok ""
  | node :: nodes => do
    let first ← node.text
    let rest ← Filter.textAll nodes
    return first ++ rest

end

/-- Write values into a note of what is about to be done. Notes are for those who look for a fault,
and none is kept; but a value without a text cannot be written, and then nothing is done. -/
def Value.note (values : List Value) : Except Failure Unit := do
  for value in values do
    let _ ← value.text

namespace Failure

/-- The text of a detail as it appears inside a larger text. -/
def detailText : Option Detail → Except Failure String
  | none => .ok "None"
  | some detail => do
    let code ← detail.code.shown
    let message ← detail.message.shown
    let diagnostic ← detail.diagnostic.shown
    return "DetailedError" ++ enclose "(" ")" ["error_code=" ++ code, "error_message=" ++ message,
      "diagnostic_message=" ++ diagnostic]

/-- The text under which a failure is reported to people. The text of a failed look-up is its key
and is quoted. -/
def report (failure : Failure) : String :=
  let text := failure.text.getD ""
  if failure.isA .missingKey then quoteText text else text

end Failure

end Directory
