import Directory.Text.Blank
import Directory.Value.Access
import Directory.Value.Text

/-!
# Reading details

What can be read from the details of a failed operation: the hexadecimal code that some servers put
in front of the diagnostic text, and the codes of the two ways in which a password can be refused.
-/

namespace Directory

namespace Detail

/-- A hexadecimal digit in either case. -/
def isHexDigit (c : Char) : Bool :=
  c.isDigit || ('a' ≤ c && c ≤ 'f') || ('A' ≤ c && c ≤ 'F')

/-- The code before the first colon of a text, if there is nothing but hexadecimal digits. -/
def codeOfText? (cs : List Char) : Option (List Char) :=
  let code := trim (cs.takeWhile (· != ':'))
  if cs.contains ':' && !code.isEmpty && code.all isHexDigit then some code else none

/-- The code in front of the diagnostic text. -/
def diagnosticCode (detail : Detail) : Except Failure (Option String) :=
  match detail.diagnostic.orElse (.str "") with
  | .str s => .ok ((codeOfText? s.toList).map String.ofList)
  | .bytes _ => .error Failure.wrongType
  | _ => .error (Failure.misuse .unknownMember)

/-- A value occurs in the diagnostic text. -/
def diagnosticHolds (detail : Detail) (code : Value) : Except Failure Bool :=
  (detail.diagnostic.orElse (.str "")).holds code

/-- A value occurs in the error message. -/
def messageHolds (detail : Detail) (text : Value) : Except Failure Bool :=
  (detail.message.orElse (.str "")).holds text

end Detail

/-- The code with which a password is refused by policy. -/
def passwordPolicyCode : String :=
  "0000052D"

/-- The code with which a change is refused because the old password is wrong. -/
def incorrectPasswordCode : String :=
  "00000056"

namespace Failure

/-- The failure has details with the code in their diagnostic text. -/
def hasDiagnostic (failure : Failure) (code : String) : Except Failure Bool :=
  match failure.detail with
  | none => .ok false
  | some detail => detail.diagnosticHolds (.str code)

/-- A password was refused by policy. -/
def causedByPasswordPolicy (failure : Failure) : Except Failure Bool :=
  failure.hasDiagnostic passwordPolicyCode

/-- The old password was wrong. -/
def causedByIncorrectPassword (failure : Failure) : Except Failure Bool :=
  failure.hasDiagnostic incorrectPasswordCode

/-- A failure made from a message and details. Only reports of directory operations hold details;
the text of any other failure shows them, and that of a failure of the system takes the message for
the number of an error. -/
def make (kind : Kind) (message : String) (detail : Option Detail) : Except Failure Failure := do
  if kind.isDirectory then return { kind, text := some message, detail }
  if kind.isA .missingKey then return { kind, text := some message }
  if kind.isA .system then
    return { kind, text := some ("[Errno " ++ message ++ "] " ++ (← detailText detail)) }
  return { kind, text := some (tupleText [quoteText message, ← detailText detail]) }

end Failure

end Directory
