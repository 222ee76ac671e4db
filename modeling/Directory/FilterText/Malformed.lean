import Directory.Failure.Basic

/-!
# Malformed filter strings

The reasons for which a text is not a filter string, and their words.
-/

namespace Directory.FilterText

/-- Why a text is not a filter string. -/
inductive Malformed where
  | missingOpen
  | missingClose
  | nothingIn (text : List Char)
  | nothing
  | groupWithoutOperator (content : List Char)
  | strayText (text : List Char)
  | negationOfMany
  | conditionWithoutOperator (content : List Char)
  | conditionWithoutAttribute (content : List Char)
  | unknownComparator (sign : String)
  | unknownGroupSign (sign : String)
deriving DecidableEq, Repr

namespace Malformed

/-- The words for a malformed text. -/
def text : Malformed → String
  | .missingOpen => "Unclosed filter group. Missing \"(\" parenthesis"
  | .missingClose => "Unclosed filter group. Missing \")\" parenthesis"
  | .nothingIn text => "No filter found in [" ++ String.ofList text ++ "]"
  | .nothing => "No filter found"
  | .groupWithoutOperator content =>
    "Invalid filter group. No operator found in [" ++ String.ofList content ++ "]"
  | .strayText text => "Unclosed filter group [" ++ String.ofList text ++ "]"
  | .negationOfMany => "A NOT group must contain exactly one filter"
  | .conditionWithoutOperator content =>
    "Invalid query condition. No operator found in [" ++ String.ofList content ++ "]"
  | .conditionWithoutAttribute content => "Invalid query filter [" ++ String.ofList content ++ "]"
  | .unknownComparator sign => "Invalid condition operator [" ++ sign ++ "]"
  | .unknownGroupSign sign => "Invalid group operator [" ++ sign ++ "]"

/-- The failure that a malformed text raises. -/
def toFailure (malformed : Malformed) : Failure :=
  { kind := .malformedFilter, text := some malformed.text }

end Malformed

end Directory.FilterText
