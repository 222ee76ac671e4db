import Directory.Failure.Detail

/-!
# Classifying failures

A classifier turns the details of a failed operation into the most specific kind of failure. It
looks for known codes in the diagnostic text, then for known texts in the error message, and last at
the result code. Registrations made later go before earlier ones.
-/

namespace Directory

/-- The tables of a classifier. The first match in `codes` or `messages` counts; `resultCodes` has
one entry for each code. -/
structure Classifier where
  codes : List (Value × Kind) :=
    [(.str passwordPolicyCode, .constraint), (.str incorrectPasswordCode, .constraint)]
  messages : List (Value × Kind) :=
    [(.str "Already exists", .alreadyExists), (.str "entryAlreadyExists", .alreadyExists),
      (.str "Insufficient access", .insufficientAccess),
      (.str "insufficientAccessRights", .insufficientAccess),
      (.str "Constraint violation", .constraint), (.str "constraintViolation", .constraint),
      (.str "No such object", .noSuchObject), (.str "noSuchObject", .noSuchObject)]
  resultCodes : List (Int × Kind) :=
    [(19, .constraint), (32, .noSuchObject), (50, .insufficientAccess), (68, .alreadyExists)]

/-- The texts in a failure that mean that the server was lost. -/
def lostConnectionTexts : List String :=
  ["contact LDAP server", "Connection reset by peer", "Broken pipe"]

/-- A text says that the server was lost. -/
def saysLostConnection (text : String) : Bool :=
  lostConnectionTexts.any fun part => Value.occursIn part.toList text.toList

namespace Classifier

/-- Register a kind for a code in the diagnostic text. -/
def registerCode (classifier : Classifier) (code : Value) (kind : Kind) : Classifier :=
  { classifier with codes := (code, kind) :: classifier.codes }

/-- Register a kind for a text in the error message. -/
def registerMessage (classifier : Classifier) (text : Value) (kind : Kind) : Classifier :=
  { classifier with messages := (text, kind) :: classifier.messages }

/-- Register a kind for a result code. -/
def registerResultCode (classifier : Classifier) (code : Value) (kind : Kind) :
    Except Failure Classifier := do
  let code ← code.toInt
  let others := classifier.resultCodes.filter (·.1 != code)
  return { classifier with resultCodes := (code, kind) :: others }

/-- The kind of the first entry whose key passes a test. -/
def firstMatch? (test : Value → Except Failure Bool) :
    List (Value × Kind) → Except Failure (Option Kind)
  | [] => .ok none
  | (key, kind) :: entries => do
    if ← test key then return some kind
    firstMatch? test entries

/-- The kind registered for a result code. -/
def resultKind? (classifier : Classifier) (code : Int) : Option Kind :=
  classifier.resultCodes.lookup code

/-- The kind for details, or a default if nothing matches. A result code that is no number matches
nothing. -/
def kindFor (classifier : Classifier) (detail : Option Detail) (default : Kind) :
    Except Failure Kind := do
  let some detail := detail | return default
  if let some kind ← firstMatch? detail.diagnosticHolds classifier.codes then return kind
  if let some kind ← firstMatch? detail.messageHolds classifier.messages then return kind
  match detail.code.toInt with
  | .ok code => return (classifier.resultKind? code).getD default
  | .error failure =>
    if failure.isA .wrongType || failure.isA .wrongValue then return default else throw failure

/-- The more specific failure to raise in place of a failure, or none if it is specific enough. The
new failure has the same text and details and the old one as its cause. -/
def reclassify? (classifier : Classifier) (failure : Failure) (default : Option Kind) :
    Except Failure (Option Failure) := do
  let kind ← classifier.kindFor failure.detail (default.getD failure.kind)
  if failure.isA kind then return none
  let made ← Failure.make kind failure.report failure.detail
  return some { made with cause := some failure }

/-- The most specific failure for a failure. -/
def classify (classifier : Classifier) (failure : Failure) (default : Option Kind) :
    Except Failure Failure :=
  return (← classifier.reclassify? failure default).getD failure

/-- The failure of a bind. If its details have a kind of their own, it is a failure of that kind
too. -/
def bindFailure (classifier : Classifier) (message : String) (detail : Option Detail) :
    Except Failure Failure := do
  let kind ← classifier.kindFor detail .bind
  Failure.make kind.withBind message detail

end Classifier

/-- The failure means that the server was lost, so that the operation can be tried on another
host. -/
def Failure.causedByLostConnection (failure : Failure) : Except Failure Bool := do
  match failure.detail with
  | none => return saysLostConnection failure.report
  | some detail =>
    let text ← Value.join " " [.str failure.report, detail.message.orElse (.str ""),
      detail.diagnostic.orElse (.str "")]
    return saysLostConnection text

end Directory
