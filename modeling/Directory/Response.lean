import Directory.Failure.Detail

/-!
# Server responses

What a server answers to a request, what a search gives, and the controls that can be sent along.
-/

namespace Directory

/-- A control sent with a request. If it is critical, a server that does not know it must refuse the
request. -/
structure Control where
  oid : Value
  critical : Value
  value : Value

/-- The identifier of the control for paged results. -/
def pagedResultsOid : String :=
  "1.2.840.113556.1.4.319"

/-- The answer of a server. `controls` is a dictionary of the response controls. -/
structure Response where
  code : Value := .int 0
  matchedName : Value := .str ""
  message : Value := .str ""
  diagnostic : Value := .str ""
  referrals : Value := .null
  controls : Value := .dict []

namespace Response

/-- The result code as a number; no code is success. -/
def codeNumber (response : Response) : Except Failure Int :=
  (response.code.orElse (.int 0)).toInt

/-- The operation succeeded: the code is zero and there is no diagnostic text. -/
def successful (response : Response) : Except Failure Bool := do
  if (← response.codeNumber) != 0 then return false
  return !response.diagnostic.isTrue

/-- The operation failed. -/
def failed (response : Response) : Except Failure Bool :=
  return !(← response.successful)

/-- The details of a failed operation. -/
def detail (response : Response) : Except Failure (Option Detail) := do
  if ← response.successful then return none
  return some ⟨.int (← response.codeNumber), response.message.orElse (.str ""),
    response.diagnostic.orElse (.str "")⟩

end Response

/-- The entries that a search found, and the answer of the server. -/
structure SearchResult where
  entries : Value
  response : Response

end Directory
