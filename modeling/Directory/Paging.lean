import Directory.Action
import Directory.Response

/-!
# Paging

A search that is done one page at a time. Each request carries a control with the size of a page and
the cookie of the response before it; the first carries an empty one. The response without a cookie
is the last. A page is used as soon as it is there, before the next one is asked for.
-/

namespace Directory

/-- A paged search: what is searched for, and how it is paged. If paging is critical, a server that
cannot page must refuse the search. -/
structure Paging where
  filter : Value
  perPage : Value
  critical : Value

namespace Paging

/-- Paging by a number of entries, which must be at least one. -/
def make (filter perPage critical : Value) : Except Failure Paging := do
  if ← perPage.lessThanInt 1 then throw Refusal.pageTooSmall.toFailure
  return ⟨filter, perPage, critical⟩

/-- The control that asks for the page after a cookie. -/
def control (paging : Paging) (cookie : Value) : Control :=
  ⟨.str pagedResultsOid, paging.critical,
    .dict [(.str "size", paging.perPage), (.str "cookie", cookie)]⟩

/-- The cookie in a response. Whatever counts as false on the way to it is the same as nothing. -/
def cookieOf (response : Response) : Except Failure Value := do
  let nothing := Value.dict []
  let control ← (response.controls.orElse nothing).get pagedResultsOid .null
  let value ← (control.orElse nothing).get "value" .null
  (value.orElse nothing).get "cookie" .null

/-- A search for a filter with controls. -/
abbrev Fetch (σ : Type) := Value → Option (List Control) → Action σ SearchResult

/-- Fetch pages and use each with its number, starting at a cookie and a number, until there is no
further page or the use of a page ends the search. There are at most as many rounds as given, and
going beyond them is a failure. -/
def foldFrom (paging : Paging) (fetch : Fetch σ)
    (use : Nat → Value → α → Action σ (ForInStep α)) : Nat → Nat → Value → α → Action σ α
  | 0, _, _, _ => throw (Failure.misuse .tooDeep)
  | rounds + 1, number, cookie, result => do
    Value.note [.int number, paging.perPage, paging.filter]
    let found ← fetch paging.filter (some [paging.control cookie])
    match ← use number found.entries result with
    | .done result => return result
    | .yield result =>
      let cookie ← cookieOf found.response
      if !cookie.isTrue then return result
      foldFrom paging fetch use rounds (number + 1) cookie result

/-- The number of pages that a script can give: beyond the end of a queue no response has a
cookie. -/
def mostPages (scope : Scope) : Effect Nat := do
  let script := (← get).script
  return (script (.search scope)).length + (script (.wire .search)).length + 1

/-- Fetch the pages of a search and use each with its number, counted from one. -/
def fold (paging : Paging) (scope : Scope) (fetch : Fetch σ)
    (use : Nat → Value → α → Action σ (ForInStep α)) (result : α) : Action σ α := do
  foldFrom paging fetch use (← Action.outside (mostPages scope)) 1 (.bytes []) result

/-- The entries of all the pages of a search, page by page. -/
def pages (paging : Paging) (scope : Scope) (fetch : Fetch σ) :
    Action σ (List Value) :=
  paging.fold scope fetch (fun _ entries pages => return .yield (pages ++ [entries])) []

end Paging

end Directory
