import Directory.Paging
import Directory.Proofs.Footprint

/-!
# Pages that are handed over

Fetching pages hands each one over as soon as it is there, under the next number. `Delivers` says
that a whole result was handed over: the first page is what the server gives for an empty cookie,
each further page what it gives for the cookie of the one before, and the last one comes without a
cookie. Where the fetching breaks off, the pages before have been handed over all the same.
-/

namespace Directory

open Directory.Action

/-- The page that a record is of, with its number. -/
def Record.page? : Record → Option (Nat × Value)
  | .page number entries => some (number, entries)
  | _ => none

/-- The pages that were handed over so far, with their numbers. -/
def World.pages (world : World) : List (Nat × Value) :=
  world.records.filterMap Record.page?

/-- The pages that were handed over between two worlds. -/
def World.handed (before after : World) : List (Nat × Value) :=
  after.pages.drop before.pages.length

theorem World.handed_eq {before after : World} {pages : List (Nat × Value)}
    (h : after.pages = before.pages ++ pages) : before.handed after = pages := by
  unfold handed
  rw [h, List.drop_left]

theorem World.pages_of_not_page (world : World) {record : Record} (h : record.page? = none) :
    ({ world with records := world.records ++ [record] } : World).pages = world.pages := by
  unfold pages
  rw [List.filterMap_append, List.filterMap_cons, h, List.filterMap_nil, List.append_nil]

/-- The pages handed over between two worlds have numbers in a row, from a number on. -/
def World.HandsInRow (number : Nat) (before after : World) : Prop :=
  ∃ pages, after.pages = before.pages ++ pages ∧
    pages.map Prod.fst = List.range' number pages.length

theorem World.HandsInRow.nil {number : Nat} {before after : World}
    (h : after.pages = before.pages) : HandsInRow number before after :=
  ⟨[], by rw [h, List.append_nil], rfl⟩

theorem World.HandsInRow.cons {number : Nat} {entries : Value} {before between after : World}
    (hone : between.pages = before.pages ++ [(number, entries)])
    (hrest : HandsInRow (number + 1) between after) : HandsInRow number before after := by
  obtain ⟨pages, hpages, hnumbers⟩ := hrest
  refine ⟨(number, entries) :: pages, ?_, ?_⟩
  · rw [hpages, hone, List.append_assoc]
    rfl
  · rw [List.map_cons, hnumbers]
    rfl

theorem World.HandsInRow.pages_eq {number : Nat} {before after : World}
    (h : HandsInRow number before after) : after.pages = before.pages ++ before.handed after := by
  obtain ⟨pages, hpages, -⟩ := h
  rw [handed_eq hpages, hpages]

theorem World.HandsInRow.numbers {number : Nat} {before after : World}
    (h : HandsInRow number before after) :
    (before.handed after).map Prod.fst = List.range' number (before.handed after).length := by
  obtain ⟨pages, hpages, hnumbers⟩ := h
  rwa [handed_eq hpages]

/-- No page is handed over by what goes on between transports, servers and listeners. -/
theorem Effect.isAloof_pages : Effect.IsAloof World.pages where
  records := fun world record hheard =>
    world.pages_of_not_page (by cases record <;> first | rfl | cases hheard)
  dispatchers := fun _ _ => rfl
  heard := fun _ _ => rfl
  loggers := fun _ _ => rfl
  requests := fun world record hrequest _ =>
    world.pages_of_not_page (by cases record <;> first | rfl | cases hrequest)
  script := fun _ _ => rfl
  clock := fun _ _ => rfl
  announced := fun _ _ => rfl

/-- A search hands over no page. -/
theorem Effect.showsNoSearch_pages : Effect.ShowsNoSearch World.pages :=
  fun world record hsearch =>
    world.pages_of_not_page (by cases record <;> first | rfl | cases hsearch)

namespace Paging

variable {σ α : Type} {paging : Paging} {fetch : Fetch σ}
  {use : Nat → Value → α → Action σ (ForInStep α)}

/-- A paged search is the one that was asked for. -/
theorem eq_of_make {filter perPage critical : Value}
    (h : make filter perPage critical = .ok paging) : paging = ⟨filter, perPage, critical⟩ := by
  unfold make at h
  cases hsmall : perPage.lessThanInt 1 with
  | error failure => simp [hsmall, Bind.bind, Except.bind] at h
  | ok isSmall => cases isSmall <;> simp_all [Bind.bind, Except.bind, Pure.pure, Except.pure]

/-- A whole result is handed over, from a number and a cookie on. -/
inductive Delivers (paging : Paging) (fetch : Fetch σ)
    (use : Nat → Value → α → Action σ (ForInStep α)) :
    Nat → Value → α → σ × World → List (Nat × Value) → α → σ × World → Prop
  | last {number : Nat} {cookie next : Value} {result final : α} {found : SearchResult}
      {start fetched ending : σ × World}
      (hfetch : exec (fetch paging.filter (some [paging.control cookie])) start =
        (.ok found, fetched))
      (huse : exec (use number found.entries result) fetched = (.ok (.yield final), ending))
      (hcookie : cookieOf found.response = .ok next) (hnext : next.isTrue = false) :
      Delivers paging fetch use number cookie result start [(number, found.entries)] final ending
  | page {number : Nat} {cookie next : Value} {result between final : α} {found : SearchResult}
      {start fetched used ending : σ × World} {pages : List (Nat × Value)}
      (hfetch : exec (fetch paging.filter (some [paging.control cookie])) start =
        (.ok found, fetched))
      (huse : exec (use number found.entries result) fetched = (.ok (.yield between), used))
      (hcookie : cookieOf found.response = .ok next) (hnext : next.isTrue = true)
      (hrest : Delivers paging fetch use (number + 1) next between used pages final ending) :
      Delivers paging fetch use number cookie result start ((number, found.entries) :: pages)
        final ending

/-- A use of pages that hands each one over. -/
def Hands (use : Nat → Value → α → Action σ (ForInStep α)) : Prop :=
  ∀ number entries result start,
    (exec (use number entries result) start).2.2.pages = start.2.pages ++ [(number, entries)]

theorem Hands.pages_eq (h : Hands use) {number : Nat} {entries : Value} {result : α}
    {outcome : Except Failure (ForInStep α)} {start ending : σ × World}
    (hexec : exec (use number entries result) start = (outcome, ending)) :
    ending.2.pages = start.2.pages ++ [(number, entries)] := by
  have hhanded := h number entries result start
  rwa [hexec] at hhanded

/-- The use of a page that is there, and the rest of the search. -/
def continueFrom (paging : Paging) (fetch : Fetch σ)
    (use : Nat → Value → α → Action σ (ForInStep α)) (rounds number : Nat) (found : SearchResult) :
    ForInStep α → Action σ α
  | .done result => return result
  | .yield result => do
    let cookie ← cookieOf found.response
    if !cookie.isTrue then return result
    foldFrom paging fetch use rounds (number + 1) cookie result

theorem foldFrom_succ (rounds number : Nat) (cookie : Value) (result : α) :
    foldFrom paging fetch use (rounds + 1) number cookie result = (do
      Value.note [.int number, paging.perPage, paging.filter]
      let found ← fetch paging.filter (some [paging.control cookie])
      let step ← use number found.entries result
      continueFrom paging fetch use rounds number found step) := by
  rw [foldFrom]
  refine congrArg (Bind.bind _) (funext fun _ => congrArg (Bind.bind _) (funext fun found =>
    congrArg (Bind.bind _) (funext fun step => ?_)))
  cases step <;> rfl

/-- Fetching pages and using each upholds what fetching one and using it uphold. -/
theorem upholds_foldFrom_of {inv : σ × World → Prop}
    (hfetch : ∀ controls, Upholds inv (fetch paging.filter controls))
    (huse : ∀ number entries result, Upholds inv (use number entries result))
    (rounds number : Nat) (cookie : Value) (result : α) :
    Upholds inv (foldFrom paging fetch use rounds number cookie result) := by
  induction rounds generalizing number cookie result with
  | zero => exact Upholds.throw _
  | succ rounds ih =>
      rw [foldFrom_succ]
      refine Upholds.bind (Upholds.lift _) fun _ => Upholds.bind (hfetch _) fun found =>
        Upholds.bind (huse _ _ _) fun step => ?_
      cases step with
      | done result => exact Upholds.pure result
      | yield result =>
          refine Upholds.bind (Upholds.lift _) fun cookie => ?_
          split
          · exact Upholds.pure result
          · exact ih (number + 1) cookie result

/-- A search that ends with a result that no use of a page ends it with has handed over a whole
result. -/
theorem exists_delivers {final : α}
    (hgoes : ∀ number entries result start used,
      exec (use number entries result) start ≠ (.ok (.done final), used))
    {rounds number : Nat} {cookie : Value} {result : α} {start ending : σ × World}
    (h : exec (foldFrom paging fetch use rounds number cookie result) start =
      (.ok final, ending)) :
    ∃ pages, Delivers paging fetch use number cookie result start pages final ending := by
  induction rounds generalizing number cookie result start with
  | zero => cases h
  | succ rounds ih =>
      rw [foldFrom_succ] at h
      obtain ⟨_, _, hnote, h⟩ := exec_bind_eq_ok_iff.1 h
      obtain ⟨-, rfl⟩ := exec_lift_eq_ok_iff.1 hnote
      obtain ⟨found, fetched, hfetch, h⟩ := exec_bind_eq_ok_iff.1 h
      obtain ⟨step, used, huse, h⟩ := exec_bind_eq_ok_iff.1 h
      cases step with
      | done result =>
          cases h
          exact absurd huse (hgoes _ _ _ _ _)
      | yield between =>
          obtain ⟨next, _, hread, h⟩ := exec_bind_eq_ok_iff.1 h
          obtain ⟨hcookie, rfl⟩ := exec_lift_eq_ok_iff.1 hread
          cases hnext : next.isTrue with
          | false =>
              rw [hnext] at h
              cases h
              exact ⟨_, .last hfetch huse hcookie hnext⟩
          | true =>
              rw [hnext] at h
              obtain ⟨pages, hpages⟩ := ih h
              exact ⟨_, .page hfetch huse hcookie hnext hpages⟩

/-- The numbers of a whole result are in a row. -/
theorem Delivers.numbers {number : Nat} {cookie : Value} {result final : α}
    {start ending : σ × World} {pages : List (Nat × Value)}
    (h : Delivers paging fetch use number cookie result start pages final ending) :
    pages.map Prod.fst = List.range' number pages.length := by
  induction h with
  | last => rfl
  | page _ _ _ _ _ ih =>
      rw [List.map_cons, ih]
      rfl

/-- There is no whole result without a page. -/
theorem Delivers.ne_nil {number : Nat} {cookie : Value} {result final : α}
    {start ending : σ × World} {pages : List (Nat × Value)}
    (h : Delivers paging fetch use number cookie result start pages final ending) :
    pages ≠ [] := by
  cases h with
  | last => exact List.cons_ne_nil _ _
  | page => exact List.cons_ne_nil _ _

/-- After a page, nothing or the rest is handed over. -/
theorem continueFrom_handsInRow {rounds number : Nat} (found : SearchResult) (used : σ × World)
    (step : ForInStep α) (hrest : ∀ cookie result, World.HandsInRow (number + 1) used.2
      (exec (foldFrom paging fetch use rounds (number + 1) cookie result) used).2.2) :
    World.HandsInRow (number + 1) used.2
      (exec (continueFrom paging fetch use rounds number found step) used).2.2 := by
  cases step with
  | done result => exact .nil rfl
  | yield between =>
      unfold continueFrom
      rw [exec_bind, exec_lift]
      cases cookieOf found.response with
      | error failure => exact .nil rfl
      | ok next =>
          dsimp only
          cases next.isTrue with
          | false => exact .nil rfl
          | true => exact hrest next between

section Numbers

variable (hfetch : ∀ filter controls, Spares World.pages (fetch filter controls))
  (huse : Hands use)
include hfetch huse

/-- The pages of a whole result are the ones that were handed over, under numbers in a row. -/
theorem Delivers.pages_eq {number : Nat} {cookie : Value} {result final : α}
    {start ending : σ × World} {pages : List (Nat × Value)}
    (h : Delivers paging fetch use number cookie result start pages final ending) :
    ending.2.pages = start.2.pages ++ pages := by
  induction h with
  | last hfound hused => rw [huse.pages_eq hused, (hfetch _ _).view_eq hfound]
  | page hfound hused _ _ _ ih =>
      rw [ih, huse.pages_eq hused, (hfetch _ _).view_eq hfound, List.append_assoc]
      rfl

/-- However a search ends, the pages handed over have numbers in a row. -/
theorem foldFrom_handsInRow (rounds number : Nat) (cookie : Value) (result : α)
    (start : σ × World) : World.HandsInRow number start.2
      (exec (foldFrom paging fetch use rounds number cookie result) start).2.2 := by
  -- on the rounds that are left
  induction rounds generalizing number cookie result start with
  | zero => exact .nil rfl
  | succ rounds ih =>
      rw [foldFrom_succ, exec_bind, exec_lift]
      cases hnote : Value.note [.int number, paging.perPage, paging.filter] with
      | error failure => exact .nil rfl
      | ok noted =>
          dsimp only
          rw [exec_bind]
          cases hfound : exec (fetch paging.filter (some [paging.control cookie])) start with
          | mk outcome fetched =>
              have hfetched := (hfetch _ _).view_eq hfound
              cases outcome with
              | error failure => exact .nil hfetched
              | ok found =>
                  dsimp only
                  rw [exec_bind]
                  cases hused : exec (use number found.entries result) fetched with
                  | mk outcome used =>
                      have hone := huse.pages_eq hused
                      rw [hfetched] at hone
                      refine .cons hone ?_
                      cases outcome with
                      | error failure => exact .nil rfl
                      | ok step =>
                          exact continueFrom_handsInRow found used step fun cookie result =>
                            ih (number + 1) cookie result used

end Numbers

end Paging

end Directory
