import Directory.Proofs.Footprint

/-!
# How a run recovers

A run that gives a result went through attempts in which the server was lost, and then through one
that gave the result. `Recovers` says from where each of them was made, and `Reconnects` what lies
between two of them; neither asks anything of the operation, which may itself use the connection.
`retry_recovers` goes through the retries that are left.
-/

namespace Directory.Connection

open Directory.Action

variable {σ α υ : Type} {view : World → υ}

/-- The connection is made again: hosts that cannot be used are noted until one can be reached. -/
inductive Reconnects (focus : Focus σ Connection) : σ × World → σ × World → Prop
  | reached {hostname : Value} {left reached : σ × World}
      (hmade : exec ((reconnectTo hostname).on focus) left = (.ok (), reached)) :
      Reconnects focus left reached
  | failed {hostname : Value} {left between reached : σ × World} {failure : Failure}
      (hfails : exec ((reconnectTo hostname).on focus) left = (.error failure, between))
      (hlost : IsLost (.error failure : Except Failure Unit))
      (hrest : Reconnects focus between reached) : Reconnects focus left reached
  | noted {hostname : Value} {left between reached : σ × World}
      (hnote : exec ((noteAttempt hostname).on focus) left = (.ok (), between))
      (hrest : Reconnects focus between reached) : Reconnects focus left reached

/-- An operation is run from each of the abandoned states, the first of them or the last state being
where it is run first. The server is lost each time and the connection is made again, until the
operation is run from the last state. -/
inductive Recovers (focus : Focus σ Connection) (operation : Action σ α) :
    σ × World → List (σ × World) → σ × World → Prop
  | settled (last : σ × World) : Recovers focus operation last [] last
  | lost {reached again last : σ × World} {abandoned : List (σ × World)}
      (hlost : IsLost (exec operation reached).1)
      (hagain : Reconnects focus (exec operation reached).2 again)
      (hrest : Recovers focus operation again abandoned last) :
      Recovers focus operation reached (reached :: abandoned) last

variable {focus : Focus σ Connection} {operation : Action σ α} {result : α}
  {start reached last ending : σ × World}

theorem Reconnects.spares (haloof : Effect.IsAloof view) (h : Reconnects focus start reached) :
    view reached.2 = view start.2 := by
  induction h with
  | reached hmade => exact (Spares.on (spares_reconnectTo haloof _)).view_eq hmade
  | failed hfails _ _ ih =>
      exact ih.trans ((Spares.on (spares_reconnectTo haloof _)).view_eq hfails)
  | noted hnote _ ih => exact ih.trans ((Spares.on (spares_noteAttempt _)).view_eq hnote)

/-- An attempt is abandoned because the server was lost. -/
theorem Recovers.isLost {first : σ × World} {abandoned : List (σ × World)}
    (h : Recovers focus operation first abandoned last) :
    ∀ reached ∈ abandoned, IsLost (exec operation reached).1 := by
  induction h with
  | settled last => exact fun _ hmem => absurd hmem List.not_mem_nil
  | lost hlost _ _ ih =>
      intro reached hmem
      obtain rfl | hmem := List.mem_cons.1 hmem
      · exact hlost
      · exact ih reached hmem

/-- What settles into a result was one, or the server was lost. -/
theorem exec_settle_eq_ok (hfocus : focus.IsLawful) {next : Failure → Action σ α}
    {outcome : Except Failure α}
    (h : exec (settle focus next outcome) start = (.ok result, ending)) :
    (outcome = .ok result ∧ start = ending) ∨ ∃ failure, outcome = .error failure ∧
      IsLost outcome ∧ exec (next failure) start = (.ok result, ending) := by
  by_cases hlost : IsLost outcome
  · obtain ⟨failure, rfl, hrest⟩ := hlost
    rw [exec_settle_of_isLost ⟨failure, rfl, hrest⟩] at h
    exact .inr ⟨failure, rfl, ⟨failure, rfl, hrest⟩, h⟩
  · rw [exec_settle_of_not_isLost hfocus hlost] at h
    obtain ⟨houtcome, rfl⟩ := Prod.mk.inj h
    cases outcome with
    | error failure => cases houtcome
    | ok given =>
        cases houtcome
        exact .inl ⟨rfl, rfl⟩

/-- After a loss a result is given only by a further retry, once the host was noted. -/
theorem exec_afterLoss_eq_ok {retries : Nat} {hostname : Value} {failure : Failure}
    (h : exec (afterLoss focus operation hostname retries failure) start = (.ok result, ending)) :
    ∃ fewer next noted, fewer < retries ∧
      exec ((noteAttempt hostname).on focus) start = (.ok (), noted) ∧
      exec (retry focus operation fewer next) noted = (.ok result, ending) := by
  cases retries with
  | zero =>
      obtain ⟨_, _, -, h⟩ := exec_bind_eq_ok_iff.1 h
      cases h
  | succ fewer =>
      obtain ⟨_, noted, hnote, h⟩ := exec_bind_eq_ok_iff.1 h
      obtain ⟨_, _, hstate, h⟩ := exec_bind_eq_ok_iff.1 h
      cases hstate
      obtain ⟨_, _, hnext, h⟩ := exec_bind_eq_ok_iff.1 h
      obtain ⟨-, rfl⟩ := exec_lift_eq_ok_iff.1 hnext
      exact ⟨fewer, _, noted, Nat.lt_succ_self fewer, hnote, h⟩

/-- Retries that give a result make the connection again and recover. -/
theorem retry_recovers (hfocus : focus.IsLawful) {retries : Nat} {hostname : Value}
    (h : exec (retry focus operation retries hostname) start = (.ok result, ending)) :
    ∃ reached abandoned last, Reconnects focus start reached ∧
      Recovers focus operation reached abandoned last ∧
      exec operation last = (.ok result, ending) := by
  -- on the retries that are left: each loss uses up one of them
  induction retries using Nat.strong_induction_on generalizing hostname start with
  | _ retries ih =>
      have hagain {left : σ × World} {failure : Failure}
          (h : exec (afterLoss focus operation hostname retries failure) left =
            (.ok result, ending)) : ∃ reached abandoned last, Reconnects focus left reached ∧
              Recovers focus operation reached abandoned last ∧
              exec operation last = (.ok result, ending) := by
        obtain ⟨fewer, next, noted, hfewer, hnote, hretry⟩ := exec_afterLoss_eq_ok h
        obtain ⟨reached, abandoned, last, hreached, hrest⟩ := ih fewer hfewer hretry
        exact ⟨reached, abandoned, last, .noted hnote hreached, hrest⟩
      rw [retry_eq, exec_bind, exec_observe] at h
      dsimp only at h
      cases hmade : exec ((reconnectTo hostname).on focus) start with
      | mk made reached =>
          rw [exec_bind, hmade] at h
          cases made with
          | error failure =>
              -- the connection could not be made, and the operation was not run
              obtain ⟨hfailed, -⟩ | ⟨_, hfailed, hlost, h⟩ := exec_settle_eq_ok hfocus h
              · cases hfailed
              · obtain ⟨again, abandoned, last, hreached, hrest⟩ := hagain h
                obtain ⟨_, heq, hreport⟩ := hlost
                cases heq
                exact ⟨again, abandoned, last, .failed hmade ⟨_, rfl, hreport⟩ hreached, hrest⟩
          | ok made =>
              have hreached : Reconnects focus start reached := .reached hmade
              obtain ⟨hgiven, hended⟩ | ⟨_, -, hlost, h⟩ := exec_settle_eq_ok hfocus h
              · exact ⟨reached, [], reached, hreached, .settled reached, Prod.ext hgiven hended⟩
              · obtain ⟨again, abandoned, last, hbetween, hrecovers, hended⟩ := hagain h
                exact ⟨reached, reached :: abandoned, last, hreached,
                  .lost hlost hbetween hrecovers, hended⟩

/-- A run that gives a result opens the connection if that is needed, and recovers. -/
theorem runWithin_recovers (hfocus : focus.IsLawful)
    (h : exec (runWithin focus operation) start = (.ok result, ending)) :
    ∃ opened abandoned last, exec (opening focus) start = (.ok (), opened) ∧
      Recovers focus operation opened abandoned last ∧
      exec operation last = (.ok result, ending) := by
  rw [runWithin_eq] at h
  obtain ⟨_, opened, hopen, h⟩ := exec_bind_eq_ok_iff.1 h
  refine ⟨opened, ?_⟩
  unfold runOpened at h
  rw [exec_bind, exec_state] at h
  dsimp only at h
  rw [exec_bind, exec_observe] at h
  dsimp only at h
  obtain ⟨hgiven, hended⟩ | ⟨failure, -, hlost, h⟩ := exec_settle_eq_ok hfocus h
  · exact ⟨[], opened, hopen, .settled opened, Prod.ext hgiven hended⟩
  · unfold afterFirstLoss at h
    split at h
    · obtain ⟨_, _, -, h⟩ := exec_bind_eq_ok_iff.1 h
      cases h
    · obtain ⟨_, _, hnote, h⟩ := exec_bind_eq_ok_iff.1 h
      obtain ⟨-, rfl⟩ := exec_lift_eq_ok_iff.1 hnote
      obtain ⟨again, abandoned, last, hbetween, hrecovers, hended⟩ := retry_recovers hfocus h
      exact ⟨opened :: abandoned, last, hopen, .lost hlost hbetween hrecovers, hended⟩

end Directory.Connection
