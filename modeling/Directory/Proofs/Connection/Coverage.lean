import Mathlib.Data.List.Nodup
import Mathlib.Data.List.Perm.Subperm
import Directory.Proofs.Connection.Failover
import Directory.Proofs.Connection.Identity

/-!
# Hosts covered by retries

An operation that only fails because the server is lost is run again on further hosts. `Covers` says
that the retries went to every configured host and that every one is noted. A run that raises covers
its hosts unless a retry could not connect for another reason than the loss of the server, which
ends the run at once without noting the host, or the hosts do not follow each other all the way
around: a host that is configured twice in a row is never left.
-/

namespace Directory.Connection

open Directory.Action

variable {σ α : Type}

/-- The operation fails in no other way than by the loss of the server. -/
def FailsOnlyByLoss (operation : Action σ α) : Prop :=
  ∀ start failure, (exec operation start).1 = .error failure →
    IsLost (.error failure : Except Failure α)

namespace Schedule

/-- The hosts on which the retries up to an iteration connect again. -/
def tried (schedule : Schedule σ α) (last : Nat) : List Value :=
  (List.range last).map schedule.host

/-- The retries up to an iteration went to every host, and every host is noted. -/
structure Covers (schedule : Schedule σ α) (last : Nat) (attempted : List Value) : Prop where
  tried : ∀ hostname ∈ schedule.hosts, hostname ∈ schedule.tried last
  noted : ∀ hostname ∈ schedule.hosts, hostname ∈ attempted

/-! ## The hosts tried -/

theorem tried_succ (schedule : Schedule σ α) (k : Nat) :
    schedule.tried (k + 1) = schedule.tried k ++ [schedule.host k] := by
  simp [tried, List.range_succ]

theorem tried_subset (schedule : Schedule σ α) {first second : Nat} (h : first ≤ second) :
    schedule.tried first ⊆ schedule.tried second :=
  List.map_subset _ (List.range_subset.2 h)

/-- A host that is configured twice in a row follows itself. -/
theorem hostAfter_repeated {before rest : List Value} {hostname : Value} (h : IsHostname hostname)
    (hfirst : hostname ∉ before) :
    hostAfter (before ++ hostname :: hostname :: rest) hostname = hostname := by
  have hbefore : before.findIdx? hostname.same = none := by
    rw [List.findIdx?_eq_none_iff]
    intro other hmem
    refine Bool.eq_false_iff.2 fun hsame => hfirst ?_
    rwa [← (h.same_iff other).1 hsame]
  have hindex : (before ++ hostname :: hostname :: rest).findIdx? hostname.same =
      some before.length := by
    rw [List.findIdx?_append, hbefore, List.findIdx?_cons, (h.same_iff hostname).2 rfl]
    simp
  have hnext : (before.length + 1) % (before ++ hostname :: hostname :: rest).length =
      before.length + 1 :=
    Nat.mod_eq_of_lt (by simp)
  unfold hostAfter
  rw [hindex]
  simp only [hnext]
  simp

/-- A host that is configured twice in a row is never left, so no other host is covered. -/
theorem not_covers_of_repeated {schedule : Schedule σ α} {before rest : List Value}
    (h : IsHostname schedule.first) (hfirst : schedule.first ∉ before)
    (hhosts : schedule.hosts = before ++ schedule.first :: schedule.first :: rest)
    {other : Value} (hother : other ∈ schedule.hosts) (hne : other ≠ schedule.first) (last : Nat)
    (attempted : List Value) : ¬ schedule.Covers last attempted := by
  have hhost (k : Nat) : schedule.host k = schedule.first := by
    induction k with
    | zero => rfl
    | succ k ih =>
        have hsucc : schedule.host (k + 1) = hostAfter schedule.hosts (schedule.host k) := by
          rw [host, host, Function.iterate_succ_apply']
        rw [hsucc, ih, hhosts, hostAfter_repeated h hfirst]
  intro hcovers
  obtain ⟨k, -, heq⟩ := List.mem_map.1 (hcovers.tried other hother)
  exact hne (heq.symm.trans (hhost k))

/-! ## What a run that raises covers -/

variable {schedule : Schedule σ α} {start : σ × World} {last : Nat} {failure : Failure}
  {ended : σ × World}

/-- A run that raises although the server was not lost in the end could not connect again, and
raises why. -/
theorem Ends.rejected (hends : schedule.Ends start last (.error failure, ended))
    (hloss : FailsOnlyByLoss schedule.operation)
    (hsettled : ¬ IsLost (schedule.outcome start last)) :
    ∃ rejection,
      exec (schedule.reach last) (schedule.before start last) = (.error rejection, ended) ∧
        failure = raised (schedule.focus.get start.1).classifier rejection := by
  generalize hend : (Except.error failure, ended) = ending at hends
  cases hends with
  | exhausted _ hlost => exact absurd (hlost last (Nat.lt_succ_self last)) hsettled
  | settled =>
      obtain ⟨hfailure, hended⟩ := Prod.mk.inj hend
      unfold outcome iteration at hfailure hsettled
      unfold after iteration at hended
      rw [exec_bind] at hfailure hsettled hended
      rcases hreach : exec (schedule.reach last) (schedule.before start last) with
        ⟨rejection | made, reached⟩
      · rw [hreach] at hfailure hended
        cases hfailure
        exact ⟨rejection, by rw [hended], rfl⟩
      · rw [hreach] at hfailure hsettled
        dsimp only at hfailure hsettled
        cases houtcome : (exec schedule.operation reached).1 with
        | ok result => rw [houtcome] at hfailure; cases hfailure
        | error loss => exact absurd (houtcome ▸ hloss reached loss houtcome) hsettled

/-- A run that raises has lost the server once at least. -/
theorem Ends.pos_of_error (hends : schedule.Ends start last (.error failure, ended))
    (hloss : FailsOnlyByLoss schedule.operation) (hne : schedule.hosts ≠ []) : 0 < last := by
  by_cases hlost : IsLost (schedule.outcome start 0)
  · exact hends.pos hne hlost
  · refine Nat.pos_of_ne_zero fun hzero => ?_
    rw [hzero] at hends
    obtain ⟨rejection, hreach, -⟩ := hends.rejected hloss hlost
    cases hreach

namespace IsProper

variable {ending : Except Failure α × (σ × World)} (h : schedule.IsProper)
include h

/-- The hosts that are noted at the end are those noted before, those of the retries before the last
one, and that of the last one if the server was lost again. -/
theorem mem_attempted_iff (hends : schedule.Ends start last ending) (hostname : Value) :
    hostname ∈ (schedule.focus.get ending.2.1).attempted ↔
      hostname ∈ (schedule.focus.get start.1).attempted ∨ hostname ∈ schedule.tried (last - 1) ∨
        (IsLost (schedule.outcome start last) ∧ hostname ∈ schedule.tried last) := by
  have hgained {hostnames : List Value} (hgains : Gains (schedule.focus.get start.1).attempted
      (schedule.focus.get ending.2.1).attempted hostnames) :
      hostname ∈ (schedule.focus.get ending.2.1).attempted ↔
        hostname ∈ (schedule.focus.get start.1).attempted ∨ hostname ∈ hostnames := by
    obtain ⟨fresh, hafter, -, hfresh⟩ := hgains
    rw [hafter, List.mem_append, hfresh]
    tauto
  by_cases hlost : IsLost (schedule.outcome start last)
  · have hgains := h.gains_of_isLost hends hlost
    rw [← hends.last_eq hlost] at hgains
    have hless := schedule.tried_subset (Nat.sub_le last 1)
    rw [hgained hgains]
    unfold tried at hless ⊢
    have := @hless hostname
    tauto
  · rw [hgained (h.gains_of_settled hends hlost)]
    unfold tried
    tauto

/-- The hosts are covered just when every one is tried and noted: all that are tried are noted if
the server was lost in the end, and otherwise all but the last. -/
theorem covers_iff (hends : schedule.Ends start last ending) :
    schedule.Covers last (schedule.focus.get ending.2.1).attempted ↔
      schedule.hosts ⊆ schedule.tried last ∧ (IsLost (schedule.outcome start last) ∨
        schedule.hosts ⊆ (schedule.focus.get start.1).attempted ++ schedule.tried (last - 1)) := by
  have hmem := h.mem_attempted_iff hends
  constructor
  · rintro ⟨htried, hnoted⟩
    refine ⟨htried, or_iff_not_imp_left.2 fun hsettled hostname hhost => ?_⟩
    rw [List.mem_append]
    rcases (hmem hostname).1 (hnoted hostname hhost) with hbefore | hearlier | ⟨hlost, -⟩
    · exact .inl hbefore
    · exact .inr hearlier
    · exact absurd hlost hsettled
  · rintro ⟨htried, hlost | hnoted⟩
    · exact ⟨htried, fun hostname hhost => (hmem hostname).2 (.inr (.inr ⟨hlost, htried hhost⟩))⟩
    · refine ⟨htried, fun hostname hhost => (hmem hostname).2 ?_⟩
      rcases List.mem_append.1 (hnoted hhost) with hbefore | hearlier
      · exact .inl hbefore
      · exact .inr (.inl hearlier)

/-- Different hosts are covered just when there was a retry on each, and the last one was noted. -/
theorem covers_iff_of_nodup (hends : schedule.Ends start last ending)
    (hnodup : schedule.hosts.Nodup) (hfirst : schedule.first ∈ schedule.hosts) :
    schedule.Covers last (schedule.focus.get ending.2.1).attempted ↔
      last = schedule.hosts.length ∧ (IsLost (schedule.outcome start last) ∨
        schedule.host (last - 1) ∈ (schedule.focus.get start.1).attempted) := by
  have hperm : (schedule.tried schedule.hosts.length).Perm schedule.hosts :=
    iterate_hostAfter_perm h.hosts hnodup hfirst
  rw [h.covers_iff hends]
  have hall : schedule.hosts ⊆ schedule.tried last ↔ last = schedule.hosts.length := by
    constructor
    · intro hsubset
      have hle := (hnodup.subperm hsubset).length_le
      rw [tried, List.length_map, List.length_range] at hle
      exact Nat.le_antisymm hends.le hle
    · intro hlast
      rw [hlast]
      exact hperm.symm.subset
  rw [hall]
  refine and_congr_right fun hlast => or_congr_right ?_
  -- the host of the last retry is no other one's
  obtain ⟨k, hk⟩ : ∃ k, last = k + 1 :=
    Nat.exists_eq_succ_of_ne_zero fun hzero => by
      have := List.length_pos_of_mem hfirst
      omega
  rw [← hlast, hk, tried_succ] at hperm
  rw [hk, Nat.add_sub_cancel]
  have hlastHost : schedule.host k ∉ schedule.tried k := fun hmem =>
    (List.nodup_append.1 (hperm.nodup_iff.2 hnodup)).2.2 _ hmem _ (List.mem_singleton_self _) rfl
  constructor
  · intro hsubset
    have hmem : schedule.host k ∈ schedule.hosts := hperm.subset (by simp)
    exact (List.mem_append.1 (hsubset hmem)).resolve_right hlastHost
  · intro hmem hostname hhost
    rcases List.mem_append.1 (hperm.symm.subset hhost) with hearlier | hlast
    · exact List.mem_append_right _ hearlier
    · exact List.mem_append_left _ (List.mem_singleton.1 hlast ▸ hmem)

end IsProper

end Schedule

/-! ## Runs -/

variable {names : List String} {initial start ended : Connection × World}
  {operation : Action Transport α} {failure : Failure}

theorem FailsOnlyByLoss.onTransport (h : FailsOnlyByLoss operation) :
    FailsOnlyByLoss (onTransport operation) :=
  fun start => h (start.1.transport, start.2)

/-- A run that raises after the operation was run, where that fails only by the loss of the server,
ends in a retry: in one that could not connect again for another reason, which it raises at once, or
in the last one. It covers the hosts just when each is tried and noted. Different hosts, of which
one was in use, are covered just when there was a retry on each, and the server was lost in the last
one too or its host had been noted before. Where the host in use is configured twice in a row, they
are not covered if there is any other. -/
theorem run_covers_iff (hloss : FailsOnlyByLoss operation)
    (hhosts : initial.1.configuration.hosts = names.map .str)
    (hhostname : IsHostname initial.1.hostname)
    (hopening : exec (opening .whole) initial = (.ok (), start))
    (hended : exec (run (onTransport operation)) initial = (.error failure, ended)) :
    let schedule := scheduleOf operation names start.1.hostname
    ∃ last ≤ names.length,
      (names ≠ [] → 0 < last ∧ schedule.Ends start last (.error failure, ended) ∧
        (¬ IsLost (schedule.outcome start last) →
          ∃ rejection,
            exec (schedule.reach last) (schedule.before start last) = (.error rejection, ended) ∧
              failure = raised start.1.classifier rejection)) ∧
      (schedule.Covers last ended.1.attempted ↔
        schedule.hosts ⊆ schedule.tried last ∧ (IsLost (schedule.outcome start last) ∨
          schedule.hosts ⊆ start.1.attempted ++ schedule.tried (last - 1))) ∧
      (names.Nodup → start.1.hostname ∈ names.map Value.str →
        (schedule.Covers last ended.1.attempted ↔
          last = names.length ∧ (IsLost (schedule.outcome start last) ∨
            schedule.host (last - 1) ∈ start.1.attempted))) ∧
      ∀ before rest, start.1.hostname ∉ before →
        schedule.hosts = before ++ start.1.hostname :: start.1.hostname :: rest →
          ∀ other ∈ schedule.hosts, other ≠ start.1.hostname →
            ¬ schedule.Covers last ended.1.attempted := by
  intro schedule
  obtain ⟨hstart, hused⟩ := hosts_of_opening hhosts hhostname hopening
  have hproper : schedule.IsProper := isProper_scheduleOf operation names hused
  have hlength : schedule.hosts.length = names.length := List.length_map _
  have hrepeated (last : Nat) (before rest : List Value) (hbefore : start.1.hostname ∉ before)
      (hhosts : schedule.hosts = before ++ start.1.hostname :: start.1.hostname :: rest)
      (other : Value) (hother : other ∈ schedule.hosts) (hne : other ≠ start.1.hostname) :
      ¬ schedule.Covers last ended.1.attempted :=
    Schedule.not_covers_of_repeated hused hbefore hhosts hother hne last ended.1.attempted
  by_cases hnames : names = []
  · -- without a host nothing has to be covered
    have hnone : schedule.hosts = [] := List.map_eq_nil_iff.2 hnames
    refine ⟨0, Nat.zero_le _, absurd hnames, iff_of_true ⟨?_, ?_⟩ ⟨?_, .inr ?_⟩, fun _ hmem => ?_,
      hrepeated 0⟩
    · simp [hnone]
    · simp [hnone]
    · simp [hnone]
    · simp [hnone]
    · simp [hnames] at hmem
  have hne : schedule.hosts ≠ [] := by simpa [schedule, scheduleOf] using hnames
  rw [run_eq, exec_bind, hopening] at hended
  obtain ⟨last, hends⟩ := hproper.runOpened_ends hstart rfl hne
  have hopened : exec (runOpened schedule.focus schedule.operation) start =
      (.error failure, ended) :=
    hended
  rw [hopened] at hends
  have hpos := hends.pos_of_error hloss.onTransport hne
  refine ⟨last, hlength ▸ hends.le, fun _ => ⟨hpos, hends, hends.rejected hloss.onTransport⟩,
    hproper.covers_iff hends, fun hnodup hmem => ?_, hrepeated last⟩
  rw [← hlength]
  exact hproper.covers_iff_of_nodup hends (hnodup.map fun _ _ => Value.str.inj) hmem

/-- An operation whose server can never be contacted. -/
def unreachable : Action Transport Unit :=
  throw serverLost

theorem failsOnlyByLoss_unreachable : FailsOnlyByLoss unreachable := by
  intro start failure hfailure
  cases hfailure
  exact ⟨serverLost, rfl, rfl, rfl⟩

/-- A server that is lost again on both hosts. -/
theorem run_covers_two_hosts :
    let schedule := scheduleOf unreachable ["a", "b"] (.str "a")
    let ended := exec (run (onTransport unreachable)) lostTwice
    FailsOnlyByLoss unreachable ∧ lostTwice.1.configuration.hosts = ["a", "b"].map .str ∧
      IsHostname lostTwice.1.hostname ∧ exec (opening .whole) lostTwice = (.ok (), lostTwice) ∧
      ended.1 = .error serverLost ∧
      ∃ last, schedule.Ends lostTwice last ended ∧ schedule.Covers last ended.2.1.attempted := by
  intro schedule ended
  have hhosts : lostTwice.1.configuration.hosts = ["a", "b"].map .str := rfl
  have hhostname : IsHostname lostTwice.1.hostname := .inr ⟨"a", rfl⟩
  have hopening : exec (opening .whole) lostTwice = (.ok (), lostTwice) := rfl
  have hfailure : (exec (run (onTransport unreachable)) lostTwice).1 = .error serverLost :=
    eq_error_of_failsPlainly (by decide +kernel)
  have hnoted : (exec (run (onTransport unreachable)) lostTwice).2.1.attempted =
      [.str "a", .str "b"] :=
    Value.eq_of_arePlainly (by decide +kernel)
  have hended : exec (run (onTransport unreachable)) lostTwice = (.error serverLost, ended.2) :=
    Prod.ext hfailure rfl
  obtain ⟨last, hle, hruns, -, hcovers, -⟩ :=
    run_covers_iff failsOnlyByLoss_unreachable hhosts hhostname hopening hended
  obtain ⟨-, hends, -⟩ := hruns (List.cons_ne_nil _ _)
  rw [← hended] at hends
  refine ⟨failsOnlyByLoss_unreachable, hhosts, hhostname, hopening, hfailure, last, hends, ?_⟩
  refine (hcovers (by decide) (by simp [lostTwice])).2 ?_
  have hlost : IsLost (schedule.outcome lostTwice last) := by
    -- the second host would not be noted otherwise
    by_contra hsettled
    have hproper : schedule.IsProper := isProper_scheduleOf unreachable ["a", "b"] hhostname
    have hmem : Value.str "b" ∈ ended.2.1.attempted := hnoted ▸ List.mem_cons_of_mem _ (by simp)
    rcases (hproper.mem_attempted_iff hends _).1 hmem with hbefore | hearlier | ⟨hlost, -⟩
    · cases hbefore
    · have hfirst := schedule.tried_subset (show last - 1 ≤ 1 by simp at hle; omega) hearlier
      simp [Schedule.tried, Schedule.host, schedule, scheduleOf] at hfirst
    · exact hsettled hlost
  exact ⟨hends.last_eq hlost, .inl hlost⟩

/-- A connection to the first of two hosts that loses the server once, and then the bind is
refused. -/
def refusedAfterLoss : Connection × World :=
  ({ configuration := ⟨fun
      | .hosts => .list [.str "a", .str "b"]
      | name => name.default⟩
     transport := { Transport.direct 0 with link := .direct 0 true {}, isBound := true }
     hostname := .str "a" },
    { script := fun
      | .bind => [.gives { response := { code := .int 49 } }]
      | _ => [] })

/-- A retry whose bind is refused ends the run: the other host is not tried, and none is noted. -/
theorem refusedBind_ends_run :
    let schedule := scheduleOf unreachable ["a", "b"] (.str "a")
    let ended := exec (run (onTransport unreachable)) refusedAfterLoss
    FailsOnlyByLoss unreachable ∧
      refusedAfterLoss.1.configuration.hosts = ["a", "b"].map .str ∧
      exec (opening .whole) refusedAfterLoss = (.ok (), refusedAfterLoss) ∧
      raisedKind? ended.1 = some .bind ∧ ended.2.1.hostname = .str "a" ∧
      ended.2.1.attempted = [] ∧ ∀ last, ¬ schedule.Covers last ended.2.1.attempted := by
  intro schedule ended
  have hkind : raisedKind? (exec (run (onTransport unreachable)) refusedAfterLoss).1 =
      some .bind := by decide +kernel
  have hhost : (exec (run (onTransport unreachable)) refusedAfterLoss).2.1.hostname = .str "a" :=
    Value.eq_of_isPlainly (by decide +kernel)
  have hnoted : (exec (run (onTransport unreachable)) refusedAfterLoss).2.1.attempted = [] :=
    Value.eq_of_arePlainly (by decide +kernel)
  refine ⟨failsOnlyByLoss_unreachable, rfl, rfl, hkind, hhost, hnoted, fun last hcovers => ?_⟩
  have hmem : Value.str "a" ∈ ended.2.1.attempted := hcovers.noted _ List.mem_cons_self
  rw [show ended.2.1.attempted = [] from hnoted] at hmem
  cases hmem

end Directory.Connection
