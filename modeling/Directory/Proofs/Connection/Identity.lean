import Directory.Proofs.Connection.Orderly
import Directory.Proofs.Connection.Run

/-!
# As whom operations are run

A connection that was made is bound as the user it was made for, and keeps neither the name nor the
password. A retry connects again as the configured account, and so the invocations of an operation
in one run see the same user just when there is only one of them or the connection was bound as that
account. `isBoundAs_of_connectTo` is the step: connecting to a host, whatever was done before, ends
as the user it was asked for.
-/

namespace Directory

open Directory.Action

namespace Connection

variable {α : Type} {names : List String} {who username password hostname : Value}
  {start ending initial made : Connection × World}

/-! ## Connecting -/

/-- The connection can be used, has a certain configuration, and is bound as someone. -/
structure IsBoundAs (configuration : Configuration) (who : Value) (connection : Connection) :
    Prop where
  isConnected : connection.isConnected = true
  configuration : connection.configuration = configuration
  boundAs : connection.transport.boundAs = who

theorem meets_openHost_isConnected (hostname : Value) :
    Meets (fun _ => True) (openHost hostname)
      (fun _ ending => ending.1.transport.isConnected = true) (fun _ _ => True) := by
  have hopen (hostname port : Value) : Meets (fun _ => True) (openReleased hostname port)
      (fun _ ending => ending.1.transport.isConnected = true) (fun _ _ => True) :=
    Meets.bind (Meets.anything _) fun _ => Meets.bind (Meets.anything _) fun _ =>
      Meets.bind (Meets.on isLawful_link (Transport.meets_connect_isConnected hostname port))
        fun _ => fun _ h => h
  exact meets_openHost_of ((Meets.anything _).restrict fun _ _ => trivial) (fun _ h _ => h)
    (fun _ _ _ _ => trivial) fun _ chosen _ _ => hopen chosen _

/-- A connection that was opened and bound can be used, as the user it was bound for. -/
theorem isBoundAs_of_bind (hopen : start.1.transport.isConnected = true)
    (h : exec (bind username password) start = (.ok (), ending)) :
    ending.1.IsBoundAs start.1.configuration
      (userFor start.1.configuration username password).1 := by
  rw [bind_eq] at h
  obtain ⟨_, _, hstate, h⟩ := exec_bind_eq_ok_iff.1 h
  cases hstate
  obtain ⟨_, bound, hbind, h⟩ := exec_bind_eq_ok_iff.1 h
  cases h
  rw [exec_onTransport] at hbind
  let user := userFor start.1.configuration username password
  have hconnected := Guard.preserves_isConnected_bind start.1.guard user.1 user.2
    (start.1.transport, start.2) hopen
  cases hguard : exec (start.1.guard.bind user.1 user.2) (start.1.transport, start.2) with
  | mk outcome transport =>
      rw [hguard] at hbind hconnected
      cases hbind
      have hidentity := Guard.identity_of_bind hguard
      have hisBound := Guard.isBound_of_identity hidentity
      refine ⟨?_, rfl, ?_⟩
      · show (transport.1.isConnected && transport.1.isBound) = true
        rw [hconnected, hisBound]
        rfl
      · unfold Transport.identity? at hidentity
        rw [if_pos hisBound] at hidentity
        exact Option.some.inj hidentity

/-- A connection that was made to a host can be used, as the user it was made for. -/
theorem isBoundAs_of_connectTo
    (h : exec (connectTo hostname username password) start = (.ok (), ending)) :
    ending.1.IsBoundAs start.1.configuration
      (userFor start.1.configuration username password).1 := by
  have hconfiguration : Keeps Connection.configuration (setOut hostname) :=
    Keeps.bind (Keeps.change fun _ => rfl) fun _ => Keeps.bind (keeps_announce _ _) fun _ =>
      keeps_openHost hostname fun _ _ _ _ => rfl
  have hopened : Meets (fun _ => True) (setOut hostname)
      (fun _ ending => ending.1.transport.isConnected = true) (fun _ _ => True) :=
    Meets.bind (Meets.anything _) fun _ =>
      Meets.bind (Meets.anything _) fun _ => meets_openHost_isConnected hostname
  rw [connectTo_eq] at h
  obtain ⟨_, opened, hsetOut, h⟩ := exec_bind_eq_ok_iff.1 h
  obtain ⟨_, bound, hbind, h⟩ := exec_bind_eq_ok_iff.1 h
  have hbound := isBoundAs_of_bind (hopened.ok trivial hsetOut) hbind
  rw [hconfiguration.view_eq hsetOut] at hbound
  have hannounced : ending.1 = bound.1 := (keeps_announce id (.connected hostname)).view_eq h
  rwa [hannounced]

/-- A connection that was made to one of several hosts was made to it after others were tried. -/
theorem exists_connectTo_of_connectToAny {hostname : Value} {hostnames : List Value}
    {start ending : Connection × World}
    (h : exec (connectToAny username password hostname hostnames) start = (.ok none, ending)) :
    ∃ used tried, tried.1.configuration = start.1.configuration ∧
      exec (connectTo used username password) tried = (.ok (), ending) := by
  cases hfirst : exec (connectTo hostname username password) start with
  | mk result between =>
      cases result with
      | ok made =>
          rw [connectToAny, exec_bind, exec_observe, hfirst] at h
          cases h
          exact ⟨hostname, start, rfl, hfirst⟩
      | error failure =>
          rw [exec_connectToAny_of_error hfirst] at h
          split at h
          · obtain ⟨_, _, hnote, hrest⟩ := exec_bind_eq_ok_iff.1 h
            obtain ⟨-, rfl⟩ := exec_lift_eq_ok_iff.1 hnote
            obtain ⟨_, noted, hattempt, hmade⟩ := exec_bind_eq_ok_iff.1 hrest
            cases hostnames with
            | nil => cases hmade
            | cons next hostnames =>
                have hrest : exec (connectToAny username password next hostnames) noted =
                    (.ok none, ending) := hmade
                -- a host that could not be used leaves the configuration as it is
                have htried : Keeps Connection.configuration
                    (connectTo hostname username password) :=
                  keeps_connectTo hostname username password fun _ _ _ _ => rfl
                have hnoted : Keeps Connection.configuration (noteAttempt hostname) :=
                  keeps_noteAttempt hostname fun _ _ => rfl
                obtain ⟨used, tried, hsame, hused⟩ := exists_connectTo_of_connectToAny hrest
                refine ⟨used, tried, ?_, hused⟩
                rw [hsame, hnoted.view_eq hattempt, htried.view_eq hfirst]
          · cases h

/-- A connection that was made was made to a host after others were tried. -/
theorem exists_connectTo_of_connect
    (h : exec (connect username password) start = (.ok (), ending)) :
    ∃ used tried, tried.1.configuration = start.1.configuration ∧
      exec (connectTo used username password) tried = (.ok (), ending) := by
  unfold connect at h
  rw [exec_bind, exec_state] at h
  dsimp only at h
  split at h
  · cases h
  · obtain ⟨last, between, hany, h⟩ := exec_bind_eq_ok_iff.1 h
    cases last with
    | none =>
        cases h
        exact exists_connectTo_of_connectToAny hany
    | some last =>
        obtain ⟨_, _, -, h⟩ := exec_bind_eq_ok_iff.1 h
        obtain ⟨_, _, -, h⟩ := exec_bind_eq_ok_iff.1 h
        obtain ⟨_, _, -, h⟩ := exec_bind_eq_ok_iff.1 h
        obtain ⟨_, _, -, h⟩ := exec_bind_eq_ok_iff.1 h
        cases h

/-- A connection that was made can be used, as the user it was made for. -/
theorem isBoundAs_of_connect (h : exec (connect username password) start = (.ok (), ending)) :
    ending.1.IsBoundAs start.1.configuration
      (userFor start.1.configuration username password).1 := by
  obtain ⟨used, tried, hsame, hused⟩ := exists_connectTo_of_connect h
  have hbound := isBoundAs_of_connectTo hused
  rwa [hsame] at hbound

/-! ## Running operations -/

/-- A run on a connection that can be used goes through the iterations of its schedule. -/
theorem exists_ends (operation : Action Transport α) (hnames : names ≠ [])
    (hhosts : start.1.configuration.hosts = names.map .str)
    (hhostname : IsHostname start.1.hostname) (hconnected : start.1.isConnected = true) :
    ∃ last ≤ names.length, (scheduleOf operation names start.1.hostname).Ends start last
      (exec (run (onTransport operation)) start) := by
  rw [run_eq, exec_bind, exec_opening_whole, if_pos hconnected]
  obtain ⟨last, hends⟩ := (isProper_scheduleOf operation names hhostname).runOpened_ends hhosts rfl
    (by simpa [scheduleOf] using hnames)
  exact ⟨last, List.length_map Value.str ▸ hends.le, hends⟩

/-- An operation is run first where the run starts, and then where a connection was made again. -/
theorem Schedule.invocations_eq {σ : Type} (schedule : Schedule σ α) (start : σ × World)
    (last : Nat) : ∃ later, schedule.invocations start last = start :: later ∧
      ∀ reached ∈ later, ∃ k, exec ((reconnectTo (schedule.host k)).on schedule.focus)
        (schedule.before start (k + 1)) = (.ok (), reached) := by
  unfold invocations
  rw [List.range_succ_eq_map, List.filterMap_cons, List.filterMap_map]
  refine ⟨_, rfl, fun reached hmem => ?_⟩
  obtain ⟨k, -, hreached⟩ := List.mem_filterMap.1 hmem
  refine ⟨k, ?_⟩
  show exec (schedule.reach (k + 1)) (schedule.before start (k + 1)) = _
  dsimp only [Function.comp] at hreached
  generalize exec (schedule.reach (k + 1)) (schedule.before start (k + 1)) = ended at hreached ⊢
  obtain ⟨_ | _, ending⟩ := ended
  · cases hreached
  · cases hreached
    rfl

theorem Schedule.mem_invocations {σ : Type} {schedule : Schedule σ α} {start reached : σ × World}
    {k last : Nat} (hle : k ≤ last)
    (h : exec (schedule.reach k) (schedule.before start k) = (.ok (), reached)) :
    reached ∈ schedule.invocations start last := by
  refine List.mem_filterMap.2 ⟨k, List.mem_range.2 (Nat.lt_succ_of_le hle), ?_⟩
  rw [h]

/-- Where the server is lost the first time, and there is a host, the operation is run again. -/
theorem Schedule.Ends.pos {σ : Type} {schedule : Schedule σ α} {start : σ × World} {last : Nat}
    {ended : Except Failure α × (σ × World)} (h : schedule.Ends start last ended)
    (hhosts : schedule.hosts ≠ []) (hlost : IsLost (schedule.outcome start 0)) : 0 < last := by
  refine Nat.pos_of_ne_zero ?_
  rintro rfl
  exact hhosts (List.length_eq_zero_iff.1 (h.last_eq hlost).symm)

/-- A connection that was made again can be used, as the configured account. -/
theorem isBoundAs_of_reconnectTo
    (h : exec (reconnectTo hostname) start = (.ok (), ending)) :
    ending.1.IsBoundAs start.1.configuration (start.1.configuration.value .username) := by
  obtain ⟨_, closed, hclose, h⟩ := exec_bind_eq_ok_iff.1 h
  have hkeeps : Keeps Connection.configuration disconnect := keeps_disconnect fun _ _ _ _ => rfl
  have hbound := isBoundAs_of_connectTo h
  rwa [hkeeps.view_eq hclose] at hbound

/-- A connection that was made is bound as the user it was made for. Whoever it is bound as when an
operation is run, every retry runs the operation as the configured account, and so all invocations
see the same user just when the operation is not run again or the user is that account. -/
theorem run_sees_user_iff (hhosts : initial.1.configuration.hosts = names.map .str)
    (hconnect : exec (connect username password) initial = (.ok (), made)) :
    let configuration := initial.1.configuration
    let account := configuration.value .username
    made.1.IsBoundAs configuration (userFor configuration username password).1 ∧
      IsHostname made.1.hostname ∧
      ∀ who start, start.1.IsBoundAs configuration who → IsHostname start.1.hostname →
        ∀ {α : Type} (operation : Action Transport α),
          let schedule := scheduleOf operation names start.1.hostname
          ∃ last ≤ names.length,
            schedule.Ends start last (exec (run (onTransport operation)) start) ∧
            ∃ later, schedule.invocations start last = start :: later ∧
              (∀ reached ∈ later, reached.1.IsBoundAs configuration account) ∧
              ((∀ reached ∈ start :: later, reached.1.transport.boundAs = who) ↔
                later = [] ∨ account = who) := by
  have hnames : names ≠ [] := by
    rintro rfl
    unfold connect at hconnect
    rw [exec_bind, exec_state] at hconnect
    simp only [hhosts] at hconnect
    cases hconnect
  refine ⟨isBoundAs_of_connect hconnect, .inr (hostname_of_connect hhosts hconnect), ?_⟩
  intro who start hbound hhostname α operation
  obtain ⟨last, hle, hlast⟩ := exists_ends operation hnames (hbound.configuration ▸ hhosts)
    hhostname hbound.isConnected
  obtain ⟨later, hlater, hreached⟩ :=
    (scheduleOf operation names start.1.hostname).invocations_eq start last
  have hagain : ∀ reached ∈ later, reached.1.IsBoundAs initial.1.configuration
      (initial.1.configuration.value .username) := by
    intro reached hmem
    obtain ⟨k, hk⟩ := hreached reached hmem
    have hagain : exec (reconnectTo ((scheduleOf operation names start.1.hostname).host k))
        ((scheduleOf operation names start.1.hostname).before start (k + 1)) =
          (.ok (), reached) := hk
    have hsame : ((scheduleOf operation names start.1.hostname).before start
        (k + 1)).1.configuration = start.1.configuration :=
      (isProper_scheduleOf operation names hhostname).view_before Connection.configuration
        (fun _ _ _ _ => rfl) (fun _ _ => rfl) (k + 1)
    have hreached := isBoundAs_of_reconnectTo hagain
    rwa [hsame, hbound.configuration] at hreached
  refine ⟨last, hle, hlast, later, hlater, hagain, ?_⟩
  rw [List.forall_mem_cons]
  constructor
  · rintro ⟨-, hall⟩
    cases later with
    | nil => exact .inl rfl
    | cons reached later =>
        exact .inr ((hagain reached List.mem_cons_self).boundAs.symm.trans
          (hall reached List.mem_cons_self))
  · intro hor
    refine ⟨hbound.boundAs, fun reached hmem => ?_⟩
    rcases hor with rfl | haccount
    · cases hmem
    · exact (hagain reached hmem).boundAs.trans haccount

/-- The server was lost. -/
def serverLost : Failure :=
  { kind := .connection, text := some serverDownMessage }

/-- A connection with an account, and a server that is lost once when an entry is to be deleted. -/
def lostOnce : Connection × World :=
  ({ configuration := ⟨fun
      | .hosts => .list [.str "foo"]
      | .username => .str "cn=admin"
      | .password => .str "secret"
      | name => name.default⟩
     transport := Transport.direct 0 },
    { script := fun
      | .delete => [.fails serverLost]
      | _ => [] })

/-- A connection that was made as the account runs an operation as the account, again and again. -/
theorem run_sees_account :
    let made := (exec (connect .null .null) lostOnce).2
    let schedule := scheduleOf (Transport.delete (.str "cn=x")) ["foo"] made.1.hostname
    lostOnce.1.configuration.hosts = ["foo"].map .str ∧
      exec (connect .null .null) lostOnce = (.ok (), made) ∧
      ∃ last ≤ 1,
        schedule.Ends made last (exec (run (onTransport (Transport.delete (.str "cn=x")))) made) ∧
        ∀ reached ∈ schedule.invocations made last,
          reached.1.transport.boundAs = .str "cn=admin" := by
  have hconnect : exec (connect .null .null) lostOnce =
      (.ok (), (exec (connect .null .null) lostOnce).2) :=
    Prod.ext (eq_ok_of_toOption (by decide +kernel)) rfl
  have hhosts : lostOnce.1.configuration.hosts = ["foo"].map .str := rfl
  obtain ⟨hbound, hhostname, hruns⟩ := run_sees_user_iff hhosts hconnect
  obtain ⟨last, hle, hends, later, hlater, -, hiff⟩ :=
    hruns _ _ hbound hhostname (Transport.delete (.str "cn=x"))
  refine ⟨hhosts, hconnect, last, hle, hends, ?_⟩
  rw [hlater]
  exact hiff.2 (.inr rfl)

/-- The connection after it was made as another user. -/
def madeAsUser : Connection × World :=
  (exec (connect (.str "jdoe") (.str "pw")) lostOnce).2

/-- The schedule of a deletion after that. -/
def deletionAsUser : Schedule Connection Value :=
  scheduleOf (Transport.delete (.str "cn=x")) ["foo"] madeAsUser.1.hostname

/-- An operation that is run again on a connection that was made as a user is not run as that user
again. -/
theorem retry_sees_account :
    exec (connect (.str "jdoe") (.str "pw")) lostOnce = (.ok (), madeAsUser) ∧
      madeAsUser.1.isConnected = true ∧ madeAsUser.1.transport.boundAs = .str "jdoe" ∧
      ∃ last, deletionAsUser.Ends madeAsUser last
          (exec (run (onTransport (Transport.delete (.str "cn=x")))) madeAsUser) ∧
        ∃ reached ∈ deletionAsUser.invocations madeAsUser last,
          reached.1.transport.boundAs = .str "cn=admin" := by
  have hconnect : exec (connect (.str "jdoe") (.str "pw")) lostOnce = (.ok (), madeAsUser) :=
    Prod.ext (eq_ok_of_toOption (by decide +kernel)) rfl
  have hhosts : lostOnce.1.configuration.hosts = ["foo"].map .str := rfl
  have hbound := isBoundAs_of_connect hconnect
  refine ⟨hconnect, hbound.isConnected, hbound.boundAs, ?_⟩
  obtain ⟨last, hle, hlast⟩ := exists_ends (Transport.delete (.str "cn=x"))
    (List.cons_ne_nil _ _) (hbound.configuration ▸ hhosts)
    (.inr (hostname_of_connect hhosts hconnect)) hbound.isConnected
  have hlost : IsLost (deletionAsUser.outcome madeAsUser 0) :=
    ⟨serverLost, eq_error_of_failsPlainly (by decide +kernel), rfl, rfl⟩
  have hpos := hlast.pos (List.cons_ne_nil _ _) hlost
  have hreach : exec (reconnectTo (deletionAsUser.host 0)) (deletionAsUser.before madeAsUser 1) =
      (.ok (), (exec (reconnectTo (deletionAsUser.host 0))
        (deletionAsUser.before madeAsUser 1)).2) :=
    Prod.ext (eq_ok_of_toOption (by decide +kernel)) rfl
  exact ⟨last, hlast, _, Schedule.mem_invocations hpos hreach,
    (isBoundAs_of_reconnectTo hreach).boundAs.trans (Value.eq_of_isPlainly (by decide +kernel))⟩

end Connection

end Directory
