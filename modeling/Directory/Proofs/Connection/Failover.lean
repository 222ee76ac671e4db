import Directory.Proofs.Connection.Hosts
import Directory.Proofs.Connection.Orderly

/-!
# Failing over

A connection tries its hosts in order, up to the first one that is usable when its turn comes.
`FailsOver` says what comes of that. It is what connecting comes to in an orderly world, unless no
host is usable and something that is no text was noted as a host before: then the failure cannot be
put into words.
-/

namespace Directory

open Directory.Action

namespace Value

/-- What a value adds to texts that are joined. -/
def joined : Value → Except Failure String
  | .str s => .ok s
  | _ => .error Failure.wrongType

theorem join_eq (separator : String) (values : List Value) :
    join separator values = (do return separator.intercalate (← values.mapM joined)) := by
  unfold join joined
  rfl

/-- Texts can be joined. -/
theorem exists_join (separator : String) {values : List Value}
    (h : ∀ value ∈ values, ∃ s, value = .str s) : ∃ text, join separator values = .ok text := by
  have hjoined : ∀ value ∈ values, ∃ s, joined value = .ok s := by
    intro value hmem
    obtain ⟨s, rfl⟩ := h value hmem
    exact ⟨s, rfl⟩
  obtain ⟨texts, htexts⟩ := exists_mapM_ok hjoined
  exact ⟨separator.intercalate texts, by rw [join_eq, htexts]; rfl⟩

theorem mapM_joined {values : List Value} {value : Value} (hmem : value ∈ values)
    (hvalue : ∀ s, value ≠ .str s) : values.mapM joined = .error Failure.wrongType := by
  induction values with
  | nil => cases hmem
  | cons first values ih =>
      rw [List.mapM_cons]
      cases hfirst : first with
      | str s =>
          rw [hfirst] at hmem
          rw [ih ((List.mem_cons.1 hmem).resolve_left (hvalue s))]
          rfl
      | _ => rfl

/-- Nothing but texts can be joined. -/
theorem join_eq_error (separator : String) {values : List Value} {value : Value}
    (hmem : value ∈ values) (hvalue : ∀ s, value ≠ .str s) :
    join separator values = .error Failure.wrongType := by
  rw [join_eq, mapM_joined hmem hvalue]
  rfl

end Value

namespace Connection

open Transport

variable {names tried : List String} {number : Option Nat} {calm : World → Prop}
  {log : List Happening} {username password : Value} {start : Connection × World}

/-! ## Trials -/

/-- What a host leaves behind that was tried in vain: it is noted. -/
def afterTrial (username password : Value) (start : Connection × World) (name : String) :
    Connection × World :=
  let tried := (exec (connectTo (.str name) username password) start).2
  ({ tried.1 with attempted := withAttempt tried.1.attempted (.str name) }, tried.2)

/-- What hosts leave behind that were tried in vain, one after the other. -/
def afterTrials (username password : Value) (start : Connection × World) (names : List String) :
    Connection × World :=
  names.foldl (afterTrial username password) start

/-- None of the hosts is usable when its turn comes. -/
def NoneUsable (username password : Value) (start : Connection × World) (names : List String) :
    Prop :=
  ∀ earlier name later, names = earlier ++ name :: later →
    ¬ IsUsable username password name (afterTrials username password start earlier)

theorem afterTrials_append_singleton (username password : Value) (start : Connection × World)
    (names : List String) (name : String) :
    afterTrials username password start (names ++ [name]) =
      afterTrial username password (afterTrials username password start names) name := by
  unfold afterTrials
  rw [List.foldl_append]
  rfl

theorem NoneUsable.nil : NoneUsable username password start [] := by
  intro earlier name later hnames
  cases earlier <;> cases hnames

theorem noneUsable_append_singleton {name : String} :
    NoneUsable username password start (tried ++ [name]) ↔
      NoneUsable username password start tried ∧
        ¬ IsUsable username password name (afterTrials username password start tried) := by
  constructor
  · intro h
    refine ⟨fun earlier other later htried => ?_, h tried name [] rfl⟩
    exact h earlier other (later ++ [name]) (by rw [htried]; simp)
  · rintro ⟨htried, hname⟩ earlier other later hnames
    rcases List.eq_nil_or_concat later with rfl | ⟨later, last, rfl⟩
    · obtain ⟨rfl, hlast⟩ := List.append_inj' hnames rfl
      cases hlast
      exact hname
    · rw [List.concat_eq_append, ← List.cons_append, ← List.append_assoc] at hnames
      exact htried earlier other later (List.append_inj' hnames rfl).1

/-- The announcement that a host is tried. -/
def announcement (name : String) : Happening :=
  .connecting (.str name)

/-- A host that is tried in vain is announced and noted, and its failure reported. -/
theorem trial_of_isSound (hcalm : Effect.IsCalm number calm) (husername : username.IsReadable)
    (hstart : IsSound names number (IsUsual calm log) start) {name : String}
    (hname : ¬ IsUsable username password name start) :
    ∃ failure between,
      exec (connectTo (.str name) username password) start = (.error failure, between) ∧
        failure.isDirectory = true ∧
        afterTrial username password start name =
          ({ between.1 with attempted := withAttempt start.1.attempted (.str name) }, between.2) ∧
        IsSound names number (IsUsual calm (log ++ [announcement name]))
          (afterTrial username password start name) := by
  have hended := connectTo_of_isSound hcalm name husername password hstart
  have hattempted : Keeps Connection.attempted (connectTo (.str name) username password) :=
    keeps_connectTo (.str name) username password fun _ _ _ _ => rfl
  have hkept := hattempted start
  unfold afterTrial
  generalize exec (connectTo (.str name) username password) start = ended at hended hkept ⊢
  obtain ⟨failure | made, between⟩ := ended
  · obtain ⟨-, ⟨hdirectory, husual⟩, hprepared⟩ := hended
    have hsame : between.1.attempted = start.1.attempted := hkept
    rw [← hsame]
    exact ⟨failure, between, rfl, hdirectory, rfl, husual, hprepared.of_eq rfl rfl rfl⟩
  · exact absurd hended.1 hname

/-- Hosts that are tried in vain are announced and noted in order. -/
theorem trials_of_isSound (hcalm : Effect.IsCalm number calm) (husername : username.IsReadable)
    (hstart : IsSound names number (IsUsual calm log) start)
    (hnone : NoneUsable username password start tried) :
    IsSound names number (IsUsual calm (log ++ tried.map announcement))
        (afterTrials username password start tried) ∧
      Gains start.1.attempted (afterTrials username password start tried).1.attempted
        (tried.map .str) := by
  induction tried using List.reverseRecOn with
  | nil => exact ⟨by simpa [afterTrials] using hstart, Gains.nil _⟩
  | append_singleton tried name ih =>
      obtain ⟨htried, hname⟩ := noneUsable_append_singleton.1 hnone
      obtain ⟨hsound, hgains⟩ := ih htried
      obtain ⟨failure, between, -, -, hafter, htrial⟩ :=
        trial_of_isSound hcalm husername hsound hname
      rw [afterTrials_append_singleton, List.map_append, List.map_append, ← List.append_assoc]
      refine ⟨htrial, ?_⟩
      rw [hafter]
      exact hgains.withAttempt (.inr ⟨name, rfl⟩)

/-! ## Trying hosts in order -/

/-- What trying hosts in order comes to: a connection to the first usable one, or the failure of the
last one. -/
inductive TriesInOrder (username password : Value) (start : Connection × World)
    (names : List String) : Except Failure (Option Failure) × (Connection × World) → Prop
  | made {tried later : List String} {used : String} {ending : Connection × World}
      (hnames : names = tried ++ used :: later)
      (hnone : NoneUsable username password start tried)
      (husable : IsUsable username password used (afterTrials username password start tried))
      (hmade : exec (connectTo (.str used) username password)
        (afterTrials username password start tried) = (.ok (), ending)) :
      TriesInOrder username password start names (.ok none, ending)
  | failed {tried : List String} {last : String} {failure : Failure} {between : Connection × World}
      (hnames : names = tried ++ [last])
      (hnone : NoneUsable username password start names)
      (hlast : exec (connectTo (.str last) username password)
        (afterTrials username password start tried) = (.error failure, between)) :
      TriesInOrder username password start names
        (.ok (some failure), afterTrials username password start names)

/-- A host that could not be used is noted before further hosts are tried. -/
theorem exec_connectToAny_of_trial {name : String} {rest : List Value} {failure : Failure}
    {between : Connection × World}
    (hfails : exec (connectTo (.str name) username password) start = (.error failure, between))
    (hdirectory : failure.isDirectory = true) :
    exec (connectToAny username password (.str name) rest) start =
      match rest with
      | [] => (.ok (some failure), afterTrial username password start name)
      | next :: rest => exec (connectToAny username password next rest)
          (afterTrial username password start name) := by
  have hname : IsHostname (.str name) := .inr ⟨name, rfl⟩
  rw [exec_connectToAny_of_error hfails, if_pos hdirectory]
  unfold tryRest afterTrial
  rw [exec_bind, exec_lift, hname.note]
  dsimp only
  rw [exec_bind, exec_noteAttempt hname, hfails]
  cases rest <;> rfl

/-- Hosts are tried up to the first usable one, after others were tried in vain. -/
theorem connectToAny_triesInOrder (hcalm : Effect.IsCalm number calm)
    (husername : username.IsReadable)
    (hstart : IsSound names number (IsUsual calm log) start) (name : String) (rest : List String)
    {tried : List String} (hnone : NoneUsable username password start tried) :
    TriesInOrder username password start (tried ++ name :: rest)
      (exec (connectToAny username password (.str name) (rest.map .str))
        (afterTrials username password start tried)) := by
  obtain ⟨hsound, -⟩ := trials_of_isSound hcalm husername hstart hnone
  by_cases husable : IsUsable username password name (afterTrials username password start tried)
  · have hended := connectTo_of_isSound hcalm name husername password hsound
    cases hmade : exec (connectTo (.str name) username password)
        (afterTrials username password start tried) with
    | mk outcome ending =>
        rw [hmade] at hended
        cases outcome with
        | error failure => exact absurd husable hended.1
        | ok made =>
            rw [connectToAny, exec_bind, exec_observe, hmade]
            exact .made rfl hnone husable hmade
  · obtain ⟨failure, between, hfails, hdirectory, -, -⟩ :=
      trial_of_isSound hcalm husername hsound husable
    have hmore := noneUsable_append_singleton.2 ⟨hnone, husable⟩
    rw [exec_connectToAny_of_trial hfails hdirectory, ← afterTrials_append_singleton]
    cases rest with
    | nil => exact .failed rfl hmore hfails
    | cons next rest =>
        have hrest := connectToAny_triesInOrder hcalm husername hstart next rest hmore
        rwa [List.append_assoc] at hrest

/-! ## Connecting -/

/-- The transport is closed whatever state it was in. -/
theorem meets_disconnect_isSound (hcalm : Effect.IsCalm number calm) :
    Meets (IsSound names number (IsUsual calm log)) disconnect
      (fun _ ending => IsSound names number (IsUsual calm log) ending ∧
        ending.1.transport.isConnected = false ∧ ending.1.state = .disconnected ∧
        ending.1.hostname = .null) (fun _ _ => False) := by
  have hclose : Meets (IsSound names number (IsUsual calm log)) (onTransport Transport.close)
      (fun _ ending => IsSound names number (IsUsual calm log) ending ∧
        ending.1.transport.isConnected = false) (fun _ _ => False) :=
    (meets_onTransport_isSound (meets_close_isUsual hcalm)).mono (fun _ h => h)
      (fun _ _ h => ⟨⟨h.1.1, h.2⟩, h.1.2⟩) fun _ _ h => h.1
  have hchange : Meets (fun start => IsSound names number (IsUsual calm log) start ∧
      start.1.transport.isConnected = false)
      (Action.change ({ · with state := .disconnected, hostname := .null }))
      (fun _ ending => IsSound names number (IsUsual calm log) ending ∧
        ending.1.transport.isConnected = false ∧ ending.1.state = .disconnected ∧
        ending.1.hostname = .null) (fun _ _ => False) :=
    fun start h => ⟨⟨h.1.1, h.1.2.of_eq rfl rfl rfl⟩, h.2, rfl, rfl⟩
  refine Meets.state_bind fun connection => ?_
  cases hconnected : connection.transport.isConnected with
  | true =>
      refine Meets.bind (hclose.restrict ?_) fun _ => hchange
      exact fun _ h => h.1
  | false =>
      refine hchange.restrict ?_
      exact fun _ h => ⟨h.1, h.2 ▸ hconnected⟩

/-- A connection fails over: it tries its hosts in order, up to the first usable one, to which it is
made, and notes those before. If none is usable, it is closed and notes all of them, and a failure
with the details and the kind of the last one is announced and raised. -/
inductive FailsOver (names : List String) (username password : Value)
    (start : Connection × World) : Except Failure Unit × (Connection × World) → Prop
  | connected {tried later : List String} {used : String} {ending : Connection × World}
      (hnames : names = tried ++ used :: later)
      (hnone : NoneUsable username password start tried)
      (husable : IsUsable username password used (afterTrials username password start tried))
      (hstate : ending.1.state = .bound) (hhostname : ending.1.hostname = .str used)
      (hconnected : ending.1.isConnected = true)
      (hattempted : Gains start.1.attempted ending.1.attempted (tried.map .str))
      (hhappenings : ending.2.happenings = start.2.happenings ++
        ((tried ++ [used]).map announcement ++ [.connected (.str used)])) :
      FailsOver names username password start (.ok (), ending)
  | exhausted {tried : List String} {last : String} {lastFailure failure : Failure}
      {between ending : Connection × World}
      (hnames : names = tried ++ [last])
      (hnone : NoneUsable username password start names)
      (hlast : exec (connectTo (.str last) username password)
        (afterTrials username password start tried) = (.error lastFailure, between))
      (hstate : ending.1.state = .disconnected) (hhostname : ending.1.hostname = .null)
      (hclosed : ending.1.transport.isConnected = false)
      (hattempted : Gains start.1.attempted ending.1.attempted (names.map .str))
      (hkind : failure.kind = .noServer) (hlisted : failure.attempted = ending.1.attempted)
      (hdetail : failure.detail = lastFailure.detail)
      (hcause : failure.cause = some lastFailure)
      (hhappenings : ending.2.happenings = start.2.happenings ++ (names.map announcement ++
        [.connectionFailed (.str last) (some { failure with cause := none })])) :
      FailsOver names username password start (.error failure, ending)

/-- Once no host could be used, a connection is closed, and the failure says so if it can be put
into words. -/
def giveUp (last : Value) (failure : Failure) : Action Connection Unit := do
  disconnect
  let made ← noServer (← Action.state).attempted failure
  announce (.connectionFailed last (some made))
  throw { made with cause := some failure }

theorem exec_connect {name : String} {rest : List String}
    (hhosts : start.1.configuration.hosts = (name :: rest).map .str) :
    exec (connect username password) start =
      match exec (connectToAny username password (.str name) (rest.map .str)) start with
      | (.ok none, ending) => (.ok (), ending)
      | (.ok (some failure), ending) =>
        exec (giveUp ((rest.map Value.str).getLastD (.str name)) failure) ending
      | (.error failure, ending) => (.error failure, ending) := by
  unfold connect
  rw [exec_bind, exec_state]
  simp only [hhosts, List.map_cons]
  rw [exec_bind]
  rcases exec (connectToAny username password (.str name) (rest.map .str)) start with
    ⟨_ | _ | _, _⟩ <;> rfl

/-- The failure when no host could be used, given the texts of the hosts and the failure of the last
one. -/
def unavailable (attempted : List Value) (hostnames : String) (last : Failure) : Failure :=
  { kind := .noServer
    text := some ("No LDAP server available (attempted: " ++ hostnames ++ ")")
    detail := last.detail
    attempted }

/-- A connection that gives up is closed, and the failure is announced and raised, if the hosts that
were noted can be put into words. -/
theorem exec_giveUp (hcalm : Effect.IsCalm number calm) (name : String) (last : Failure)
    (hstart : IsSound names number (IsUsual calm log) start) :
    ∃ ending, ending.1.state = .disconnected ∧ ending.1.hostname = .null ∧
      ending.1.transport.isConnected = false ∧ ending.1.attempted = start.1.attempted ∧
      match Value.join ", " start.1.attempted with
      | .error failure => exec (giveUp (.str name) last) start = (.error failure, ending)
      | .ok hostnames =>
        let failure := unavailable start.1.attempted hostnames last
        exec (giveUp (.str name) last) start =
            (.error { failure with cause := some last }, ending) ∧
          ending.2.happenings = log ++ [.connectionFailed (.str name) (some failure)] := by
  obtain ⟨made, closed, hdisconnect, hsound, hclosed, hstate, hhostname⟩ :=
    (meets_disconnect_isSound hcalm).exists_ok hstart
  have hkeeps : Keeps Connection.attempted disconnect := keeps_disconnect fun _ _ _ _ => rfl
  have hattempted : closed.1.attempted = start.1.attempted := by
    have hkept := hkeeps start
    rwa [hdisconnect] at hkept
  unfold giveUp noServer
  cases hjoin : Value.join ", " start.1.attempted with
  | error failure =>
      refine ⟨closed, hstate, hhostname, hclosed, hattempted, ?_⟩
      dsimp only
      rw [exec_bind, hdisconnect]
      dsimp only
      rw [exec_bind, exec_state]
      dsimp only
      rw [exec_bind, exec_lift, hattempted, hjoin]
      rfl
  | ok hostnames =>
      let failure := unavailable start.1.attempted hostnames last
      obtain ⟨quiet, hannounce, husual⟩ := exec_announce hcalm hsound
        (.connectionFailed (.str name) (some failure)) rfl fun part hpart => by
          rcases List.mem_cons.1 hpart with rfl | hpart
          · exact Value.isReadable_str name
          · exact List.mem_singleton.1 hpart ▸ Value.isReadable_str _
      refine ⟨(closed.1, quiet), hstate, hhostname, hclosed, hattempted, ?_, husual.log⟩
      rw [exec_bind, hdisconnect]
      dsimp only
      rw [exec_bind, exec_state]
      dsimp only
      rw [exec_bind, exec_lift, hattempted, hjoin]
      show exec (announce (.connectionFailed (.str name) (some failure)) >>= fun _ => _) closed = _
      rw [exec_bind, hannounce]
      rfl

/-- A connection that was made to a host after others were tried in vain has failed over. -/
theorem connected_of_made (hcalm : Effect.IsCalm number calm)
    (hstart : IsSound names number (IsUsual calm start.2.happenings) start)
    (husername : username.IsReadable) {later : List String} {used : String}
    {ending : Connection × World} (hnames : names = tried ++ used :: later)
    (hnone : NoneUsable username password start tried)
    (husable : IsUsable username password used (afterTrials username password start tried))
    (hmade : exec (connectTo (.str used) username password)
      (afterTrials username password start tried) = (.ok (), ending)) :
    FailsOver names username password start (.ok (), ending) := by
  obtain ⟨hsound, hgains⟩ := trials_of_isSound hcalm husername hstart hnone
  have hended := connectTo_of_isSound hcalm used husername password hsound
  have hkeeps : Keeps Connection.attempted (connectTo (.str used) username password) :=
    keeps_connectTo (.str used) username password fun _ _ _ _ => rfl
  have hattempted := hkeeps (afterTrials username password start tried)
  rw [hmade] at hended hattempted
  obtain ⟨-, hsound, hstate, hconnected⟩ := hended
  refine .connected hnames hnone husable hstate (hostname_of_connectTo hmade) hconnected ?_ ?_
  · rw [hattempted]
    exact hgains
  · rw [hsound.1.log, List.map_append, List.append_assoc, List.append_assoc]
    rfl

/-- A connection that gives up after all hosts were tried in vain fails over if all that was noted
before are texts. -/
theorem giveUp_failsOver_iff (hcalm : Effect.IsCalm number calm)
    (hstart : IsSound names number (IsUsual calm start.2.happenings) start)
    (husername : username.IsReadable) {last : String} {failure : Failure}
    {between : Connection × World} (hnames : names = tried ++ [last])
    (hnone : NoneUsable username password start names)
    (hlast : exec (connectTo (.str last) username password)
      (afterTrials username password start tried) = (.error failure, between)) :
    FailsOver names username password start
        (exec (giveUp (.str last) failure) (afterTrials username password start names)) ↔
      ∀ hostname ∈ start.1.attempted, ∃ name, hostname = .str name := by
  obtain ⟨hsound, hgains⟩ := trials_of_isSound hcalm husername hstart hnone
  obtain ⟨ending, hstate, hhostname, hclosed, hattempted, hgiveUp⟩ :=
    exec_giveUp hcalm last failure hsound
  have hgained := hgains
  obtain ⟨fresh, hafter, -, hfresh⟩ := hgained
  constructor
  · intro hfailsOver hostname hmem
    by_contra htext
    -- the failure of what cannot be put into words says nothing of servers
    have hjoin := Value.join_eq_error ", " (hafter ▸ List.mem_append_left fresh hmem)
      fun name heq => htext ⟨name, heq⟩
    rw [hjoin] at hgiveUp
    rw [hgiveUp] at hfailsOver
    cases hfailsOver with
    | exhausted _ _ _ _ _ _ _ hkind => cases hkind
  · intro htexts
    have hnoted : ∀ hostname ∈ (afterTrials username password start names).1.attempted,
        ∃ name, hostname = .str name := by
      intro hostname hmem
      rw [hafter] at hmem
      rcases List.mem_append.1 hmem with hbefore | hnew
      · exact htexts hostname hbefore
      · obtain ⟨name, -, rfl⟩ := List.mem_map.1 ((hfresh hostname).1 hnew).1
        exact ⟨name, rfl⟩
    obtain ⟨hostnames, hjoin⟩ := Value.exists_join ", " hnoted
    rw [hjoin] at hgiveUp
    obtain ⟨hexec, hhappenings⟩ := hgiveUp
    rw [hexec]
    refine .exhausted hnames hnone hlast hstate hhostname hclosed (hattempted ▸ hgains) rfl
      hattempted.symm rfl rfl ?_
    rw [hhappenings, List.append_assoc]
    rfl

/-- In an orderly world a connection fails over, unless no host is usable when its turn comes and
something that is no text was noted as a host before. -/
theorem connect_failsOver_iff (hnames : names ≠ []) (hcalm : Effect.IsCalm number calm)
    (hprepared : IsPrepared names number start.1) (hhost : start.1.transport.host.IsReadable)
    (hworld : start.2.IsOrderly calm) (husername : username.IsReadable) :
    FailsOver names username password start (exec (connect username password) start) ↔
      ¬ NoneUsable username password start names ∨
        ∀ hostname ∈ start.1.attempted, ∃ name, hostname = .str name := by
  have hstart : IsSound names number (IsUsual calm start.2.happenings) start :=
    ⟨⟨hhost, hworld, rfl⟩, hprepared⟩
  obtain ⟨name, rest, rfl⟩ := List.exists_cons_of_ne_nil hnames
  have htries : TriesInOrder username password start (name :: rest)
      (exec (connectToAny username password (.str name) (rest.map .str)) start) :=
    connectToAny_triesInOrder hcalm husername hstart name rest NoneUsable.nil
  rw [exec_connect hprepared.configuration.hosts]
  generalize exec (connectToAny username password (.str name) (rest.map .str)) start = ended
    at htries ⊢
  cases htries with
  | made hused hnone husable hmade =>
      refine ⟨fun _ => .inl fun hnone => hnone _ _ _ hused husable, fun _ => ?_⟩
      exact connected_of_made hcalm hstart husername hused hnone husable hmade
  | @failed tried last failure between hlast hnone hfails =>
      have hgetLast : (rest.map Value.str).getLastD (.str name) = .str last := by
        have heq := congrArg (fun hosts => (hosts.map Value.str).getLast?) hlast
        rw [List.map_cons, List.getLast?_cons] at heq
        simpa using heq
      dsimp only
      rw [hgetLast]
      exact (giveUp_failsOver_iff hcalm hstart husername hlast hnone hfails).trans
        ⟨.inr, fun h => h.resolve_left (not_not_intro hnone)⟩

/-- A configuration with hosts, in which everything else is usual. -/
def withHosts (names : List String) : Configuration :=
  ⟨fun
    | .hosts => .list (names.map .str)
    | name => name.default⟩

/-- A connection that was not used yet. -/
def unused (names : List String) : Connection :=
  { configuration := withHosts names, transport := Transport.direct 0, dispatcher := some 0 }

theorem isPrepared_unused (names : List String) : IsPrepared names (some 0) (unused names) where
  configuration :=
    ⟨rfl, ⟨389, rfl, "389", by unfold Value.text Value.shown; rfl⟩, Value.isReadable_null,
      ⟨[], rfl⟩⟩
  classifier := ⟨by simp [unused], by simp [unused]⟩
  dispatcher := rfl

/-- A world in which the monitor listens and the first bind is refused. -/
def refusingOnce : World :=
  { script := fun
      | .bind => [.gives { response := { code := .int 49 } }]
      | _ => []
    dispatchers := [({} : Dispatcher).listen [.event] .monitor] }

theorem isOrderly_refusingOnce : refusingOnce.IsOrderly Effect.IsQuiet where
  calm := ⟨rfl, fun _ => rfl⟩
  script := by
    intro queue outcome hmem
    cases queue with
    | bind =>
        cases List.mem_singleton.1 hmem
        exact ⟨⟨49, rfl⟩, ⟨"", rfl⟩, ⟨"", rfl⟩⟩
    | _ => cases hmem

/-- Where the first of two hosts refuses the bind, a connection is made to the second. -/
theorem connect_reaches_second_host :
    let start := (unused ["a", "b"], refusingOnce)
    let ended := exec (connect .null .null) start
    ended.2.1.hostname.isStr "b" = true ∧ FailsOver ["a", "b"] .null .null start ended := by
  refine ⟨by decide +kernel, ?_⟩
  refine (connect_failsOver_iff (List.cons_ne_nil _ _) (Effect.isCalm_isQuiet (some 0))
    (isPrepared_unused ["a", "b"]) Value.isReadable_null isOrderly_refusingOnce
    Value.isReadable_null).2 (.inr ?_)
  exact fun _ hmem => nomatch hmem

/-- A connection that noted before that no host was in use when the server was lost. -/
def lostBefore : Connection :=
  { unused ["a"] with attempted := [.null] }

/-- The kind of the failure that is raised, if one is. -/
def raisedKind? {α : Type} : Except Failure α → Option Kind
  | .ok _ => none
  | .error failure => some failure.kind

/-- Where no host is usable and something that is no text was noted before, what is raised says
nothing of servers. -/
theorem connect_raises_wrongType :
    let start := (lostBefore, refusingOnce)
    let ended := exec (connect .null .null) start
    IsPrepared ["a"] (some 0) lostBefore ∧ Effect.IsCalm (some 0) Effect.IsQuiet ∧
      refusingOnce.IsOrderly Effect.IsQuiet ∧ raisedKind? ended.1 = some .wrongType ∧
      ¬ FailsOver ["a"] .null .null start ended := by
  have hraised : raisedKind? (exec (connect .null .null) (lostBefore, refusingOnce)).1 =
      some .wrongType := by
    decide +kernel
  refine ⟨(isPrepared_unused ["a"]).of_eq rfl rfl rfl, Effect.isCalm_isQuiet _,
    isOrderly_refusingOnce, hraised, fun hfailsOver => ?_⟩
  generalize exec (connect .null .null) (lostBefore, refusingOnce) = ended at hraised hfailsOver
  cases hfailsOver with
  | connected => cases hraised
  | exhausted _ _ _ _ _ _ _ hkind =>
      have hwrongType := Option.some.inj hraised
      rw [hkind] at hwrongType
      cases hwrongType

end Connection

end Directory
