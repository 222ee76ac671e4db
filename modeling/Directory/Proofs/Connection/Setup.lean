import Directory.Proofs.Configuration
import Directory.Proofs.Transport.Setup

/-!
# Opening a connection again

A transport is set up when it is opened: what the configuration asks for then is laid over what the
transport had before. So a transport that is opened again is set up as its configuration asks for
just if no configuration that was taken up on the way asks for anything that this one does not
(`reopened_reflects_iff`).
-/

namespace Directory

open Directory.Action

/-- A value is proper if it is a dictionary with proper keys or no dictionary. -/
def Value.IsProper (value : Value) : Prop :=
  ∀ entries, value = .dict entries → IsDictionary entries

/-! ## What configurations ask for -/

namespace Configuration

variable {configuration changed : Configuration}

/-- The options for transports that are entries of the configured ones. -/
def extraOptions (configuration : Configuration) : List (Value × Value) :=
  match configuration.value .options with
  | .dict entries => entries
  | _ => []

/-- The options for transports that have a place of their own. -/
def ownOptions (configuration : Configuration) : List (Value × Value) :=
  [OptionName.version, .timeout, .followReferrals].map fun name =>
    (.str name.key, configuration.value name)

/-- The setup that a configuration asks for. SSL goes before TLS, and the options that have a place
of their own go before the others. -/
def setup (configuration : Configuration) : Setup where
  usesSsl := (configuration.value .useSsl).isTrue
  usesTls := !(configuration.value .useSsl).isTrue && (configuration.value .useTls).isTrue
  option := fun key => (Value.lookup? configuration.ownOptions key.1).or
    (Value.lookup? configuration.extraOptions key.1)

/-- The configured options for transports are a dictionary. -/
def IsProper (configuration : Configuration) : Prop :=
  ∃ entries, configuration.value .options = .dict entries ∧ IsDictionary entries

theorem isDictionary_ownOptions (configuration : Configuration) :
    IsDictionary configuration.ownOptions where
  keys := by simp [ownOptions, Value.checkKey]
  distinct := by simp [ownOptions, Value.keyed, OptionName.key]

/-- A configuration stays proper when an option is set to a proper value. -/
theorem IsProper.set (h : configuration.IsProper) {key value : Value} (hvalue : value.IsProper)
    (hset : configuration.set key value = .ok changed) : changed.IsProper := by
  obtain ⟨name, stored, hadmits, rfl⟩ := exists_of_set_eq_ok hset
  by_cases hname : name = .options
  · subst hname
    obtain ⟨⟨entries, rfl⟩, rfl⟩ := hadmits
    exact ⟨entries, rfl, hvalue entries rfl⟩
  · obtain ⟨entries, hentries, hdictionary⟩ := h
    refine ⟨entries, ?_, hdictionary⟩
    rw [← hentries]
    exact if_neg (Ne.symm hname)

end Configuration

namespace Connection

variable {α : Type} {configuration : Configuration} {setup : Setup}
  {connection other : Connection} {start ended : Connection × World}

/-! ## Setting a transport up -/

/-- The options that a transport is given are those that the configuration asks for. -/
theorem exists_transportOptions_eq_ok (hproper : configuration.IsProper) :
    ∃ options, transportOptions configuration = .ok options ∧ IsDictionary options ∧
      ∀ key : Key, Value.lookup? options key.1 = configuration.setup.option key := by
  obtain ⟨entries, hentries, hdictionary⟩ := hproper
  have hextra : configuration.extraOptions = entries := by
    unfold Configuration.extraOptions
    rw [hentries]
  have hown := configuration.isDictionary_ownOptions
  let options :=
    configuration.ownOptions.foldl (fun all entry => Value.insert all entry.1 entry.2) entries
  refine ⟨options, ?_, hdictionary.foldl_insert hown.keys, fun key => ?_⟩
  · unfold transportOptions
    rw [hentries]
    rfl
  · rw [Value.lookup?_foldl_insert hown hdictionary.keys key.2, ← hextra]
    rfl

theorem options_configured (configuration : Configuration) (options : List (Value × Value))
    (transport : Transport) :
    (configured configuration options transport).options =
      options.foldl (fun all entry => Value.insert all entry.1 entry.2) transport.options := by
  unfold configured
  dsimp only
  split
  · rfl
  split
  · rfl
  · rfl

theorem usesSsl_configured (configuration : Configuration) (options : List (Value × Value))
    (transport : Transport) :
    (configured configuration options transport).usesSsl.isTrue =
      (transport.usesSsl.isTrue || configuration.setup.usesSsl) := by
  unfold configured Configuration.setup
  dsimp only
  cases (configuration.value .useSsl).isTrue with
  | true => exact (Bool.or_true _).symm
  | false =>
      rw [Bool.or_false]
      cases (configuration.value .useTls).isTrue <;> rfl

theorem usesTls_configured (configuration : Configuration) (options : List (Value × Value))
    (transport : Transport) :
    (configured configuration options transport).usesTls.isTrue =
      (transport.usesTls.isTrue || configuration.setup.usesTls) := by
  unfold configured Configuration.setup
  dsimp only
  cases (configuration.value .useSsl).isTrue with
  | true => exact (Bool.or_false _).symm
  | false =>
      cases (configuration.value .useTls).isTrue with
      | true => exact (Bool.or_true _).symm
      | false => exact (Bool.or_false _).symm

/-- What a configuration asks for is laid over what a transport has. -/
theorem setup_configured {options : List (Value × Value)} {transport : Transport}
    (hdictionary : IsDictionary options)
    (hoptions : ∀ key : Key, Value.lookup? options key.1 = configuration.setup.option key)
    (hkeys : ∀ entry ∈ transport.options, entry.1.checkKey = .ok ()) :
    (configured configuration options transport).setup =
      transport.setup.overlay configuration.setup := by
  refine Setup.ext (usesSsl_configured _ _ _) (usesTls_configured _ _ _) (funext fun key => ?_)
  show Value.lookup? (configured configuration options transport).options key.1 =
    (configuration.setup.option key).or (Value.lookup? transport.options key.1)
  rw [options_configured, Value.lookup?_foldl_insert hdictionary hkeys key.2, hoptions]

/-- A connection has a configuration, and its transport a setup. -/
structure Has (configuration : Configuration) (setup : Setup) (connection : Connection) : Prop where
  configuration_eq : connection.configuration = configuration
  keys : ∀ entry ∈ connection.transport.options, entry.1.checkKey = .ok ()
  setup_eq : connection.transport.setup = setup

/-- A connection has a setup, or has taken up its configuration since it did. -/
def Follows (configuration : Configuration) (setup : Setup) (connection : Connection) : Prop :=
  Has configuration setup connection ∨
    Has configuration (setup.overlay configuration.setup) connection

/-- The configuration, and what the transport was given to set it up. -/
def given (connection : Connection) : Configuration × Value × Value × List (Value × Value) :=
  (connection.configuration, connection.transport.given)

theorem Has.of_given (h : Has configuration setup connection)
    (heq : other.given = connection.given) : Has configuration setup other := by
  simp only [given, Transport.given, Prod.mk.injEq] at heq
  obtain ⟨hconfiguration, hssl, htls, hoptions⟩ := heq
  refine ⟨hconfiguration.trans h.configuration_eq, ?_, ?_⟩
  · rw [hoptions]
    exact h.keys
  · rw [← h.setup_eq]
    exact Transport.setup_eq_of_given (by rw [Transport.given, hssl, htls, hoptions]; rfl)

theorem preserves_has {action : Action Connection α} (h : Keeps given action) :
    Preserves (Has configuration setup) action :=
  fun start hstart => hstart.of_given (h start)

theorem preserves_follows {action : Action Connection α} (h : Keeps given action) :
    Preserves (Follows configuration setup) action :=
  fun start hstart => hstart.imp (Has.of_given · (h start)) (Has.of_given · (h start))

theorem keeps_given_onTransport {action : Action Transport α} (h : Keeps Transport.given action) :
    Keeps given (onTransport action) := by
  intro start
  exact Prod.ext rfl (h (start.1.transport, start.2))

/-! ## What operations take up -/

theorem meets_configure (hproper : configuration.IsProper) :
    Meets (fun start => Has configuration setup start.1) configure
      (fun _ ending => Has configuration (setup.overlay configuration.setup) ending.1)
      (fun _ _ => False) := by
  obtain ⟨options, hoptions, hdictionary, hlookup⟩ := exists_transportOptions_eq_ok hproper
  refine Meets.state_bind fun connection => ?_
  rintro start ⟨hstart, rfl⟩
  rw [hstart.configuration_eq, exec_bind, exec_lift, hoptions]
  refine ⟨hstart.configuration_eq, ?_, ?_⟩
  · show ∀ entry ∈ (configured configuration options start.1.transport).options, _
    rw [options_configured]
    exact Value.checkKey_foldl_insert hdictionary.keys hstart.keys
  · show (configured configuration options start.1.transport).setup = _
    rw [setup_configured hdictionary hlookup hstart.keys, hstart.setup_eq]

/-- A transport that is opened takes the configuration up, after an open handle was closed. -/
theorem meets_openHost (hproper : configuration.IsProper) (hostname : Value) :
    Meets (fun start => Has configuration setup start.1) (openHost hostname)
      (fun _ ending => Has configuration (setup.overlay configuration.setup) ending.1)
      (fun _ ending => Follows configuration setup ending.1) := by
  have hclose : Meets (fun start => Has configuration setup start.1)
      (onTransport Transport.close) (fun _ ending => Has configuration setup ending.1)
      (fun _ ending => Follows configuration setup ending.1) :=
    Meets.of_preserves_imp
      (preserves_has (keeps_given_onTransport Transport.keeps_given_close)) fun _ => .inl
  have htaken {β : Type} {action : Action Connection β} (h : Keeps given action) :
      Meets (fun start => Has configuration (setup.overlay configuration.setup) start.1) action
        (fun _ ending => Has configuration (setup.overlay configuration.setup) ending.1)
        (fun _ ending => Follows configuration setup ending.1) :=
    Meets.of_preserves_imp (preserves_has h) fun _ => .inr
  refine meets_openHost_of (hclose.restrict fun _ h => h.1) (fun _ h _ => h)
    (fun _ _ h _ => .inl h) fun start chosen _ _ => ?_
  refine Meets.bind ((meets_configure hproper).mono (fun _ h => h) (fun _ _ h => h)
    fun _ _ h => h.elim) fun _ => Meets.bind (htaken (Keeps.lift _)) fun _ =>
      Meets.bind (htaken (keeps_given_onTransport (Transport.keeps_given_connect chosen _)))
        fun _ => ?_
  exact htaken (Keeps.change fun _ => rfl)

theorem Follows.of_overlay
    (h : Follows configuration (setup.overlay configuration.setup) connection) :
    Follows configuration setup connection := by
  rcases h with h | h
  · exact .inr h
  · rw [Setup.overlay_overlay] at h
    exact .inr h

section Operations

variable (hproper : configuration.IsProper)
include hproper

theorem preserves_follows_openHost (hostname : Value) :
    Preserves (Follows configuration setup) (openHost hostname) := by
  have hends (setup : Setup) : Meets (fun start => Has configuration setup start.1)
      (openHost hostname) (fun _ ending => Follows configuration setup ending.1)
      (fun _ ending => Follows configuration setup ending.1) :=
    (meets_openHost hproper hostname).mono (fun _ h => h) (fun _ _ => .inr) fun _ _ h => h
  rintro start (hstart | hstart)
  · exact (hends setup).ends hstart
  · exact ((hends (setup.overlay configuration.setup)).ends hstart).of_overlay

omit hproper in
theorem preserves_follows_disconnect :
    Preserves (Follows configuration setup) disconnect := by
  have hclose : Preserves (Follows configuration setup) (onTransport Transport.close) :=
    preserves_follows (keeps_given_onTransport Transport.keeps_given_close)
  exact upholds_disconnect_of ((Meets.of_preserves hclose).restrict fun _ h => h.1)
    (preserves_follows (Keeps.change fun _ => rfl))

theorem preserves_follows_connectTo (hostname username password : Value) :
    Preserves (Follows configuration setup) (connectTo hostname username password) :=
  upholds_connectTo_of (preserves_follows (Keeps.change fun _ => rfl))
    (fun _ => preserves_follows (keeps_announce _ _)) (preserves_follows_openHost hproper hostname)
    (upholds_bind_of
      (fun guard _ password => preserves_follows (keeps_given_onTransport
        (Transport.keeps_given_guards (.bind guard password trivial))))
      (preserves_follows (Keeps.change fun _ => rfl)))

theorem preserves_follows_connect (username password : Value) :
    Preserves (Follows configuration setup) (connect username password) :=
  upholds_connect_of (fun hostname => preserves_follows (keeps_noteAttempt hostname fun _ _ => rfl))
    (fun _ _ hostname _ => preserves_follows_connectTo hproper hostname username password)
    preserves_follows_disconnect fun _ => preserves_follows (keeps_announce _ _)

theorem preserves_follows_run {operation : Action Connection α}
    (h : Preserves (Follows configuration setup) operation) :
    Preserves (Follows configuration setup) (run operation) := by
  have hreconnect (hostname : Value) :
      Preserves (Follows configuration setup) (reconnectTo hostname) :=
    Preserves.bind preserves_follows_disconnect fun _ =>
      preserves_follows_connectTo hproper hostname .null .null
  exact upholds_run_of
    (fun hostname => preserves_follows (keeps_noteAttempt hostname fun _ _ => rfl)) hreconnect
    h (preserves_follows_connect hproper .null .null)

end Operations

/-- What is done with a connection by its operations, one thing after the other, where each thing
may depend on what came of those before. The transport may be used for anything that leaves its
setup alone, as the operations of transports and of guards do. -/
inductive IsOperation : {α : Type} → Action Connection α → Prop
  | pure {α : Type} (a : α) : IsOperation (Pure.pure a)
  | throw {α : Type} (failure : Failure) : IsOperation (MonadExcept.throw failure : Action _ α)
  | next {α β : Type} {action : Action Connection α} {next : α → Action Connection β}
      (haction : IsOperation action) (hnext : ∀ a, IsOperation (next a)) :
      IsOperation (action >>= next)
  | observe {α : Type} {action : Action Connection α} (haction : IsOperation action) :
      IsOperation action.observe
  | state : IsOperation Action.state
  | outside {α : Type} (effect : Effect α) : IsOperation (Action.outside effect)
  | setDispatcher (dispatcher : Option Nat) : IsOperation (Action.change ({ · with dispatcher }))
  | openHost (hostname : Value) : IsOperation (openHost hostname)
  | connect (username password : Value) : IsOperation (connect username password)
  | reconnect : IsOperation reconnect
  | disconnect : IsOperation disconnect
  | auth : IsOperation auth
  | onTransport {α : Type} {action : Action Transport α} (haction : Keeps Transport.given action) :
      IsOperation (onTransport action)
  | during {α : Type} {action : Action Connection α} (haction : IsOperation action) :
      IsOperation (during action)
  | replica : IsOperation replica
  | run {α : Type} {operation : Action Connection α} (hoperation : IsOperation operation) :
      IsOperation (run operation)

theorem IsOperation.preserves_follows {operation : Action Connection α}
    (h : IsOperation operation) (hproper : configuration.IsProper) :
    Preserves (Follows configuration setup) operation := by
  induction h with
  | pure a => exact Preserves.pure a
  | throw failure => exact Preserves.throw failure
  | next _ _ haction hnext => exact Preserves.bind haction hnext
  | observe _ haction => exact haction.observe
  | state => exact Preserves.state
  | outside effect => exact Preserves.outside effect
  | setDispatcher dispatcher => exact Connection.preserves_follows (Keeps.change fun _ => rfl)
  | openHost hostname => exact preserves_follows_openHost hproper hostname
  | connect username password => exact preserves_follows_connect hproper username password
  | reconnect =>
      exact Preserves.bind preserves_follows_disconnect fun _ =>
        preserves_follows_connect hproper .null .null
  | disconnect => exact preserves_follows_disconnect
  | auth => exact upholds_auth_of (preserves_follows_openHost hproper .null)
  | onTransport haction => exact Connection.preserves_follows (keeps_given_onTransport haction)
  | during _ haction => exact Upholds.ensuring haction preserves_follows_disconnect
  | replica =>
      exact Preserves.bind Preserves.state fun _ => Preserves.bind (Preserves.outside _) fun _ =>
        Preserves.lift _
  | run _ hoperation => exact preserves_follows_run hproper hoperation

/-! ## Histories -/

/-- What a connection goes through: an option is set, or the connection is used. -/
inductive HistoryStep where
  | setOption (key value : Value) (hvalue : value.IsProper)
  | use {α : Type} (operation : Action Connection α) (hoperation : IsOperation operation)

namespace HistoryStep

/-- Carry out a step, whatever it gives. -/
def perform : HistoryStep → Action Connection Unit
  | .setOption key value _ => Connection.setOption key value
  | .use operation _ => do let _ ← operation

/-- Where a step ends, failed or not. -/
def after (step : HistoryStep) (start : Connection × World) : Connection × World :=
  (exec step.perform start).2

/-- A step changes the setup of the transport. -/
def TakesUp (step : HistoryStep) (start : Connection × World) : Prop :=
  (step.after start).1.transport.setup ≠ start.1.transport.setup

/-- What a step makes of the configuration. -/
def settle (configuration : Configuration) : HistoryStep → Configuration
  | .setOption key value _ => (configuration.set key value).toOption.getD configuration
  | _ => configuration

theorem isProper_settle (step : HistoryStep) (h : configuration.IsProper) :
    (step.settle configuration).IsProper := by
  cases step with
  | setOption key value hvalue =>
      rw [settle]
      cases hset : configuration.set key value with
      | error failure => exact h
      | ok changed => exact h.set hvalue hset
  | _ => exact h

end HistoryStep

/-- The keys of all options can be keys. -/
structure IsProper (connection : Connection) : Prop where
  configuration : connection.configuration.IsProper
  keys : ∀ entry ∈ connection.transport.options, entry.1.checkKey = .ok ()

theorem IsProper.has (h : connection.IsProper) :
    Has connection.configuration connection.transport.setup connection :=
  ⟨rfl, h.keys, rfl⟩

namespace HistoryStep

/-- An operation takes up the configuration or leaves the setup alone, and setting an option leaves
it alone. -/
theorem has_after (step : HistoryStep) (h : start.1.IsProper) :
    Has (step.settle start.1.configuration) start.1.transport.setup (step.after start).1 ∨
      Has (step.settle start.1.configuration)
        (start.1.transport.setup.overlay start.1.configuration.setup) (step.after start).1 := by
  cases step with
  | setOption key value hvalue =>
      left
      show Has _ _ (exec (Connection.setOption key value) start).2.1
      rw [settle, exec_setOption]
      cases start.1.configuration.set key value with
      | error failure => exact h.has
      | ok changed => exact ⟨rfl, h.keys, rfl⟩
  | use operation hoperation =>
      have hfollows : Preserves
          (Follows start.1.configuration start.1.transport.setup) (do let _ ← operation) :=
        Preserves.bind (hoperation.preserves_follows h.configuration) fun _ => Preserves.pure _
      exact hfollows start (.inl h.has)

theorem configuration_after (step : HistoryStep) (h : start.1.IsProper) :
    (step.after start).1.configuration = step.settle start.1.configuration :=
  (step.has_after h).elim Has.configuration_eq Has.configuration_eq

theorem isProper_after (step : HistoryStep) (h : start.1.IsProper) :
    (step.after start).1.IsProper := by
  refine ⟨?_, (step.has_after h).elim Has.keys Has.keys⟩
  rw [step.configuration_after h]
  exact step.isProper_settle h.configuration

/-- After a step, the transport goes beyond a setup just if it did before or the step took up a
configuration that does. -/
theorem within_after_iff (step : HistoryStep) (h : start.1.IsProper) :
    (step.after start).1.transport.setup.Within setup ↔
      start.1.transport.setup.Within setup ∧
        (step.TakesUp start → start.1.configuration.setup.Within setup) := by
  unfold TakesUp
  rcases step.has_after h with hkept | htaken
  · rw [hkept.setup_eq]
    simp
  · rw [htaken.setup_eq, Setup.overlay_within_iff]
    refine and_congr_right fun hbefore => ⟨fun h _ => h, fun h => ?_⟩
    by_cases heq : start.1.transport.setup.overlay start.1.configuration.setup =
        start.1.transport.setup
    · -- what changes nothing was there before
      have hwithin := Setup.later_within_overlay start.1.transport.setup
        start.1.configuration.setup
      rw [heq] at hwithin
      exact hwithin.trans hbefore
    · exact h heq

end HistoryStep

/-- Where a history ends. -/
def reached (start : Connection × World) (steps : List HistoryStep) : Connection × World :=
  steps.foldl (fun before step => step.after before) start

/-- No step of a history takes up a configuration that asks for anything beyond a setup. -/
def TakesUpWithin (setup : Setup) (start : Connection × World) : List HistoryStep → Prop
  | [] => True
  | step :: steps =>
    (step.TakesUp start → start.1.configuration.setup.Within setup) ∧
      TakesUpWithin setup (step.after start) steps

theorem isProper_reached (steps : List HistoryStep) (h : start.1.IsProper) :
    (reached start steps).1.IsProper := by
  induction steps generalizing start with
  | nil => exact h
  | cons step steps ih => exact ih (step.isProper_after h)

/-- The configuration that a history leads to is the one that its settings make. -/
theorem configuration_reached (steps : List HistoryStep) (h : start.1.IsProper) :
    (reached start steps).1.configuration =
      steps.foldl HistoryStep.settle start.1.configuration := by
  induction steps generalizing start with
  | nil => rfl
  | cons step steps ih =>
      refine (ih (step.isProper_after h)).trans ?_
      rw [step.configuration_after h]
      rfl

/-- After a history, the transport goes beyond a setup just if it did before or a configuration that
was taken up on the way does. -/
theorem within_reached_iff (steps : List HistoryStep) (h : start.1.IsProper) :
    (reached start steps).1.transport.setup.Within setup ↔
      start.1.transport.setup.Within setup ∧ TakesUpWithin setup start steps := by
  induction steps generalizing start with
  | nil => exact (and_iff_left trivial).symm
  | cons step steps ih =>
      refine (ih (step.isProper_after h)).trans ?_
      rw [step.within_after_iff h, and_assoc]
      rfl

/-- A connection that was opened again after any history, with a transport of which nothing was
asked before, has the setup that its configuration asks for, just if no configuration that was taken
up on the way asks for SSL, for TLS or for an option that this one does not ask for. -/
theorem reopened_reflects_iff (steps : List HistoryStep) (hostname : Value)
    (hbare : start.1.transport.IsBare) (hproper : start.1.configuration.IsProper)
    (hopen : exec (openHost hostname) (reached start steps) = (.ok (), ended)) :
    ended.1.transport.setup = ended.1.configuration.setup ↔
      TakesUpWithin ended.1.configuration.setup start steps := by
  have hstart : start.1.IsProper := ⟨hproper, by simp [hbare.options_eq]⟩
  have hreached := isProper_reached steps hstart
  have hended := (meets_openHost hreached.configuration hostname).ok hreached.has hopen
  rw [hended.setup_eq, ← hended.configuration_eq, Setup.overlay_eq_iff,
    within_reached_iff steps hstart]
  exact and_iff_right (hbare.within _)

/-- A connection to a host, with or without SSL, that is not open. -/
def toHost (usesSsl : Bool) : Connection × World :=
  ({ configuration := ⟨fun
      | .hosts => .list [.str "foo"]
      | .useSsl => .bool usesSsl
      | name => name.default⟩
     transport := .direct 0 }, {})

namespace HistoryStep

/-- Open the connection to the first host. -/
def opening : HistoryStep :=
  .use (openHost .null) (.openHost .null)

/-- Run a deletion on the connection. -/
def deleting : HistoryStep :=
  .use (run (onTransport (Transport.Operation.delete (.str "cn=a")).perform))
    (.run (.onTransport (Transport.keeps_given_perform _)))

/-- Turn SSL on or off. -/
def settingSsl (usesSsl : Bool) : HistoryStep :=
  .setOption (.str "use_ssl") (.bool usesSsl) nofun

end HistoryStep

/-- The connection is opened and used without SSL, and is then to use it. -/
def turningToSsl : List HistoryStep :=
  [.opening, .deleting, .settingSsl true]

/-- What was taken up without SSL is asked for under SSL as well. -/
theorem reopened_turns_to_ssl :
    let ended := (exec (openHost .null) (reached (toHost false) turningToSsl)).2
    (toHost false).1.transport.IsBare ∧ (toHost false).1.configuration.IsProper ∧
      exec (openHost .null) (reached (toHost false) turningToSsl) = (.ok (), ended) ∧
      ended.1.configuration.setup.usesSsl = true ∧
      ended.1.transport.setup = ended.1.configuration.setup := by
  intro ended
  let plain := (toHost false).1.configuration
  have hproper : plain.IsProper := ⟨[], rfl, .nil⟩
  have hstart : (toHost false).1.IsProper := ⟨hproper, nofun⟩
  have hended : ended.1.configuration = plain.put .useSsl (.bool true) := by
    have hkept : Keeps Connection.configuration (openHost .null) :=
      keeps_openHost .null fun _ _ _ _ => rfl
    exact (hkept _).trans (configuration_reached turningToSsl hstart)
  have hok : (exec (openHost .null) (reached (toHost false) turningToSsl)).1.isOk = true := by
    decide +kernel
  have hopen : exec (openHost .null) (reached (toHost false) turningToSsl) = (.ok (), ended) := by
    cases hresult : (exec (openHost .null) (reached (toHost false) turningToSsl)).1 with
    | ok => exact Prod.ext hresult rfl
    | error failure =>
        rw [hresult] at hok
        cases hok
  -- SSL is all that the configuration asks for in addition at the end
  have hwithin : plain.setup.Within ended.1.configuration.setup := by
    rw [hended]
    exact ⟨nofun, nofun, fun _ h => h⟩
  have htakes : TakesUpWithin ended.1.configuration.setup (toHost false) turningToSsl := by
    have hopened := HistoryStep.opening.configuration_after hstart
    have hdeleted := HistoryStep.deleting.configuration_after
      (HistoryStep.opening.isProper_after hstart)
    refine ⟨fun _ => hwithin, fun _ => ?_, fun _ => ?_, trivial⟩
    · exact hopened ▸ hwithin
    · exact (hdeleted.trans hopened) ▸ hwithin
  exact ⟨rfl, hproper, hopen, congrArg (·.setup.usesSsl) hended,
    (reopened_reflects_iff turningToSsl .null (Transport.isBare_direct 0) hproper hopen).2 htakes⟩

/-- A connection that was opened under SSL is still set up for SSL when it is opened again without
it. -/
theorem reopened_stays_under_ssl :
    let steps := [.opening, .settingSsl false]
    let ended := (exec (openHost .null) (reached (toHost true) steps)).2
    (toHost true).1.transport.IsBare ∧ (toHost true).1.configuration.IsProper ∧
      exec (openHost .null) (reached (toHost true) steps) = (.ok (), ended) ∧
      ended.1.configuration.setup.usesSsl = false ∧ ended.1.transport.setup.usesSsl = true ∧
      ended.1.transport.setup ≠ ended.1.configuration.setup := by
  intro steps ended
  have hwants : ended.1.configuration.setup.usesSsl = false := by decide +kernel
  have huses : ended.1.transport.setup.usesSsl = true := by decide +kernel
  refine ⟨rfl, ⟨[], rfl, .nil⟩, Prod.ext (by rfl) rfl, hwants, huses, fun h => ?_⟩
  rw [h, hwants] at huses
  cases huses

end Connection

end Directory
