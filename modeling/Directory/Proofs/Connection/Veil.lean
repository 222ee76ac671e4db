import Directory.Pool
import Directory.Proofs.Connection.Orderly
import Directory.Proofs.Connection.Session
import Directory.Proofs.Guard.Veil

/-!
# Sessions behind the veil

A connection keeps the password of its account and takes passwords for its binds; it gives them to
guards, and to replicas of itself. So whatever is done with connections and their guards does behind
the veil what it does in the open, and what loggers write does not depend on the passwords.
-/

namespace Directory

open Directory.Action

variable {α : Type}

namespace Configuration

/-- A value for an option, veiled if the option is the password. -/
def veiledAt (key value : Value) : Value :=
  if key.isStr OptionName.password.key then value.veiled else value

theorem veiled_default : ({} : Configuration).veiled = {} := by
  refine congrArg Configuration.mk (funext fun name => ?_)
  cases name <;> rfl

/-- A password is checked for being a text, and stored as it is given. -/
theorem checked_password_veiled (value : Value) :
    checked .password value.veiled = (checked .password value).map Value.veiled := by
  cases value <;> rfl

theorem put_veiled (config : Configuration) (name : OptionName) (value : Value) :
    config.veiled.put name (if name = .password then value.veiled else value) =
      (config.put name value).veiled := by
  refine congrArg Configuration.mk (funext fun other => ?_)
  by_cases hname : other = name
  · subst hname
    by_cases hpassword : other = .password <;> simp [put, hpassword]
  · by_cases hpassword : other = .password
    · subst hpassword
      simp [put, veiled, hname]
    · simp [put, veiled, hname, hpassword]

/-- The option that a value is the key of is the password just when the value is its key. -/
theorem isStr_of_ofValue? {key : Value} {name : OptionName}
    (h : OptionName.ofValue? key = .ok (some name)) :
    key.isStr OptionName.password.key = decide (name = .password) := by
  have hfound : OptionName.all.find? (fun name => key.isStr name.key) = some name := by
    unfold OptionName.ofValue? Value.requireKey at h
    cases hcheck : key.checkKey with
    | error failure =>
        rw [hcheck] at h
        cases h
    | ok checked =>
        rw [hcheck] at h
        exact Except.ok.inj h
  have hsome := List.find?_some hfound
  have hkey : key.isStr name.key = true := hsome
  rw [Value.eq_of_isStr hkey]
  cases name <;> decide

/-- An option is set behind the veil as it is in the open. -/
theorem set_veiled (config : Configuration) (key value : Value) :
    config.veiled.set key (veiledAt key value) = (config.set key value).map veiled := by
  unfold set
  cases hname : OptionName.ofValue? key with
  | error failure => rfl
  | ok found =>
      cases found with
      | none =>
          show unknownOption key = (unknownOption key).map veiled
          unfold unknownOption
          cases key.text <;> rfl
      | some name =>
          have hput := config.put_veiled name
          unfold veiledAt
          rw [isStr_of_ofValue? hname]
          by_cases hpassword : name = .password
          · subst hpassword
            have hchecked := checked_password_veiled value
            simp only [decide_true, if_true, hchecked, Bind.bind, Except.bind] at hput ⊢
            cases checked .password value with
            | error failure => rfl
            | ok stored => exact congrArg Except.ok (hput stored)
          · simp only [hpassword, decide_false, if_false, Bool.false_eq_true, Bind.bind,
              Except.bind] at hput ⊢
            cases checked name value with
            | error failure => rfl
            | ok stored => exact congrArg Except.ok (hput stored)

theorem setAll_veiled (config : Configuration) (entries : List (Value × Value)) :
    config.veiled.setAll (entries.map fun entry => (entry.1, veiledAt entry.1 entry.2)) =
      (config.setAll entries).map veiled := by
  induction entries generalizing config with
  | nil => rfl
  | cons entry entries ih =>
      obtain ⟨key, value⟩ := entry
      rw [List.map_cons, setAll, setAll, set_veiled]
      cases config.set key value with
      | error failure => rfl
      | ok config => exact ih config

theorem all_veiled (config : Configuration) :
    config.veiled.all = config.all.map fun entry => (entry.1, veiledAt entry.1 entry.2) := by
  unfold all
  rw [List.map_map]
  refine List.map_congr_left fun name _ => ?_
  cases name <;> rfl

/-- A configuration is copied behind the veil as it is in the open. -/
theorem ofOptions_all_veiled (config : Configuration) :
    ofOptions (.dict config.veiled.all) = (ofOptions (.dict config.all)).map veiled := by
  have hall := setAll_veiled {} config.all
  rw [veiled_default, ← all_veiled] at hall
  exact hall

end Configuration

/-- A connection with the password of its account veiled, and the passwords that it sent. -/
def Connection.veiled (connection : Connection) : Connection :=
  { connection with
    configuration := connection.configuration.veiled
    transport := connection.transport.veiled }

namespace Connection

/-! ## Opening and binding -/

theorem veils_onTransport {action plain : Action Transport α}
    (h : Veils Transport.veiled action plain) :
    Veils veiled (onTransport action) (onTransport plain) :=
  Veils.on (fun _ => rfl) (fun _ _ => rfl) h

theorem veils_announce (happening : Happening) :
    Veils veiled (announce happening) (announce happening.veiled) :=
  Veils.state_bind fun connection => Veils.outside
    (Effect.veils_deliver connection.dispatcher ⟨connection.transport.host, happening⟩)

theorem veils_noteAttempt (hostname : Value) :
    Veils veiled (noteAttempt hostname) (noteAttempt hostname) := by
  refine Veils.bind (Veils.lift _) fun hostname => Veils.change fun connection => ?_
  dsimp only [veiled]
  split <;> rfl

theorem veils_configure : Veils veiled configure configure := by
  refine Veils.state_bind fun connection => Veils.bind (Veils.lift _) fun options =>
    veils_onTransport (Veils.change fun transport => ?_)
  unfold configured
  show Transport.withOptions (if (connection.configuration.value .useSsl).isTrue then _ else _) _ =
    _
  split
  · rfl
  show Transport.withOptions (if (connection.configuration.value .useTls).isTrue then _ else _) _ =
    _
  split <;> rfl

theorem veils_openReleased (hostname port : Value) :
    Veils veiled (openReleased hostname port) (openReleased hostname port) :=
  Veils.bind veils_configure fun _ => Veils.bind (Veils.lift _) fun _ =>
    Veils.bind (veils_onTransport (Transport.veils_connect hostname port)) fun _ =>
    Veils.change fun _ => rfl

theorem veils_openHost (hostname : Value) :
    Veils veiled (openHost hostname) (openHost hostname) := by
  rw [openHost_eq]
  refine Veils.state_bind fun connection => Veils.bind (Veils.lift _) fun chosen => ?_
  exact Veils.ite (Veils.bind (veils_onTransport Transport.veils_close) fun _ =>
    veils_openReleased chosen _) (veils_openReleased chosen _)

theorem userFor_veiled (config : Configuration) (username password : Value) :
    userFor config.veiled username password.veiled =
      ((userFor config username password).1, (userFor config username password).2.veiled) := by
  cases username with
  | null => cases password <;> rfl
  | _ => rfl

theorem veils_bind (username password : Value) :
    Veils veiled (bind username password) (bind username password.veiled) := by
  rw [bind_eq, bind_eq]
  refine Veils.state_bind fun connection => ?_
  dsimp only
  have huser := userFor_veiled connection.configuration username password
  have hbind := Guard.veils_bind connection.guard
    (userFor connection.configuration username password).1
    (userFor connection.configuration username password).2
  refine Veils.bind (veils_onTransport ?_) fun _ => Veils.change fun _ => rfl
  show Veils _ _ (connection.guard.veiled.bind
    (userFor connection.configuration.veiled username password.veiled).1
    (userFor connection.configuration.veiled username password.veiled).2)
  rw [huser]
  exact hbind

theorem veils_connectTo (hostname username password : Value) :
    Veils veiled (connectTo hostname username password)
      (connectTo hostname username password.veiled) :=
  Veils.bind (Veils.change fun _ => rfl) fun _ =>
    Veils.bind (veils_announce (.connecting hostname)) fun _ =>
    Veils.bind (veils_openHost hostname) fun _ =>
    Veils.bind (veils_bind username password) fun _ => veils_announce (.connected hostname)

theorem veils_disconnect : Veils veiled disconnect disconnect :=
  Veils.state_bind fun _ => Veils.ite
    (Veils.bind (veils_onTransport Transport.veils_close) fun _ => Veils.change fun _ => rfl)
    (Veils.change fun _ => rfl)

theorem veils_connectToAny (username password hostname : Value) (hostnames : List Value) :
    Veils veiled (connectToAny username password hostname hostnames)
      (connectToAny username password.veiled hostname hostnames) := by
  rw [connectToAny, connectToAny]
  refine Veils.bind (veils_connectTo hostname username password).observe fun result => ?_
  cases result with
  | ok made => exact Veils.pure none
  | error failure =>
      have hrest : Veils veiled (tryRest username password hostname failure hostnames)
          (tryRest username password.veiled hostname failure hostnames) := by
        refine Veils.bind (Veils.lift _) fun _ =>
          Veils.bind (veils_noteAttempt hostname) fun _ => ?_
        cases hostnames with
        | nil => exact Veils.pure (some failure)
        | cons next hostnames => exact veils_connectToAny username password next hostnames
      exact Veils.ite (Veils.bind (Veils.throw failure) fun _ => hrest) hrest

@[simp] theorem hosts_veiled (connection : Connection) :
    connection.veiled.configuration.hosts = connection.configuration.hosts :=
  rfl

theorem veils_connect (username password : Value) :
    Veils veiled (connect username password) (connect username password.veiled) := by
  refine Veils.state_bind fun connection => ?_
  rw [hosts_veiled]
  split
  · exact Veils.throw _
  next hostname hostnames _ =>
    refine Veils.bind (veils_connectToAny username password _ _) fun last => ?_
    cases last with
    | none => exact Veils.pure ()
    | some last =>
        exact Veils.bind veils_disconnect fun _ => Veils.state_bind fun _ =>
          Veils.bind (Veils.lift _) fun failure => Veils.bind (veils_announce
            (.connectionFailed (hostnames.getLastD hostname) (some failure))) fun _ =>
          Veils.throw _

theorem veils_reconnect : Veils veiled reconnect reconnect :=
  Veils.bind veils_disconnect fun _ => veils_connect .null .null

/-! ## Running operations -/

/-- What is done for a connection is done on the whole state. -/
theorem veils_whole {action plain : Action Connection α} (h : Veils veiled action plain) :
    Veils veiled (action.on .whole) (plain.on .whole) :=
  Veils.on (fun _ => rfl) (fun _ _ => rfl) h

theorem veils_settle {next plainNext : Failure → Action Connection α}
    (hnext : ∀ failure, Veils veiled (next failure) (plainNext failure))
    (outcome : Except Failure α) :
    Veils veiled (settle .whole next outcome) (settle .whole plainNext outcome) := by
  by_cases hlost : IsLost outcome
  · obtain ⟨failure, rfl, hrest⟩ := hlost
    intro start
    rw [exec_settle_of_isLost ⟨failure, rfl, hrest⟩, exec_settle_of_isLost ⟨failure, rfl, hrest⟩]
    exact hnext failure start
  · intro start
    rw [exec_settle_of_not_isLost Focus.isLawful_whole hlost,
      exec_settle_of_not_isLost Focus.isLawful_whole hlost]
    rfl

theorem veils_retry {operation plain : Action Connection α} (h : Veils veiled operation plain)
    (retries : Nat) (hostname : Value) :
    Veils veiled (retry .whole operation retries hostname)
      (retry .whole plain retries hostname) := by
  have hreconnect : Veils veiled (reconnectTo hostname) (reconnectTo hostname) :=
    Veils.bind veils_disconnect fun _ => veils_connectTo hostname .null .null
  have hnote := veils_whole (veils_noteAttempt hostname)
  rw [retry_eq, retry_eq]
  refine Veils.bind (Veils.bind (veils_whole hreconnect) fun _ => h).observe fun outcome =>
    veils_settle (fun failure => ?_) outcome
  cases retries with
  | zero => exact Veils.bind hnote fun _ => Veils.throw failure
  | succ retries =>
      exact Veils.bind hnote fun _ => Veils.state_bind fun _ => Veils.bind (Veils.lift _) fun _ =>
        veils_retry h retries _

theorem veils_afterFirstLoss {operation plain : Action Connection α}
    (h : Veils veiled operation plain) (connection : Connection) (failure : Failure) :
    Veils veiled (afterFirstLoss .whole operation connection failure)
      (afterFirstLoss .whole plain connection.veiled failure) := by
  unfold afterFirstLoss
  rw [hosts_veiled]
  split
  · exact Veils.bind (veils_whole (veils_noteAttempt _)) fun _ => Veils.throw failure
  · exact Veils.bind (Veils.lift _) fun _ => veils_retry h _ _

theorem veils_run {operation plain : Action Connection α} (h : Veils veiled operation plain) :
    Veils veiled (run operation) (run plain) := by
  have hopening : Veils veiled (opening .whole) (opening .whole) :=
    Veils.state_bind fun _ =>
      Veils.ite (veils_whole (veils_connect .null .null)) (Veils.pure ())
  unfold run
  rw [runWithin_eq, runWithin_eq]
  exact Veils.bind hopening fun _ => Veils.state_bind fun connection =>
    Veils.bind h.observe fun outcome =>
      veils_settle (fun failure => veils_afterFirstLoss h connection failure) outcome

theorem veils_setOption (key value : Value) :
    Veils veiled (setOption key value) (setOption key (Configuration.veiledAt key value)) := by
  refine Veils.state_bind fun connection => ?_
  have hset : connection.veiled.configuration.set key (Configuration.veiledAt key value) = _ :=
    connection.configuration.set_veiled key value
  intro start
  rw [hset, exec_bind, exec_bind, exec_lift, exec_lift]
  cases connection.configuration.set key value <;> rfl

/-- A guard is made behind the veil as it is in the open, and veiled. -/
theorem veils_auth_bind {next plainNext : Guard → Action Connection α}
    (h : ∀ guard, Veils veiled (next guard) (plainNext guard.veiled)) :
    Veils veiled (auth >>= next) (auth >>= plainNext) := by
  have hguard : Veils veiled (Action.state >>= fun connection => next connection.guard)
      (Action.state >>= fun connection => plainNext connection.guard) :=
    Veils.state_bind fun connection => h connection.guard
  unfold auth
  rw [bind_assoc, bind_assoc]
  refine Veils.state_bind fun connection => ?_
  rw [show connection.veiled.transport.isConnected = connection.transport.isConnected from rfl]
  cases connection.transport.isConnected with
  | true => exact hguard
  | false =>
      simp only [Bool.not_false, if_true, bind_assoc, pure_bind]
      exact Veils.bind (veils_openHost .null) fun _ => hguard

/-- A new transport holds no password. -/
theorem run_renewed_veiled (transport : Transport) (world : World) :
    ∃ fresh later, transport.renewed.run.run world = (.ok fresh, later) ∧
      fresh.veiled = fresh ∧
      transport.veiled.renewed.run.run world.veiled = (.ok fresh, later.veiled) := by
  unfold Transport.renewed
  dsimp only [Transport.veiled]
  cases transport.link with
  | direct number isOpen last => exact ⟨_, _, rfl, rfl, rfl⟩
  | wire handle => exact ⟨_, _, rfl, rfl, rfl⟩

/-- A replica behind the veil is a veiled replica. -/
theorem exec_replica_veiled (start : Connection × World) :
    exec replica (start.1.veiled, start.2.veiled) =
      ((exec replica start).1.map veiled, ((exec replica start).2.1.veiled,
        (exec replica start).2.2.veiled)) := by
  obtain ⟨fresh, later, hrun, hfresh, hveiled⟩ := run_renewed_veiled start.1.transport start.2
  have hcopy := start.1.configuration.ofOptions_all_veiled
  have hveiledRun : start.1.veiled.transport.renewed.run.run start.2.veiled =
      (.ok fresh, later.veiled) := hveiled
  have hveiledCopy : Configuration.ofOptions (.dict start.1.veiled.configuration.all) = _ := hcopy
  unfold replica
  simp only [exec_bind, exec_state, exec_outside, hrun, hveiledRun, exec_lift]
  unfold ofOptions
  rw [hveiledCopy]
  cases Configuration.ofOptions (.dict start.1.configuration.all) with
  | error failure => rfl
  | ok configuration =>
      show (Except.ok _, _) = (Except.ok (Connection.veiled _), _)
      simp only [veiled, hfresh]

/-! ## Sessions -/

/-- Something that is done with a connection and its guards, and what it looks like behind the veil:
the same operations with their passwords veiled. Each may depend on what came of those before. -/
inductive VeiledAs : {α : Type} → Action Connection α → Action Connection α → Prop
  | pure {α : Type} (a : α) : VeiledAs (Pure.pure a) (Pure.pure a)
  | throw {α : Type} (failure : Failure) :
      VeiledAs (MonadExcept.throw failure : Action _ α) (MonadExcept.throw failure)
  | next {α β : Type} {action plain : Action Connection α}
      {next plainNext : α → Action Connection β} (haction : VeiledAs action plain)
      (hnext : ∀ a, VeiledAs (next a) (plainNext a)) :
      VeiledAs (action >>= next) (plain >>= plainNext)
  | observe {α : Type} {action plain : Action Connection α} (haction : VeiledAs action plain) :
      VeiledAs action.observe plain.observe
  | look {α : Type} {next plainNext : Connection → Action Connection α}
      (hnext : ∀ connection, VeiledAs (next connection) (plainNext connection.veiled)) :
      VeiledAs (Action.state >>= next) (Action.state >>= plainNext)
  | instruct (number : Option Nat) (instruction : Instruction) :
      VeiledAs (Action.outside (Effect.instruct number instruction))
        (Action.outside (Effect.instruct number instruction.veiled))
  | setDispatcher (dispatcher : Option Nat) :
      VeiledAs (Action.change ({ · with dispatcher })) (Action.change ({ · with dispatcher }))
  | setOption (key value : Value) :
      VeiledAs (setOption key value) (setOption key (Configuration.veiledAt key value))
  | openHost (hostname : Value) : VeiledAs (openHost hostname) (openHost hostname)
  | connect (username password : Value) :
      VeiledAs (connect username password) (connect username password.veiled)
  | reconnect : VeiledAs reconnect reconnect
  | disconnect : VeiledAs disconnect disconnect
  | auth {α : Type} {next plainNext : Guard → Action Connection α}
      (hnext : ∀ guard, VeiledAs (next guard) (plainNext guard.veiled)) :
      VeiledAs (auth >>= next) (auth >>= plainNext)
  | bind (guard : Guard) (username password : Value) :
      VeiledAs (onTransport (guard.bind username password))
        (onTransport (guard.veiled.bind username password.veiled))
  | bindAsConfigured (guard : Guard) :
      VeiledAs (onTransport guard.bindAsConfigured) (onTransport guard.veiled.bindAsConfigured)
  | authenticate (guard : Guard) (username password : Value) (staysBound : Bool) :
      VeiledAs (onTransport (guard.authenticate username password staysBound))
        (onTransport (guard.veiled.authenticate username password.veiled staysBound))
  | attempt (guard : Guard) (username password : Value) (staysBound : Bool) :
      VeiledAs (onTransport (guard.attempt username password staysBound))
        (onTransport (guard.veiled.attempt username password.veiled staysBound))
  | search (scope : Scope) (base filter attrs limit : Value) (controls : Option (List Control)) :
      VeiledAs (onTransport (Transport.search scope base filter attrs limit controls))
        (onTransport (Transport.search scope base filter attrs limit controls))
  | add (name attrs : Value) :
      VeiledAs (onTransport (Transport.add name attrs)) (onTransport (Transport.add name attrs))
  | modify (name changes : Value) :
      VeiledAs (onTransport (Transport.modify name changes))
        (onTransport (Transport.modify name changes))
  | delete (name : Value) :
      VeiledAs (onTransport (Transport.delete name)) (onTransport (Transport.delete name))
  | rename (name newName newParent deleteOld : Value) :
      VeiledAs (onTransport (Transport.rename name newName newParent deleteOld))
        (onTransport (Transport.rename name newName newParent deleteOld))
  | run {α : Type} {operation plain : Action Connection α}
      (hoperation : VeiledAs operation plain) : VeiledAs (run operation) (run plain)

theorem VeiledAs.veils {session plain : Action Connection α} (h : VeiledAs session plain) :
    Veils veiled session plain := by
  induction h with
  | pure a => exact Veils.pure a
  | throw failure => exact Veils.throw failure
  | next _ _ haction hnext => exact Veils.bind haction hnext
  | observe _ haction => exact haction.observe
  | look _ hnext => exact Veils.state_bind hnext
  | instruct number instruction => exact Veils.outside (Effect.veils_instruct number instruction)
  | setDispatcher dispatcher => exact Veils.change fun _ => rfl
  | setOption key value => exact veils_setOption key value
  | openHost hostname => exact veils_openHost hostname
  | connect username password => exact veils_connect username password
  | reconnect => exact veils_reconnect
  | disconnect => exact veils_disconnect
  | auth _ hnext => exact veils_auth_bind hnext
  | bind guard username password =>
      exact veils_onTransport (Guard.veils_bind guard username password)
  | bindAsConfigured guard => exact veils_onTransport (Guard.veils_bindAsConfigured guard)
  | authenticate guard username password staysBound =>
      exact veils_onTransport (Guard.veils_authenticate guard username password staysBound)
  | attempt guard username password staysBound =>
      exact veils_onTransport (Guard.veils_attempt guard username password staysBound)
  | search scope base filter attrs limit controls =>
      exact veils_onTransport (Transport.veils_search scope base filter attrs limit controls)
  | add name attrs => exact veils_onTransport (Transport.veils_perform "add" rfl rfl)
  | modify name changes => exact veils_onTransport (Transport.veils_perform "modify" rfl rfl)
  | delete name => exact veils_onTransport (Transport.veils_perform "delete" rfl rfl)
  | rename name newName newParent deleteOld =>
      exact veils_onTransport (Transport.veils_perform "rename" rfl rfl)
  | run _ hoperation => exact veils_run hoperation

end Connection

namespace Pool

/-- A pool with the passwords of its connections veiled. -/
def veiled (pool : Pool) : Pool :=
  { pool with connections := pool.connections.map Connection.veiled }

theorem connection_veiled (number : Nat) (pool : Pool) :
    (connection number).get pool.veiled = ((connection number).get pool).veiled := by
  have hdefault : (default : Connection).veiled = default := by
    show ({ configuration := ({} : Configuration).veiled, transport := _ } : Connection) = _
    rw [Configuration.veiled_default]
    rfl
  show (pool.connections.map Connection.veiled).getD number default =
    (pool.connections.getD number default).veiled
  rw [List.getD_eq_getElem?_getD, List.getD_eq_getElem?_getD, List.getElem?_map]
  cases pool.connections[number]? with
  | none => exact hdefault.symm
  | some found => rfl

theorem put_connection_veiled (number : Nat) (pool : Pool) (changed : Connection) :
    (connection number).put pool.veiled changed.veiled =
      ((connection number).put pool changed).veiled := by
  show Pool.mk ((pool.connections.map Connection.veiled).set number changed.veiled) _ =
    Pool.mk ((pool.connections.set number changed).map Connection.veiled) _
  rw [List.map_set]
  rfl

/-- What is done with one of the connections. -/
theorem veils_connection (number : Nat) {action plain : Action Connection α}
    (h : Veils Connection.veiled action plain) :
    Veils veiled (action.on (connection number)) (plain.on (connection number)) :=
  Veils.on (connection_veiled number) (put_connection_veiled number) h

theorem veils_append (added : Connection) : Veils veiled (append added) (append added.veiled) := by
  refine Veils.state_bind fun pool => ?_
  rw [show pool.veiled.connections.length = pool.connections.length from List.length_map _]
  exact Veils.bind (Veils.change fun pool => by simp [veiled]) fun _ => Veils.pure _

theorem veils_replicate (number : Nat) : Veils veiled (replicate number) (replicate number) := by
  intro start
  have hreplica := Connection.exec_replica_veiled ((connection number).get start.1, start.2)
  unfold replicate
  rw [exec_bind, exec_bind, exec_on, exec_on]
  dsimp only at hreplica ⊢
  rw [connection_veiled, hreplica, put_connection_veiled]
  generalize exec Connection.replica ((connection number).get start.1, start.2) = ended
  obtain ⟨failure | replica, ending⟩ := ended
  · rfl
  · exact veils_append replica ((connection number).put start.1 ending.1, ending.2)

/-! ## Sessions with several connections -/

/-- Something that is done with connections that may share a dispatcher, with their guards and their
replicas, and what it looks like behind the veil. -/
inductive VeiledAs : {α : Type} → Action Pool α → Action Pool α → Prop
  | pure {α : Type} (a : α) : VeiledAs (Pure.pure a) (Pure.pure a)
  | throw {α : Type} (failure : Failure) :
      VeiledAs (MonadExcept.throw failure : Action _ α) (MonadExcept.throw failure)
  | next {α β : Type} {action plain : Action Pool α} {next plainNext : α → Action Pool β}
      (haction : VeiledAs action plain) (hnext : ∀ a, VeiledAs (next a) (plainNext a)) :
      VeiledAs (action >>= next) (plain >>= plainNext)
  | observe {α : Type} {action plain : Action Pool α} (haction : VeiledAs action plain) :
      VeiledAs action.observe plain.observe
  | look {α : Type} {next plainNext : Pool → Action Pool α}
      (hnext : ∀ pool, VeiledAs (next pool) (plainNext pool.veiled)) :
      VeiledAs (Action.state >>= next) (Action.state >>= plainNext)
  | connection {α : Type} (number : Nat) {session plain : Action Connection α}
      (hsession : Connection.VeiledAs session plain) :
      VeiledAs (session.on (connection number)) (plain.on (connection number))
  | replicate (number : Nat) : VeiledAs (replicate number) (replicate number)

theorem VeiledAs.veils {session plain : Action Pool α} (h : VeiledAs session plain) :
    Veils veiled session plain := by
  induction h with
  | pure a => exact Veils.pure a
  | throw failure => exact Veils.throw failure
  | next _ _ haction hnext => exact Veils.bind haction hnext
  | observe _ haction => exact haction.observe
  | look _ hnext => exact Veils.state_bind hnext
  | connection number hsession => exact veils_connection number hsession.veils
  | replicate number => exact veils_replicate number

/-- Where all that differs are passwords that are given or configured, loggers write the same. -/
theorem lines_eq_of_veiledAs {first second plain : Action Pool α} (hfirst : VeiledAs first plain)
    (hsecond : VeiledAs second plain) {start other : Pool × World}
    (hpool : start.1.veiled = other.1.veiled) (hworld : start.2.veiled = other.2.veiled) :
    (exec first start).2.2.lines = (exec second other).2.2.lines := by
  have hseen : ((exec first start).1, ((exec first start).2.1.veiled,
      (exec first start).2.2.veiled)) = ((exec second other).1, ((exec second other).2.1.veiled,
        (exec second other).2.2.veiled)) := by
    rw [← hfirst.veils start, ← hsecond.veils other, hpool, hworld]
  have hends : (exec first start).2.2.veiled = (exec second other).2.2.veiled :=
    congrArg (fun ended => ended.2.2) hseen
  rw [← World.lines_veiled, hends, World.lines_veiled]

/-- A configuration with one host, and an account with a password. -/
def accountWith (password : String) : Configuration :=
  ⟨fun
    | .hosts => .list [.str "a"]
    | .username => .str "cn=admin"
    | .password => .str password
    | name => name.default⟩

/-- A pool of one connection whose account has a password. -/
def withAccount (password : String) : Pool :=
  { connections := [{
      configuration := accountWith password
      transport := .direct 0
      dispatcher := some 0 }]
    registry := { dispatcher := 0 } }

theorem veiled_accountWith {password : String} (h : password ≠ "") :
    (accountWith password).veiled = accountWith "*" := by
  refine congrArg Configuration.mk (funext fun name => ?_)
  cases name with
  | password => simp [accountWith, Value.veiled, h]
  | _ => rfl

theorem veiled_withAccount {password : String} (h : password ≠ "") :
    (withAccount password).veiled = withAccount "*" := by
  simp only [withAccount, veiled, List.map_cons, List.map_nil, Connection.veiled,
    veiled_accountWith h]
  rfl

/-- A world in which the second bind is refused, and a logger listens and no one else. -/
def loggedWorld : World :=
  { script := fun queue =>
      if queue = .bind then
        [.gives {},
          .gives { response := { code := .int 49, message := .str "invalidCredentials" } }]
      else []
    dispatchers := [({} : Dispatcher).listen [.event] (.logger 0 none)] }

/-- Connect, and check the password of a user. -/
def checkUser (password : String) : Action Pool Bool :=
  (do
    Connection.connect .null .null
    let guard ← Connection.auth
    Connection.onTransport
      (guard.attempt (.str "jdoe") (.str password) false)).on (connection 0)

theorem veiledAs_checkUser {password : String} (hpassword : password ≠ "") :
    VeiledAs (checkUser password) (checkUser "*") := by
  have hveiled : (Value.str password).veiled = .str "*" := by
    simp [Value.veiled, hpassword]
  unfold checkUser
  rw [← hveiled]
  exact .connection 0 (.next (.connect .null .null) fun _ => .auth fun guard =>
    .attempt guard (.str "jdoe") (.str password) false)

/-- With other passwords for the account and the user, the same nine lines are written. -/
theorem checkUser_lines_eq :
    VeiledAs (checkUser "hunter2") (checkUser "*") ∧
      VeiledAs (checkUser "correct horse") (checkUser "*") ∧
      (withAccount "secret").veiled = (withAccount "password").veiled ∧
      (exec (checkUser "hunter2") (withAccount "secret", loggedWorld)).2.2.lines =
        (exec (checkUser "correct horse") (withAccount "password", loggedWorld)).2.2.lines ∧
      (exec (checkUser "hunter2") (withAccount "secret", loggedWorld)).2.2.lines.length = 9 := by
  have hfirst : VeiledAs (checkUser "hunter2") (checkUser "*") := veiledAs_checkUser (by decide)
  have hsecond : VeiledAs (checkUser "correct horse") (checkUser "*") :=
    veiledAs_checkUser (by decide)
  have hpool : (withAccount "secret").veiled = (withAccount "password").veiled :=
    (veiled_withAccount (by decide)).trans (veiled_withAccount (by decide)).symm
  exact ⟨hfirst, hsecond, hpool, lines_eq_of_veiledAs hfirst hsecond hpool rfl, by decide +kernel⟩

end Pool

end Directory
