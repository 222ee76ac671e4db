import Directory.Proofs.Guard.Operations
import Directory.Proofs.Transport.Opening

/-!
# Who stays bound

An authentication binds as a user, and then as the account of the guard. `Strands` lists what can
keep it from getting that far once the user was accepted: a listener that fails, or a bind of the
account that fails and leaves the transport bound. In these cases, and in no others, the transport
stays bound as the user.
-/

namespace Directory

open Directory.Action

variable {α : Type}

namespace Transport

/-- As whom the transport is bound, if it is. -/
def identity? (transport : Transport) : Option Value :=
  if transport.isBound then some transport.boundAs else none

/-- The transport is bound as no one but the one given. -/
def IsAtMost (who : Option Value) (transport : Transport) : Prop :=
  transport.identity? = none ∨ transport.identity? = who

variable {who : Option Value} {username password : Value}

theorem identity_eq_of_isStr {transport : Transport} {name : String}
    (h : transport.identity?.any (·.isStr name) = true) :
    transport.identity? = some (.str name) := by
  obtain ⟨identity, hidentity, hname⟩ := (Option.any_eq_true _ _).1 h
  rw [hidentity, Value.eq_of_isStr hname]

theorem identity_afterBind (transport : Transport) (isAccepted : Bool) (username : Value) :
    (transport.afterBind isAccepted username).identity? =
      if isAccepted then some username else none := by
  cases isAccepted <;> rfl

theorem keeps_identity_wireAsk (request : WireRequest) : Keeps identity? (Wire.ask request) := by
  intro start
  rw [exec_ask]
  rfl

theorem keeps_identity_setLink (isOpen : Bool) (last : Response) :
    Keeps identity? (Direct.setLink isOpen last) := by
  refine Keeps.change fun transport => ?_
  split <;> rfl

/-- The loss of the server leaves no one bound. -/
theorem preserves_guarded_isAtMost {name : String} {operation : Action Transport α}
    (h : Preserves (IsAtMost who) operation) :
    Preserves (IsAtMost who) (Wire.guarded name operation) :=
  preserves_guarded (fun _ _ => .inl rfl) h

theorem preserves_isAtMost {action : Action Transport α} (h : Keeps identity? action) :
    Preserves (IsAtMost who) action :=
  h.preserves fun identity => identity = none ∨ identity = who

/-- Starting TLS binds no one. -/
theorem preserves_startTls_isAtMost : Preserves (IsAtMost who) startTls :=
  preserves_startTls_of (fun _ _ _ h => h) fun _ _ => .inl rfl

/-- A bind that is answered settles who is bound, and one that fails binds no one else. -/
theorem meets_bind_identity (who : Option Value) (username password : Value) :
    Meets (fun start => start.1.IsAtMost who) (Transport.bind username password)
      (fun response ending => ∃ isAccepted, response.successful = .ok isAccepted ∧
        ending.1.identity? = if isAccepted then some username else none)
      (fun _ ending => ending.1.IsAtMost who) := by
  have hkept {β : Type} {action : Action Transport β} (h : Preserves (IsAtMost who) action) :=
    Meets.of_preserves h
  have hsettle (response : Response) : Meets (fun start => start.1.IsAtMost who) ((do
      let isSuccess ← response.successful
      Action.change (·.afterBind isSuccess username)
      return response) : Action Transport Response)
      (fun response ending => ∃ isAccepted, response.successful = .ok isAccepted ∧
        ending.1.identity? = if isAccepted then some username else none)
      (fun _ ending => ending.1.IsAtMost who) := by
    refine Meets.lift_bind (fun isAccepted haccepted => ?_) fun _ _ _ h => h
    exact fun start _ => ⟨isAccepted, haccepted, identity_afterBind start.1 isAccepted username⟩
  refine meets_choose (Meets.restrict ?_ fun _ h => h.1) (Meets.restrict ?_ fun _ h => h.1)
  · refine Meets.bind (hkept (preserves_isAtMost (keeps_directAsk _ _))) fun answer =>
      Meets.bind (hkept Preserves.state) fun transport =>
      Meets.bind (hkept (preserves_isAtMost (keeps_identity_setLink _ _))) fun _ => ?_
    exact hsettle answer.response
  · refine Meets.bind (hkept Preserves.state) fun _ =>
      Meets.bind (hkept (Preserves.lift _)) fun _ =>
      Meets.bind (hkept (preserves_guarded_isAtMost ?_)) fun _ =>
      Meets.bind (hkept ?_) fun response => hsettle response
    · exact Preserves.bind (preserves_isAtMost (keeps_identity_wireAsk _)) fun _ =>
        Preserves.pure _
    · exact Preserves.bind Preserves.state fun _ => Preserves.lift _

end Transport

namespace Guard

open Transport

variable {username password : Value}

/-- TLS may be started before a bind is sent; that binds no one. -/
theorem meets_sendBind_identity (who : Option Value) (username password : Value) :
    Meets (fun start => start.1.IsAtMost who) (sendBind username password)
      (fun response ending => ∃ isAccepted, response.successful = .ok isAccepted ∧
        ending.1.identity? = if isAccepted then some username else none)
      (fun _ ending => ending.1.IsAtMost who) := by
  refine Meets.bind (Meets.of_preserves Preserves.state) fun transport => ?_
  dsimp only
  split
  · exact Meets.bind (Meets.of_preserves preserves_startTls_isAtMost) fun _ =>
      meets_bind_identity who username password
  · exact meets_bind_identity who username password

/-- A bind as someone else never leaves the transport bound as a user that it was not bound as. -/
theorem preserves_sendBind_ne {account username : Value} (password : Value)
    (haccount : account ≠ username) :
    Preserves (fun transport => transport.identity? ≠ some username)
      (sendBind account password) := by
  intro start hstart
  have hended := meets_sendBind_identity start.1.identity? account password start (.inr rfl)
  generalize exec (sendBind account password) start = ended at hended ⊢
  obtain ⟨failure | response, ending⟩ := ended
  · rcases hended with hnone | hsame
    · rw [hnone]
      exact (Option.some_ne_none username).symm
    · rw [hsame]
      exact hstart
  · obtain ⟨isAccepted, -, hidentity⟩ := hended
    rw [hidentity]
    cases isAccepted with
    | false => exact (Option.some_ne_none username).symm
    | true => exact fun heq => haccount (Option.some.inj heq)

/-- A bind is concluded only if it was accepted. -/
theorem accepted_of_conclude {guard : Guard} {start ending : Transport × World}
    {outcome : Except Failure Response}
    (h : exec (guard.conclude username password outcome) start = (.ok (), ending)) :
    ∃ response, outcome = .ok response ∧ response.successful = .ok true := by
  cases outcome with
  | error failure =>
      unfold conclude at h
      dsimp only at h
      split at h
      · obtain ⟨_, _, -, h⟩ := exec_bind_eq_ok_iff.1 h
        cases h
      · cases h
  | ok response =>
      obtain ⟨isFailed, _, hfailed, h⟩ := exec_bind_eq_ok_iff.1 h
      cases isFailed with
      | true =>
          obtain ⟨_, _, -, h⟩ := exec_bind_eq_ok_iff.1 h
          obtain ⟨_, _, -, h⟩ := exec_bind_eq_ok_iff.1 h
          obtain ⟨_, _, h, -⟩ := exec_bind_eq_ok_iff.1 h
          cases h
      | false =>
          refine ⟨response, rfl, ?_⟩
          have hfailed := (exec_lift_eq_ok_iff.1 hfailed).1
          unfold Response.failed at hfailed
          cases hsuccess : response.successful with
          | error failure =>
              rw [hsuccess] at hfailed
              cases hfailed
          | ok isSuccess =>
              rw [hsuccess] at hfailed
              cases isSuccess with
              | false => cases hfailed
              | true => rfl

/-- A user who was bound is the one whom the transport is bound as. -/
theorem identity_of_bind {guard : Guard} {start ending : Transport × World}
    (h : exec (guard.bind username password) start = (.ok (), ending)) :
    ending.1.identity? = some username := by
  rw [bind_eq] at h
  obtain ⟨_, announced, -, h⟩ := exec_bind_eq_ok_iff.1 h
  obtain ⟨outcome, sent, hsend, h⟩ := exec_bind_eq_ok_iff.1 h
  obtain ⟨response, rfl, haccepted⟩ := accepted_of_conclude h
  have hsent := (meets_sendBind_identity announced.1.identity? username password).ok (.inr rfl)
    (exec_observe_eq_ok_iff.1 hsend)
  obtain ⟨isAccepted, hsuccess, hidentity⟩ := hsent
  rw [haccepted] at hsuccess
  cases hsuccess
  -- what is made of the answer leaves the transport alone
  have hsame := preserves_conclude (· = sent.1) guard username password (.ok response) sent rfl
  rw [h] at hsame
  rw [hsame]
  exact hidentity

/-! ## The steps of an authentication -/

/-- Announce a bind and send it. -/
def ask (guard : Guard) (username password : Value) : Action Transport Response := do
  guard.announce (.binding username password)
  sendBind username password

/-- What is done after a bind as a user was accepted: it is announced, and the outcome is judged. -/
def welcome (guard : Guard) (username password : Value) : Action Transport AuthResult := do
  let outcome ← (guard.announce (.bound username password)).observe
  guard.judge username password outcome

/-- The account is not bound in the place of a user: a listener does not let that begin, or the bind
fails and leaves the transport bound. -/
inductive MissesAccount (guard : Guard) (start : Transport × World) : Prop
  | announced {failure : Failure} {ended : Transport × World}
      (hannounce : exec (guard.announce (.binding (guard.configuration.value .username)
        (guard.configuration.value .password))) start = (.error failure, ended)) :
      MissesAccount guard start
  | failed {failure : Failure} {announced ended : Transport × World}
      (hannounce : exec (guard.announce (.binding (guard.configuration.value .username)
        (guard.configuration.value .password))) start = (.ok (), announced))
      (hbind : exec (Transport.bind (guard.configuration.value .username)
        (guard.configuration.value .password)) announced = (.error failure, ended))
      (hbound : ended.1.isBound = true) : MissesAccount guard start

/-- What keeps the account from being bound after a user was accepted: a listener does not let that
be judged, or the bind of the account is missed. -/
inductive Strands (guard : Guard) (username password : Value) (accepted : Transport × World) : Prop
  | judged {failure : Failure} {ended : Transport × World}
      (hwelcome : exec (guard.welcome username password) accepted = (.error failure, ended)) :
      Strands guard username password accepted
  | missed {result : AuthResult} {judged : Transport × World}
      (hwelcome : exec (guard.welcome username password) accepted = (.ok result, judged))
      (hmisses : guard.MissesAccount judged) : Strands guard username password accepted

/-- The server accepts a bind as the user, after it was announced. -/
def Accepts (guard : Guard) (username password : Value) (start accepted : Transport × World) :
    Prop :=
  ∃ response, exec (do
      guard.announce (.attempting username password)
      guard.ask username password) start = (.ok response, accepted) ∧
    response.successful = .ok true

/-- What becomes of the account after a bind as a user was accepted. -/
def handOver (guard : Guard) (username password : Value) : Action Transport AuthResult := do
  let result ← guard.welcome username password
  guard.bindAsConfigured
  return result

variable {guard : Guard} {start accepted : Transport × World}

theorem exec_bind_of_accepted {response : Response}
    (hask : exec (guard.ask username password) start = (.ok response, accepted))
    (haccepted : response.successful = .ok true) :
    exec (guard.bind username password) start =
      exec (guard.announce (.bound username password)) accepted := by
  obtain ⟨announced, between, hannounce, hsend⟩ := exec_bind_eq_ok_iff.1 hask
  have hfailed : response.failed = .ok false := by
    unfold Response.failed
    rw [haccepted]
    rfl
  rw [bind_eq, exec_bind, hannounce]
  dsimp only
  rw [exec_bind, exec_observe, hsend]
  dsimp only [conclude]
  rw [exec_bind, exec_lift, hfailed]
  rfl

theorem identity_of_ask {response : Response}
    (hask : exec (guard.ask username password) start = (.ok response, accepted))
    (haccepted : response.successful = .ok true) : accepted.1.identity? = some username := by
  obtain ⟨announced, between, -, hsend⟩ := exec_bind_eq_ok_iff.1 hask
  have hended := meets_sendBind_identity between.1.identity? username password between (.inr rfl)
  rw [hsend] at hended
  obtain ⟨isAccepted, hsuccess, hidentity⟩ := hended
  rw [haccepted] at hsuccess
  cases hsuccess
  exact hidentity

/-- A bind that is sent and not accepted does not leave the transport bound as the user. -/
theorem identity_of_sendBind (hstart : start.1.identity? ≠ some username)
    (hnot : ∀ response accepted, exec (sendBind username password) start =
      (.ok response, accepted) → response.successful ≠ .ok true) :
    (exec (sendBind username password) start).2.1.identity? ≠ some username := by
  have hended := meets_sendBind_identity start.1.identity? username password start (.inr rfl)
  cases hsend : exec (sendBind username password) start with
  | mk answer ending =>
      rw [hsend] at hended
      show ending.1.identity? ≠ some username
      cases answer with
      | error failure =>
          rcases hended with hnone | hsame
          · rw [hnone]
            exact (Option.some_ne_none username).symm
          · rw [hsame]
            exact hstart
      | ok response =>
          obtain ⟨isAccepted, hsuccess, hidentity⟩ := hended
          rw [hidentity]
          cases isAccepted with
          | false => exact (Option.some_ne_none username).symm
          | true => exact absurd hsuccess (hnot response ending hsend)

theorem identity_of_not_accepted (hstart : start.1.identity? ≠ some username)
    (hnot : ∀ response accepted, exec (guard.ask username password) start =
      (.ok response, accepted) → response.successful ≠ .ok true) :
    (exec (guard.bind username password) start).2.1.identity? ≠ some username := by
  have hannounced := preserves_announce (·.identity? ≠ some username) guard
    (.binding username password) start hstart
  rw [bind_eq, exec_bind]
  cases hannounce : exec (guard.announce (.binding username password)) start with
  | mk result between =>
      rw [hannounce] at hannounced
      cases result with
      | error failure => exact hannounced
      | ok announced =>
          dsimp only
          rw [exec_bind, exec_observe]
          refine preserves_conclude (·.identity? ≠ some username) guard username password _ _
            (identity_of_sendBind hannounced fun response accepted hsend => ?_)
          exact hnot response accepted
            (exec_bind_eq_ok_iff.2 ⟨announced, between, hannounce, hsend⟩)

theorem exec_sendBind_of_isBound (h : start.1.isBound = true) :
    exec (sendBind username password) start = exec (Transport.bind username password) start := by
  unfold sendBind
  rw [exec_bind, exec_state]
  simp only [h, Bool.not_true, Bool.and_false]
  rfl

theorem isBound_of_identity {transport : Transport} (h : transport.identity? = some username) :
    transport.isBound = true := by
  unfold identity? at h
  split at h
  next hbound => exact hbound
  next => cases h

/-- A bind as someone else leaves a transport bound as a user just when it fails and leaves the
transport bound. -/
theorem identity_bind_iff {account : Value} (haccount : account ≠ username)
    (hstart : start.1.identity? = some username) :
    (exec (Transport.bind account password) start).2.1.identity? = some username ↔
      ∃ failure ended, exec (Transport.bind account password) start = (.error failure, ended) ∧
        ended.1.isBound = true := by
  have hended := meets_bind_identity (some username) account password start (.inr hstart)
  cases hbind : exec (Transport.bind account password) start with
  | mk answer ended =>
      rw [hbind] at hended
      cases answer with
      | error failure =>
          constructor
          · exact fun hidentity => ⟨failure, ended, rfl, isBound_of_identity hidentity⟩
          · rintro ⟨_, _, heq, hbound⟩
            cases heq
            refine hended.resolve_left fun hnone => ?_
            unfold identity? at hnone
            rw [hbound] at hnone
            cases hnone
      | ok response =>
          obtain ⟨isAccepted, -, hidentity⟩ := hended
          constructor
          · intro huser
            rw [hidentity] at huser
            cases isAccepted with
            | false => cases huser
            | true => exact absurd (Option.some.inj huser) haccount
          · rintro ⟨_, _, heq, -⟩
            cases heq

theorem missesAccount_iff {announced : Transport × World}
    (hannounce : exec (guard.announce (.binding (guard.configuration.value .username)
      (guard.configuration.value .password))) start = (.ok (), announced)) :
    guard.MissesAccount start ↔
      ∃ failure ended, exec (Transport.bind (guard.configuration.value .username)
        (guard.configuration.value .password)) announced = (.error failure, ended) ∧
        ended.1.isBound = true := by
  constructor
  · intro hmisses
    cases hmisses with
    | announced hfails =>
        rw [hannounce] at hfails
        cases hfails
    | failed hmade hbind hbound =>
        rw [hannounce] at hmade
        cases hmade
        exact ⟨_, _, hbind, hbound⟩
  · rintro ⟨_, _, hbind, hbound⟩
    exact .failed hannounce hbind hbound

/-- A transport that is bound as a user stays so just when the bind of the account is missed. -/
theorem identity_bindAsConfigured_iff (haccount : guard.configuration.value .username ≠ username)
    (hstart : start.1.identity? = some username) :
    (exec guard.bindAsConfigured start).2.1.identity? = some username ↔
      guard.MissesAccount start := by
  unfold bindAsConfigured
  have hannounced := preserves_announce (·.identity? = some username) guard
    (.binding (guard.configuration.value .username) (guard.configuration.value .password)) start
    hstart
  rw [bind_eq, exec_bind]
  cases hannounce : exec (guard.announce (.binding (guard.configuration.value .username)
      (guard.configuration.value .password))) start with
  | mk result announced =>
      rw [hannounce] at hannounced
      cases result with
      | error failure => exact ⟨fun _ => .announced hannounce, fun _ => hannounced⟩
      | ok made =>
          -- what is made of the answer leaves the transport alone
          have hsame (outcome : Except Failure Response) (between : Transport × World) :=
            preserves_conclude (· = between.1) guard (guard.configuration.value .username)
              (guard.configuration.value .password) outcome between rfl
          dsimp only
          rw [exec_bind, exec_observe, exec_sendBind_of_isBound (isBound_of_identity hannounced),
            missesAccount_iff hannounce, ← identity_bind_iff haccount hannounced]
          dsimp only
          rw [hsame]

/-- After a user was accepted, the transport stays bound as the user just when the account cannot be
bound. -/
theorem identity_handOver_iff (haccount : guard.configuration.value .username ≠ username)
    (haccepted : accepted.1.identity? = some username) :
    (exec (guard.handOver username password) accepted).2.1.identity? = some username ↔
      guard.Strands username password accepted := by
  have hwelcomed : Preserves (·.identity? = some username) (guard.welcome username password) :=
    Preserves.bind (preserves_announce _ guard _).observe fun outcome =>
      preserves_judge _ guard username password outcome
  have hjudged := hwelcomed accepted haccepted
  unfold handOver
  rw [exec_bind]
  cases hwelcome : exec (guard.welcome username password) accepted with
  | mk result judged =>
      rw [hwelcome] at hjudged
      cases result with
      | error failure => exact ⟨fun _ => .judged hwelcome, fun _ => hjudged⟩
      | ok result =>
          have hrebound := identity_bindAsConfigured_iff haccount hjudged
          have hsame : (exec (do
              guard.bindAsConfigured
              return result) judged).2 = (exec guard.bindAsConfigured judged).2 := by
            rw [exec_bind]
            rcases exec guard.bindAsConfigured judged with ⟨_ | _, ended⟩ <;> rfl
          dsimp only
          rw [hsame, hrebound]
          constructor
          · exact fun hmisses => .missed hwelcome hmisses
          · intro hstrands
            cases hstrands with
            | judged hfails =>
                rw [hwelcome] at hfails
                cases hfails
            | missed hmade hmisses =>
                rw [hwelcome] at hmade
                cases hmade
                exact hmisses

/-- What is done after an authentication was announced. -/
def proceed (guard : Guard) (username password : Value) : Action Transport AuthResult := do
  let outcome ← (guard.bind username password).observe
  let result ← guard.judge username password outcome
  guard.bindAsConfigured
  return result

theorem exec_proceed_of_accepted {response : Response}
    (hask : exec (guard.ask username password) start = (.ok response, accepted))
    (haccepted : response.successful = .ok true) :
    exec (guard.proceed username password) start =
      exec (guard.handOver username password) accepted := by
  unfold proceed handOver welcome
  rw [exec_bind, exec_observe, exec_bind_of_accepted hask haccepted, bind_assoc, exec_bind,
    exec_observe]

theorem identity_proceed_of_not_accepted
    (haccount : guard.configuration.value .username ≠ username)
    (hstart : start.1.identity? ≠ some username)
    (hnot : ∀ response accepted, exec (guard.ask username password) start =
      (.ok response, accepted) → response.successful ≠ .ok true) :
    (exec (guard.proceed username password) start).2.1.identity? ≠ some username := by
  have hrest (outcome : Except Failure Unit) : Preserves (·.identity? ≠ some username) (do
      let result ← guard.judge username password outcome
      guard.bindAsConfigured
      return result) :=
    Preserves.bind (preserves_judge _ guard username password outcome) fun result =>
      Preserves.bind (preserves_bind (preserves_sendBind_ne _ haccount)) fun _ =>
        Preserves.pure result
  unfold proceed
  rw [exec_bind, exec_observe]
  exact hrest _ _ (identity_of_not_accepted hstart hnot)

theorem identity_proceed_iff (haccount : guard.configuration.value .username ≠ username)
    (hstart : start.1.identity? ≠ some username) :
    (exec (guard.proceed username password) start).2.1.identity? = some username ↔
      ∃ accepted, (∃ response, exec (guard.ask username password) start = (.ok response, accepted) ∧
        response.successful = .ok true) ∧ guard.Strands username password accepted := by
  constructor
  · intro huser
    -- a bind that is not accepted would not have left the transport bound as the user
    by_cases hasked : ∃ response accepted, exec (guard.ask username password) start =
        (.ok response, accepted) ∧ response.successful = .ok true
    · obtain ⟨response, accepted, hask, haccepted⟩ := hasked
      rw [exec_proceed_of_accepted hask haccepted,
        identity_handOver_iff haccount (identity_of_ask hask haccepted)] at huser
      exact ⟨accepted, ⟨response, hask, haccepted⟩, huser⟩
    · refine absurd huser (identity_proceed_of_not_accepted haccount hstart ?_)
      exact fun response accepted hask haccepted => hasked ⟨response, accepted, hask, haccepted⟩
  · rintro ⟨accepted, ⟨response, hask, haccepted⟩, hstrands⟩
    rw [exec_proceed_of_accepted hask haccepted,
      identity_handOver_iff haccount (identity_of_ask hask haccepted)]
    exact hstrands

/-- An authentication leaves the transport bound as the user just when the server accepted the user
and something then kept the account from being bound. -/
theorem authenticate_leaves_user_iff (haccount : guard.configuration.value .username ≠ username)
    (hstart : start.1.identity? ≠ some username) :
    (exec (guard.authenticate username password false) start).2.1.identity? = some username ↔
      username.isTrue = true ∧ password.isTrue = true ∧
        ∃ accepted, guard.Accepts username password start accepted ∧
          guard.Strands username password accepted := by
  rw [authenticate_eq]
  cases husername : username.isTrue with
  | false => simpa using hstart
  | true =>
      cases hpassword : password.isTrue with
      | false => simpa using hstart
      | true =>
          have hattempted := preserves_announce (·.identity? ≠ some username) guard
            (.attempting username password) start hstart
          have hproceed : guard.authenticateNamed username password false = (do
              guard.announce (.attempting username password)
              guard.proceed username password) := rfl
          simp only [Bool.true_eq_false, if_false, true_and, Accepts]
          rw [hproceed]
          simp only [exec_bind]
          cases hattempt : exec (guard.announce (.attempting username password)) start with
          | mk result between =>
              rw [hattempt] at hattempted
              cases result with
              | error failure => simpa using hattempted
              | ok announced => exact identity_proceed_iff haccount hattempted

/-- A guard with an account, and a dispatcher of its own. -/
def ofAdmin : Guard :=
  { configuration := ⟨fun
      | .username => .str "cn=admin"
      | .password => .str "secret"
      | name => name.default⟩
    dispatcher := some 0 }

/-- A transport over a wire client. -/
def openWire : Transport :=
  { Transport.wire with link := .wire (some {}), host := .str "ldap://foo:389" }

/-- A world in which a listener fails when a user was recognised. -/
def failingAtPassed : World :=
  { dispatchers := [({} : Dispatcher).listen [.event] .monitor]
    triggers := [⟨.passed, none, { kind := .runtime, text := some "boom" }⟩] }

/-- Where no listener fails, the account is bound after the user. -/
theorem quiet_authenticate_rebinds :
    let ended := exec (ofAdmin.authenticate (.str "jdoe") (.str "pw") false) (openWire, {})
    ofAdmin.configuration.value .username ≠ .str "jdoe" ∧
      openWire.identity? ≠ some (.str "jdoe") ∧ ended.2.1.identity? = some (.str "cn=admin") ∧
      ¬ ∃ accepted, ofAdmin.Accepts (.str "jdoe") (.str "pw") (openWire, {}) accepted ∧
        ofAdmin.Strands (.str "jdoe") (.str "pw") accepted := by
  have haccount : ofAdmin.configuration.value .username ≠ .str "jdoe" := by
    simp [ofAdmin]
  have hstart : openWire.identity? ≠ some (.str "jdoe") := by
    simp [identity?, openWire, Transport.wire]
  have hrebound : (exec (ofAdmin.authenticate (.str "jdoe") (.str "pw") false)
      (openWire, {})).2.1.identity? = some (.str "cn=admin") :=
    identity_eq_of_isStr (by decide +kernel)
  refine ⟨haccount, hstart, hrebound, fun hstrands => ?_⟩
  have huser : (exec (ofAdmin.authenticate (.str "jdoe") (.str "pw") false)
      (openWire, {})).2.1.identity? = some (.str "jdoe") :=
    (authenticate_leaves_user_iff haccount hstart).2 ⟨by decide, by decide, hstrands⟩
  rw [hrebound] at huser
  simp at huser

/-- Where a listener fails after the user was recognised, the user stays bound. -/
theorem failingListener_leaves_user :
    ofAdmin.configuration.value .username ≠ .str "jdoe" ∧
      openWire.identity? ≠ some (.str "jdoe") ∧
      (exec (ofAdmin.authenticate (.str "jdoe") (.str "pw") false)
        (openWire, failingAtPassed)).2.1.identity? = some (.str "jdoe") := by
  refine ⟨by simp [ofAdmin], by simp [identity?, openWire, Transport.wire], ?_⟩
  exact identity_eq_of_isStr (by decide +kernel)

end Guard

end Directory
