import Directory.Guard
import Directory.Proofs.Triple

/-!
# Operations of guards

A guard changes its transport by sending binds and by nothing else: announcing only reaches the
listeners, and what is made of an answer is read off. So an operation keeps whatever its binds keep,
whoever listens and however the listeners fail.
-/

namespace Directory.Guard

open Directory.Action

variable {inv : Transport → Prop} {guard : Guard} {username password : Value}

theorem preserves_announce (inv : Transport → Prop) (guard : Guard) (happening : Happening) :
    Preserves inv (guard.announce happening) :=
  Preserves.bind Preserves.state fun _ => Preserves.outside _

theorem preserves_refusal (inv : Transport → Prop) (guard : Guard) (response : Response) :
    Preserves inv (guard.refusal response) := by
  refine Preserves.bind Preserves.state fun _ => Preserves.bind (Preserves.lift _) fun detail => ?_
  dsimp only
  split
  all_goals
    refine Preserves.bind ?_ fun _ => Preserves.bind (Preserves.lift _) fun _ =>
      Preserves.bind (Preserves.lift _) fun _ => Preserves.lift _
  · exact Preserves.pure _
  · exact Preserves.lift _

/-- What is made of the answer to a bind: it is announced, and a failure is raised. -/
def conclude (guard : Guard) (username password : Value) :
    Except Failure Response → Action Transport Unit
  | .error failure => do
    if failure.isDirectory then guard.announce (.failed username password (some failure))
    throw failure
  | .ok response => do
    if ← response.failed then
      let failure ← guard.refusal response
      guard.announce (.failed username password (some failure))
      throw failure
    guard.announce (.bound username password)

theorem bind_eq (guard : Guard) (username password : Value) :
    guard.bind username password = (do
      guard.announce (.binding username password)
      let outcome ← (sendBind username password).observe
      guard.conclude username password outcome) := by
  unfold bind
  refine congrArg (Bind.bind _) (funext fun announced => ?_)
  refine congrArg (Bind.bind _) (funext fun outcome => ?_)
  cases outcome with
  | error failure => rfl
  | ok response => rfl

theorem preserves_conclude (inv : Transport → Prop) (guard : Guard) (username password : Value)
    (outcome : Except Failure Response) :
    Preserves inv (guard.conclude username password outcome) := by
  cases outcome with
  | error failure =>
      unfold conclude
      dsimp only
      split
      · exact Preserves.bind (preserves_announce inv guard _) fun _ => Preserves.throw failure
      · exact Preserves.throw failure
  | ok response =>
      refine Preserves.bind (Preserves.lift _) fun isFailed => ?_
      split
      · exact Preserves.bind (preserves_refusal inv guard response) fun failure =>
          Preserves.bind (preserves_announce inv guard _) fun _ =>
            Preserves.bind (Preserves.throw failure) fun _ => preserves_announce inv guard _
      · exact preserves_announce inv guard _

/-- A bind of a guard keeps what sending it keeps. -/
theorem preserves_bind (h : Preserves inv (sendBind username password)) :
    Preserves inv (guard.bind username password) := by
  rw [bind_eq]
  exact Preserves.bind (preserves_announce inv guard _) fun _ =>
    Preserves.bind h.observe fun outcome =>
      preserves_conclude inv guard username password outcome

/-- What is made of the bind of an authentication: the user was recognised, or was not, or the bind
failed for another reason. -/
def judge (guard : Guard) (username password : Value) :
    Except Failure Unit → Action Transport AuthResult
  | .ok () => do
    guard.announce (.passed username password)
    return ⟨true, username, none⟩
  | .error failure => do
    if !(← isRejection failure) then throw failure
    Value.note [username]
    return ⟨false, username, some failure⟩

/-- Authenticate a user with a name and a password. -/
def authenticateNamed (guard : Guard) (username password : Value) (staysBound : Bool) :
    Action Transport AuthResult := do
  guard.announce (.attempting username password)
  let outcome ← (guard.bind username password).observe
  let result ← guard.judge username password outcome
  if !staysBound then guard.bindAsConfigured
  return result

/-- An authentication needs a name and a password. -/
theorem authenticate_eq (guard : Guard) (username password : Value) (staysBound : Bool) :
    guard.authenticate username password staysBound =
      if username.isTrue = false then throw Refusal.usernameRequired.toFailure
      else if password.isTrue = false then throw Refusal.passwordRequired.toFailure
      else guard.authenticateNamed username password staysBound := by
  unfold authenticate authenticateNamed
  cases username.isTrue with
  | false => rfl
  | true =>
      cases password.isTrue with
      | false => rfl
      | true =>
          simp only [Bool.not_true, Bool.false_eq_true, if_false, pure_bind, Bool.true_eq_false]
          refine congrArg (Bind.bind _) (funext fun announced => ?_)
          refine congrArg (Bind.bind _) (funext fun outcome => ?_)
          unfold judge
          cases outcome with
          | ok made => simp only [bind_assoc, pure_bind]
          | error failure =>
              simp only [bind_assoc]
              refine congrArg (Bind.bind _) (funext fun isRejected => ?_)
              cases isRejected <;> simp

theorem preserves_judge (inv : Transport → Prop) (guard : Guard) (username password : Value)
    (outcome : Except Failure Unit) : Preserves inv (guard.judge username password outcome) := by
  cases outcome with
  | ok made =>
      exact Preserves.bind (preserves_announce inv guard _) fun _ => Preserves.pure _
  | error failure =>
      refine Preserves.bind (Preserves.lift _) fun isRejected => ?_
      split
      · exact Preserves.bind (Preserves.throw failure) fun _ =>
          Preserves.bind (Preserves.lift _) fun _ => Preserves.pure _
      · exact Preserves.bind (Preserves.lift _) fun _ => Preserves.pure _

/-- An authentication keeps what sending its binds keeps. -/
theorem preserves_authenticate (staysBound : Bool) (h : Preserves inv (sendBind username password))
    (hconfigured : Preserves inv guard.bindAsConfigured) :
    Preserves inv (guard.authenticate username password staysBound) := by
  rw [authenticate_eq]
  split
  · exact Preserves.throw _
  split
  · exact Preserves.throw _
  refine Preserves.bind (preserves_announce inv guard _) fun _ =>
    Preserves.bind (preserves_bind h).observe fun outcome =>
      Preserves.bind (preserves_judge inv guard username password outcome) fun result => ?_
  split
  · exact Preserves.bind hconfigured fun _ => Preserves.pure result
  · exact Preserves.pure result

theorem preserves_attempt (staysBound : Bool) (h : Preserves inv (sendBind username password))
    (hconfigured : Preserves inv guard.bindAsConfigured) :
    Preserves inv (guard.attempt username password staysBound) :=
  Preserves.bind (preserves_authenticate staysBound h hconfigured) fun _ => Preserves.pure _

/-! ## Sessions -/

/-- What is done with guards, one thing after the other, where each thing may depend on what came of
those before. `mayBind` says which users binds are sent for. -/
inductive IsSession (mayBind : Value → Prop) : {α : Type} → Action Transport α → Prop
  | pure {α : Type} (a : α) : IsSession mayBind (Pure.pure a)
  | throw {α : Type} (failure : Failure) :
      IsSession mayBind (MonadExcept.throw failure : Action _ α)
  | next {α β : Type} {action : Action Transport α} {next : α → Action Transport β}
      (haction : IsSession mayBind action) (hnext : ∀ a, IsSession mayBind (next a)) :
      IsSession mayBind (action >>= next)
  | observe {α : Type} {action : Action Transport α} (haction : IsSession mayBind action) :
      IsSession mayBind action.observe
  | state : IsSession mayBind Action.state
  | outside {α : Type} (effect : Effect α) : IsSession mayBind (Action.outside effect)
  | bind (guard : Guard) {username : Value} (password : Value) (husername : mayBind username) :
      IsSession mayBind (guard.bind username password)
  | bindAsConfigured (guard : Guard) (haccount : mayBind (guard.configuration.value .username)) :
      IsSession mayBind guard.bindAsConfigured
  | authenticate (guard : Guard) {username : Value} (password : Value) (staysBound : Bool)
      (husername : mayBind username) (haccount : mayBind (guard.configuration.value .username)) :
      IsSession mayBind (guard.authenticate username password staysBound)
  | attempt (guard : Guard) {username : Value} (password : Value) (staysBound : Bool)
      (husername : mayBind username) (haccount : mayBind (guard.configuration.value .username)) :
      IsSession mayBind (guard.attempt username password staysBound)

/-- A session keeps what sending its binds keeps. -/
theorem IsSession.preserves {α : Type} {mayBind : Value → Prop} {session : Action Transport α}
    (h : IsSession mayBind session)
    (hsend : ∀ username password, mayBind username → Preserves inv (sendBind username password)) :
    Preserves inv session := by
  induction h with
  | pure a => exact Preserves.pure a
  | throw failure => exact Preserves.throw failure
  | next _ _ haction hnext => exact Preserves.bind haction hnext
  | observe _ haction => exact haction.observe
  | state => exact Preserves.state
  | outside effect => exact Preserves.outside effect
  | bind guard password husername => exact preserves_bind (hsend _ password husername)
  | bindAsConfigured guard haccount => exact preserves_bind (hsend _ _ haccount)
  | authenticate guard password staysBound husername haccount =>
      exact preserves_authenticate staysBound (hsend _ password husername)
        (preserves_bind (hsend _ _ haccount))
  | attempt guard password staysBound husername haccount =>
      exact preserves_attempt staysBound (hsend _ password husername)
        (preserves_bind (hsend _ _ haccount))

end Directory.Guard
