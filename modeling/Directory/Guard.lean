import Directory.Classifier
import Directory.Configuration
import Directory.Transport.Operations

/-!
# Guards

A guard authenticates users: it binds as the user, and then, unless told otherwise, as the
configured account, so that later operations run with the rights of that account. Only a bind that
the server refuses is a failed authentication; every other failure goes to the caller.
-/

namespace Directory

/-- What a guard needs to know: the account to bind as, who hears of it, and how failures are
classified. -/
structure Guard where
  configuration : Configuration
  dispatcher : Option Nat := none
  classifier : Classifier := {}

/-- The outcome of an authentication. -/
structure AuthResult where
  isAuthenticated : Bool
  username : Value
  failure : Option Failure

namespace Guard

/-- Announce what happens on the transport. -/
def announce (guard : Guard) (happening : Happening) : Action Transport Unit := do
  let host := (← Action.state).host
  Action.outside (Effect.deliver guard.dispatcher ⟨host, happening⟩)

/-- Start TLS if it is wanted and the transport is not bound, and send the bind. -/
def sendBind (username password : Value) : Action Transport Response := do
  let transport ← Action.state
  if transport.usesTls.isTrue && !transport.isBound then
    let _ ← Transport.startTls
  Transport.bind username password

/-- The failure for a bind that the server refused. -/
def refusal (guard : Guard) (response : Response) : Action Transport Failure := do
  let transport ← Action.state
  let detail ←
    match ← response.detail with
    | some detail => pure (some detail)
    | none => transport.detail
  let message := (← transport.lastError).orElse (response.message.orElse (.str "Bind failed"))
  guard.classifier.bindFailure (← message.text) detail

/-- Bind as a user, or as no one if no user is given. -/
def bind (guard : Guard) (username password : Value) : Action Transport Unit := do
  guard.announce (.binding username password)
  match ← (sendBind username password).observe with
  | .error failure =>
    if failure.isDirectory then guard.announce (.failed username password (some failure))
    throw failure
  | .ok response =>
    if ← response.failed then
      let failure ← guard.refusal response
      guard.announce (.failed username password (some failure))
      throw failure
    guard.announce (.bound username password)

/-- Bind as the configured account. -/
def bindAsConfigured (guard : Guard) : Action Transport Unit :=
  guard.bind (guard.configuration.value .username) (guard.configuration.value .password)

/-- The failure means that the user was not recognised, and not that the server was lost. -/
def isRejection (failure : Failure) : Except Failure Bool := do
  if !failure.isDirectory || failure.isA .connection then return false
  return !(← failure.causedByLostConnection)

/-- Authenticate a user. Unless the transport is to stay bound as the user, the configured account
is bound afterwards, whether or not the user was recognised. -/
def authenticate (guard : Guard) (username password : Value) (staysBound : Bool) :
    Action Transport AuthResult := do
  if !username.isTrue then throw Refusal.usernameRequired.toFailure
  if !password.isTrue then throw Refusal.passwordRequired.toFailure
  guard.announce (.attempting username password)
  let result : AuthResult ←
    match ← (guard.bind username password).observe with
    | .ok () => do
      guard.announce (.passed username password)
      pure ⟨true, username, none⟩
    | .error failure => do
      if !(← isRejection failure) then throw failure
      Value.note [username]
      pure ⟨false, username, some failure⟩
  if !staysBound then guard.bindAsConfigured
  return result

/-- Whether a user is recognised. -/
def attempt (guard : Guard) (username password : Value) (staysBound : Bool) :
    Action Transport Bool := do
  return (← guard.authenticate username password staysBound).isAuthenticated

end Guard

end Directory
