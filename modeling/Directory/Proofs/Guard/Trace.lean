import Directory.Proofs.Guard.Orderly

/-!
# What guards tell

A guard tells of each bind that it begins and how it ended, with nothing in between. Around the bind
of an authentication it tells that it attempts it and, if the user was recognised, that the user
passed; then it binds the account, unless the user is to stay bound or the server was lost.
`BindTrace`, `AuthTrace` and `CallTrace` say this of a bind, of an authentication and of any call,
along with how it ends; a `Course` goes through a sequence of calls, each from where the one before
left off, whether or not that failed.
-/

namespace Directory

open Directory.Action Transport

namespace Failure

/-- What the failure says can be read, so that it shows whether the server was lost. -/
def IsLegible (failure : Failure) : Prop :=
  ∃ isLoss, failure.causedByLostConnection = .ok isLoss

/-- The failure means that the server was lost. -/
def IsLoss (failure : Failure) : Prop :=
  failure.isA .connection = true ∨ failure.causedByLostConnection = .ok true

/-- A failure with plain details or none can be read. -/
theorem isLegible_of_isPlain (kind : Kind) (text : String) (detail : Option Detail)
    (cause : Option Failure) (hplain : ∀ given, detail = some given → given.IsPlain) :
    IsLegible { kind, text := some text, detail, cause } := by
  cases detail with
  | none => exact ⟨_, rfl⟩
  | some detail =>
      obtain ⟨message, hmessage⟩ := Response.exists_orElse_str (hplain detail rfl).message ""
      obtain ⟨diagnostic, hdiagnostic⟩ :=
        Response.exists_orElse_str (hplain detail rfl).diagnostic ""
      unfold IsLegible causedByLostConnection
      dsimp only
      rw [hmessage, hdiagnostic]
      exact ⟨_, rfl⟩

end Failure

/-- Where it answers a call of a bind, the outcome is orderly, and it can be read if it fails. -/
def Outcome.IsClear (queue : Queue) (outcome : Outcome) : Prop :=
  queue.isForBinds = true →
    outcome.IsOrderly queue ∧ ∀ failure, outcome = .fails failure → failure.IsLegible

/-- Clear outcomes are fair. -/
theorem isFair_isClear : IsFair Failure.IsLegible Outcome.IsClear where
  orderly := fun _ _ hqueue h => (h hqueue).1
  fails := fun _ failure hqueue h => (h hqueue).2 failure rfl
  made := Failure.isLegible_of_isPlain

namespace Guard

variable {calm : World → Prop} {log : List Happening} {guard : Guard} {username : Value}
  (password : Value)

/-! ## Binds -/

/-- How a bind ends and what it tells. It succeeds just when the server welcomes the user, and then
the transport is bound as that user. -/
inductive BindTrace (guard : Guard) (username password : Value) (start : Transport × World) :
    Except Failure Unit → Transport × World → List Happening → Prop
  | bound {ending : Transport × World}
      (hexec : exec (guard.bind username password) start = (.ok (), ending))
      (hwelcomes : guard.Welcomes username password start)
      (hidentity : ending.1.identity? = some username) :
      BindTrace guard username password start (.ok ()) ending
        [.binding username password, .bound username password]
  | failed {failure : Failure} {ending : Transport × World}
      (hexec : exec (guard.bind username password) start = (.error failure, ending))
      (hnot : ¬ guard.Welcomes username password start) :
      BindTrace guard username password start (.error failure) ending
        [.binding username password, .failed username password (some failure)]

/-- A bind ends as some trace of it says, which is what it tells. -/
theorem exists_bindTrace (hcalm : Effect.IsCalm guard.dispatcher calm)
    (hclassifier : guard.classifier.IsPlain) (husername : username.IsReadable)
    {start : Transport × World} (hserved : IsServed Outcome.IsClear calm log start) :
    ∃ outcome ending trace, exec (guard.bind username password) start = (outcome, ending) ∧
      BindTrace guard username password start outcome ending trace ∧
      IsServed Outcome.IsClear calm (log ++ trace) ending ∧
      ∀ failure, outcome = .error failure → failure.isDirectory = true ∧ failure.IsLegible := by
  have hended := bind_of_isServed password isFair_isClear hcalm hclassifier husername hserved
  cases hexec : exec (guard.bind username password) start with
  | mk outcome ending =>
      rw [hexec] at hended
      cases outcome with
      | error failure =>
          obtain ⟨hnot, hreported⟩ := hended
          refine ⟨_, ending, _, rfl, .failed hexec hnot, hreported.served, ?_⟩
          rintro _ ⟨⟩
          exact ⟨hreported.directory, hreported.fits⟩
      | ok made =>
          obtain ⟨hwelcomes, hended, -⟩ := hended
          refine ⟨_, ending, _, rfl, .bound hexec hwelcomes (identity_of_bind hexec), hended, ?_⟩
          rintro _ ⟨⟩

/-! ## Authentications -/

/-- What is done for the account after a user was judged. -/
inductive AccountTrace (guard : Guard) (staysBound : Bool) (judged : Transport × World) :
    Except Failure Unit → Transport × World → List Happening → Prop
  | stays (h : staysBound = true) : AccountTrace guard staysBound judged (.ok ()) judged []
  | rebinds {outcome : Except Failure Unit} {ending : Transport × World} {trace : List Happening}
      (h : staysBound = false)
      (hbind : BindTrace guard (guard.configuration.value .username)
        (guard.configuration.value .password) judged outcome ending trace) :
      AccountTrace guard staysBound judged outcome ending trace

/-- How an authentication ends and what it tells. Without a name or a password nothing is told and
nothing happens. -/
inductive AuthTrace (guard : Guard) (username password : Value) (staysBound : Bool)
    (start : Transport × World) :
    Except Failure AuthResult → Transport × World → List Happening → Prop
  | withoutUsername (h : username.isTrue = false) :
      AuthTrace guard username password staysBound start
        (.error Refusal.usernameRequired.toFailure) start []
  | withoutPassword (husername : username.isTrue = true) (h : password.isTrue = false) :
      AuthTrace guard username password staysBound start
        (.error Refusal.passwordRequired.toFailure) start []
  | passed {attempted bound judged ending : Transport × World} {outcome : Except Failure Unit}
      {userTrace accountTrace : List Happening}
      (husername : username.isTrue = true) (hpassword : password.isTrue = true)
      (hattempt : exec (guard.announce (.attempting username password)) start =
        (.ok (), attempted))
      (huser : BindTrace guard username password attempted (.ok ()) bound userTrace)
      (hpass : exec (guard.announce (.passed username password)) bound = (.ok (), judged))
      (haccount : AccountTrace guard staysBound judged outcome ending accountTrace) :
      AuthTrace guard username password staysBound start
        (outcome.map fun _ => ⟨true, username, none⟩) ending
        ([.attempting username password] ++ userTrace ++ [.passed username password] ++
          accountTrace)
  | rejected {attempted rejected ending : Transport × World} {failure : Failure}
      {outcome : Except Failure Unit} {userTrace accountTrace : List Happening}
      (husername : username.isTrue = true) (hpassword : password.isTrue = true)
      (hattempt : exec (guard.announce (.attempting username password)) start =
        (.ok (), attempted))
      (huser : BindTrace guard username password attempted (.error failure) rejected userTrace)
      (hnot : ¬ failure.IsLoss)
      (haccount : AccountTrace guard staysBound rejected outcome ending accountTrace) :
      AuthTrace guard username password staysBound start
        (outcome.map fun _ => ⟨false, username, some failure⟩) ending
        ([.attempting username password] ++ userTrace ++ accountTrace)
  | lost {attempted ending : Transport × World} {failure : Failure} {userTrace : List Happening}
      (husername : username.isTrue = true) (hpassword : password.isTrue = true)
      (hattempt : exec (guard.announce (.attempting username password)) start =
        (.ok (), attempted))
      (huser : BindTrace guard username password attempted (.error failure) ending userTrace)
      (hloss : failure.IsLoss) :
      AuthTrace guard username password staysBound start (.error failure) ending
        ([.attempting username password] ++ userTrace)

/-- What is done after a user was judged. -/
def finish (guard : Guard) (staysBound : Bool) (result : AuthResult) :
    Action Transport AuthResult := do
  if !staysBound then guard.bindAsConfigured
  return result

/-- The account is bound, or the transport stays as it is. -/
theorem exists_accountTrace (hcalm : Effect.IsCalm guard.dispatcher calm)
    (hclassifier : guard.classifier.IsPlain)
    (haccount : (guard.configuration.value .username).IsReadable) (staysBound : Bool)
    {judged : Transport × World} (hserved : IsServed Outcome.IsClear calm log judged)
    (result : AuthResult) :
    ∃ outcome ending trace,
      exec (guard.finish staysBound result) judged = (outcome.map fun _ => result, ending) ∧
      AccountTrace guard staysBound judged outcome ending trace ∧
      IsServed Outcome.IsClear calm (log ++ trace) ending := by
  cases staysBound with
  | true =>
      refine ⟨.ok (), judged, [], rfl, .stays rfl, ?_⟩
      rw [List.append_nil]
      exact hserved
  | false =>
      obtain ⟨outcome, ending, trace, hexec, hbind, hended, -⟩ :=
        exists_bindTrace (guard.configuration.value .password) hcalm hclassifier haccount hserved
      refine ⟨outcome, ending, trace, ?_, .rebinds rfl hbind, hended⟩
      have hrebind : exec guard.bindAsConfigured judged = (outcome, ending) := hexec
      unfold finish
      simp only [Bool.not_false, if_true]
      rw [exec_bind, hrebind]
      cases outcome <;> rfl

/-- A failure of a bind tells that the server was lost, or the user was rejected. -/
theorem isRejection_of_isLoss {failure : Failure} (h : failure.IsLoss) :
    isRejection failure = .ok false := by
  unfold isRejection
  cases hdirectory : !failure.isDirectory || failure.isA .connection with
  | true => rfl
  | false =>
      obtain ⟨-, hconnection⟩ := Bool.or_eq_false_iff.1 hdirectory
      have hlost := h.resolve_left (by rw [hconnection]; exact Bool.false_ne_true)
      rw [hlost]
      rfl

theorem isRejection_of_not_isLoss {failure : Failure} (hdirectory : failure.isDirectory = true)
    (hlegible : failure.IsLegible) (h : ¬ failure.IsLoss) : isRejection failure = .ok true := by
  obtain ⟨isLoss, hread⟩ := hlegible
  unfold isRejection
  cases hconnection : failure.isA .connection with
  | true => exact absurd (.inl hconnection) h
  | false =>
      cases isLoss with
      | true => exact absurd (.inr hread) h
      | false =>
          rw [hdirectory, hread]
          rfl

/-- An authentication with a name and a password ends as some trace of it says, which is what it
tells. -/
theorem exists_authTrace_named (hcalm : Effect.IsCalm guard.dispatcher calm)
    (hclassifier : guard.classifier.IsPlain)
    (haccount : (guard.configuration.value .username).IsReadable)
    (husername : username.IsReadable) (staysBound : Bool)
    (hname : username.isTrue = true) (hpassword : password.isTrue = true)
    {start : Transport × World} (hserved : IsServed Outcome.IsClear calm log start) :
    ∃ outcome ending trace,
      exec (guard.authenticateNamed username password staysBound) start = (outcome, ending) ∧
      AuthTrace guard username password staysBound start outcome ending trace ∧
      IsServed Outcome.IsClear calm (log ++ trace) ending := by
  obtain ⟨attemptedWorld, hattempt, hattempted⟩ := exec_announce hcalm hserved
    (shown_of_username husername (.attempting username password) rfl)
  obtain ⟨outcome, tried, userTrace, hbind, huser, htried, hfails⟩ :=
    exists_bindTrace password hcalm hclassifier husername hattempted
  have hnamed : exec (guard.authenticateNamed username password staysBound) start =
      exec (do
        let result ← guard.judge username password outcome
        guard.finish staysBound result) tried := by
    unfold authenticateNamed
    rw [exec_bind, hattempt]
    dsimp only
    rw [exec_bind, exec_observe, hbind]
    rfl
  rw [hnamed]
  rw [List.append_assoc] at htried
  cases outcome with
  | ok made =>
      obtain ⟨judgedWorld, hpass, hjudged⟩ := exec_announce hcalm htried
        (shown_of_username husername (.passed username password) rfl)
      obtain ⟨outcome, ending, accountTrace, hexec, haccount, hended⟩ :=
        exists_accountTrace hcalm hclassifier haccount staysBound hjudged ⟨true, username, none⟩
      refine ⟨_, ending, _, ?_,
        .passed hname hpassword hattempt huser hpass haccount, ?_⟩
      · unfold judge
        rw [bind_assoc, exec_bind, hpass]
        exact hexec
      · simpa only [List.append_assoc] using hended
  | error failure =>
      obtain ⟨hdirectory, hlegible⟩ := hfails failure rfl
      by_cases hloss : failure.IsLoss
      · refine ⟨.error failure, tried, _, ?_, .lost hname hpassword hattempt huser hloss, htried⟩
        unfold judge
        rw [bind_assoc, exec_bind, exec_lift, isRejection_of_isLoss hloss]
        rfl
      · obtain ⟨outcome, ending, accountTrace, hexec, haccount, hended⟩ :=
          exists_accountTrace hcalm hclassifier haccount staysBound htried
            ⟨false, username, some failure⟩
        refine ⟨_, ending, _, ?_,
          .rejected hname hpassword hattempt huser hloss haccount, ?_⟩
        · unfold judge
          rw [bind_assoc, exec_bind, exec_lift,
            isRejection_of_not_isLoss hdirectory hlegible hloss]
          simp only [Bool.not_true, Bool.false_eq_true, if_false]
          rw [bind_assoc, exec_bind, exec_lift, husername.note]
          exact hexec
        · simpa only [List.append_assoc] using hended

/-- An authentication ends as some trace of it says, which is what it tells. -/
theorem exists_authTrace (hcalm : Effect.IsCalm guard.dispatcher calm)
    (hclassifier : guard.classifier.IsPlain)
    (haccount : (guard.configuration.value .username).IsReadable)
    (husername : username.IsReadable) (staysBound : Bool)
    {start : Transport × World} (hserved : IsServed Outcome.IsClear calm log start) :
    ∃ outcome ending trace,
      exec (guard.authenticate username password staysBound) start = (outcome, ending) ∧
      AuthTrace guard username password staysBound start outcome ending trace ∧
      IsServed Outcome.IsClear calm (log ++ trace) ending := by
  have hnothing : IsServed Outcome.IsClear calm (log ++ []) start := by
    rw [List.append_nil]
    exact hserved
  rw [authenticate_eq]
  split
  next hname => exact ⟨_, start, [], rfl, .withoutUsername hname, hnothing⟩
  next hname =>
    have hname := Bool.not_eq_false _ ▸ hname
    split
    next hpassword => exact ⟨_, start, [], rfl, .withoutPassword hname hpassword, hnothing⟩
    next hpassword =>
      exact exists_authTrace_named password hcalm hclassifier haccount husername staysBound hname
        (Bool.not_eq_false _ ▸ hpassword) hserved

/-- A bind that succeeds leaves the transport bound as the user. -/
theorem BindTrace.isBound {start ending : Transport × World} {trace : List Happening}
    (h : BindTrace guard username password start (.ok ()) ending trace) :
    ending.1.isBound = true ∧ ending.1.boundAs = username := by
  cases h with
  | bound hexec hwelcomes hidentity =>
      have hbound := isBound_of_identity hidentity
      unfold identity? at hidentity
      rw [hbound] at hidentity
      exact ⟨hbound, Option.some.inj hidentity⟩

/-- Unless the transport is to stay bound as the user, it ends bound as the account. -/
theorem AccountTrace.isBound {judged ending : Transport × World} {trace : List Happening}
    (h : AccountTrace guard false judged (.ok ()) ending trace) :
    ending.1.isBound = true ∧ ending.1.boundAs = guard.configuration.value .username := by
  cases h with
  | stays h => cases h
  | rebinds h hbind => exact hbind.isBound

/-- An authentication that gives a result, and is not to stay bound as the user, ends bound as the
account. -/
theorem AuthTrace.isBound {result : AuthResult} {start ending : Transport × World}
    {trace : List Happening}
    (h : AuthTrace guard username password false start (.ok result) ending trace) :
    ending.1.isBound = true ∧ ending.1.boundAs = guard.configuration.value .username := by
  generalize houtcome : (.ok result : Except Failure AuthResult) = outcome at h
  cases h with
  | withoutUsername h => cases houtcome
  | withoutPassword husername h => cases houtcome
  | lost husername hpassword hattempt huser hloss => cases houtcome
  | @passed _ _ _ _ outcome _ _ husername hpassword hattempt huser hpass haccount =>
      cases outcome with
      | error failure => cases houtcome
      | ok made => exact haccount.isBound
  | @rejected _ _ _ _ outcome _ _ husername hpassword hattempt huser hnot haccount =>
      cases outcome with
      | error failure => cases houtcome
      | ok made => exact haccount.isBound

/-! ## Sequences of calls -/

/-- A call of a guard. -/
inductive Call where
  | authenticate (username password : Value) (staysBound : Bool)
  | bind (username password : Value)
  | bindAsConfigured

namespace Call

/-- Carry out a call. -/
def perform (guard : Guard) : Call → Action Transport Unit
  | .authenticate username password staysBound => do
    let _ ← guard.authenticate username password staysBound
  | .bind username password => guard.bind username password
  | .bindAsConfigured => guard.bindAsConfigured

/-- The name of the user can be written into a log. -/
def IsReadable : Call → Prop
  | .authenticate username _ _ | .bind username _ => username.IsReadable
  | .bindAsConfigured => True

/-- If the call was to authenticate, returned, and was not to stay bound as the user, the transport
is bound as the account. -/
def Settles (guard : Guard) (outcome : Except Failure Unit) (ending : Transport × World) :
    Call → Prop
  | .authenticate _ _ false => outcome = .ok () →
      ending.1.isBound = true ∧ ending.1.boundAs = guard.configuration.value .username
  | _ => True

end Call

/-- How a call ends and what it tells. -/
inductive CallTrace (guard : Guard) (start : Transport × World) :
    Call → Except Failure Unit → Transport × World → List Happening → Prop
  | authenticate {username password : Value} {staysBound : Bool}
      {outcome : Except Failure AuthResult} {ending : Transport × World} {trace : List Happening}
      (h : AuthTrace guard username password staysBound start outcome ending trace) :
      CallTrace guard start (.authenticate username password staysBound)
        (outcome.map fun _ => ()) ending trace
  | bind {username password : Value} {outcome : Except Failure Unit} {ending : Transport × World}
      {trace : List Happening} (h : BindTrace guard username password start outcome ending trace) :
      CallTrace guard start (.bind username password) outcome ending trace
  | bindAsConfigured {outcome : Except Failure Unit} {ending : Transport × World}
      {trace : List Happening}
      (h : BindTrace guard (guard.configuration.value .username)
        (guard.configuration.value .password) start outcome ending trace) :
      CallTrace guard start .bindAsConfigured outcome ending trace

/-- Carry out calls one after the other, whether or not they fail. -/
def performAll (guard : Guard) : List Call → Action Transport Unit
  | [] => return ()
  | call :: calls => do
    let _ ← (call.perform guard).observe
    guard.performAll calls

/-- What a sequence of calls tells, and where it ends. -/
inductive Course (guard : Guard) :
    List Call → Transport × World → Transport × World → List Happening → Prop
  | nil (start : Transport × World) : Course guard [] start start []
  | cons {call : Call} {calls : List Call} {start between ending : Transport × World}
      {outcome : Except Failure Unit} {trace later : List Happening}
      (hexec : exec (call.perform guard) start = (outcome, between))
      (hcall : CallTrace guard start call outcome between trace)
      (hsettles : call.Settles guard outcome between)
      (hcalls : Course guard calls between ending later) :
      Course guard (call :: calls) start ending (trace ++ later)

/-- A call ends as some trace of it says, which is what it tells. -/
theorem exists_callTrace (hcalm : Effect.IsCalm guard.dispatcher calm)
    (hclassifier : guard.classifier.IsPlain)
    (haccount : (guard.configuration.value .username).IsReadable) {call : Call}
    (hcall : call.IsReadable) {start : Transport × World}
    (hserved : IsServed Outcome.IsClear calm log start) :
    ∃ outcome ending trace, exec (call.perform guard) start = (outcome, ending) ∧
      CallTrace guard start call outcome ending trace ∧ call.Settles guard outcome ending ∧
      IsServed Outcome.IsClear calm (log ++ trace) ending := by
  cases call with
  | authenticate username password staysBound =>
      obtain ⟨outcome, ending, trace, hexec, hauth, hended⟩ :=
        exists_authTrace password hcalm hclassifier haccount hcall staysBound hserved
      refine ⟨_, ending, trace, ?_, .authenticate hauth, ?_, hended⟩
      · unfold Call.perform
        rw [exec_bind, hexec]
        cases outcome <;> rfl
      · cases staysBound with
        | true => exact trivial
        | false =>
            intro hreturned
            cases outcome with
            | error failure => cases hreturned
            | ok result => exact hauth.isBound
  | bind username password =>
      obtain ⟨outcome, ending, trace, hexec, hbind, hended, -⟩ :=
        exists_bindTrace password hcalm hclassifier hcall hserved
      exact ⟨outcome, ending, trace, hexec, .bind hbind, trivial, hended⟩
  | bindAsConfigured =>
      obtain ⟨outcome, ending, trace, hexec, hbind, hended, -⟩ :=
        exists_bindTrace (guard.configuration.value .password) hcalm hclassifier haccount hserved
      exact ⟨outcome, ending, trace, hexec, .bindAsConfigured hbind, trivial, hended⟩

/-- A sequence of calls takes some course, which is what it tells. -/
theorem exists_course (hcalm : Effect.IsCalm guard.dispatcher calm)
    (hclassifier : guard.classifier.IsPlain)
    (haccount : (guard.configuration.value .username).IsReadable) {calls : List Call}
    (hcalls : ∀ call ∈ calls, call.IsReadable) {start : Transport × World}
    (hserved : IsServed Outcome.IsClear calm log start) :
    ∃ ending trace, exec (guard.performAll calls) start = (.ok (), ending) ∧
      Course guard calls start ending trace ∧
      IsServed Outcome.IsClear calm (log ++ trace) ending := by
  induction calls generalizing start log with
  | nil =>
      refine ⟨start, [], rfl, .nil start, ?_⟩
      rw [List.append_nil]
      exact hserved
  | cons call calls ih =>
      obtain ⟨outcome, between, trace, hexec, hcall, hsettles, hbetween⟩ :=
        exists_callTrace hcalm hclassifier haccount (hcalls call List.mem_cons_self) hserved
      obtain ⟨ending, later, hrest, hcourse, hended⟩ :=
        ih (fun other hother => hcalls other (List.mem_cons_of_mem _ hother)) hbetween
      refine ⟨ending, trace ++ later, ?_, .cons hexec hcall hsettles hcourse, ?_⟩
      · unfold performAll
        rw [exec_bind, exec_observe, hexec]
        exact hrest
      · rw [← List.append_assoc]
        exact hended

/-- Whatever is asked of a guard, as long as what fails are directory operations and no listener
does, what it tells is the trace of a course. -/
theorem performAll_tells_course (hcalm : Effect.IsCalm guard.dispatcher calm)
    (hclassifier : guard.classifier.IsPlain)
    (haccount : (guard.configuration.value .username).IsReadable) {calls : List Call}
    (hcalls : ∀ call ∈ calls, call.IsReadable) {start : Transport × World}
    (hserved : IsServed Outcome.IsClear calm start.2.told start) :
    ∃ ending trace, exec (guard.performAll calls) start = (.ok (), ending) ∧
      Course guard calls start ending trace ∧ ending.2.told = start.2.told ++ trace := by
  obtain ⟨ending, trace, hexec, hcourse, hended⟩ :=
    exists_course hcalm hclassifier haccount hcalls hserved
  exact ⟨ending, trace, hexec, hcourse, hended.told⟩

/-- A world in which the first bind is refused, and a logger listens. -/
def rejectingOnce : World :=
  { script := fun queue =>
      if queue = .bind then
        [.gives { response := { code := .int 49, message := .str "invalidCredentials" } }]
      else []
    dispatchers := [({} : Dispatcher).listen [.event] (.logger 0 none)] }

/-- Without a name nothing is told, after a rejection the account is bound, and a user who stays
bound passes. -/
theorem rejected_then_passed :
    let calls : List Call := [.authenticate (.str "") (.str "pw") false,
      .authenticate (.str "jdoe") (.str "typo") false,
      .authenticate (.str "jdoe") (.str "pw") true]
    let start : Transport × World := (Transport.direct 0, rejectingOnce)
    Effect.IsCalm ofAdmin.dispatcher Effect.IsQuiet ∧ ofAdmin.classifier.IsPlain ∧
      (ofAdmin.configuration.value .username).IsReadable ∧ (∀ call ∈ calls, call.IsReadable) ∧
      IsServed Outcome.IsClear Effect.IsQuiet start.2.told start ∧
      ∃ ending trace, exec (ofAdmin.performAll calls) start = (.ok (), ending) ∧
        Course ofAdmin calls start ending trace ∧
        trace.map Happening.eventClass = [.attempting, .binding, .failed, .binding, .bound,
          .attempting, .binding, .bound, .passed] := by
  intro calls start
  have hcalm : Effect.IsCalm ofAdmin.dispatcher Effect.IsQuiet := Effect.isCalm_isQuiet _
  have hclassifier : ofAdmin.classifier.IsPlain := ⟨by simp [ofAdmin], by simp [ofAdmin]⟩
  have haccount : (ofAdmin.configuration.value .username).IsReadable := Value.isReadable_str _
  have hcalls : ∀ call ∈ calls, call.IsReadable := by
    simp [calls, Call.IsReadable, Value.isReadable_str]
  have hserved : IsServed Outcome.IsClear Effect.IsQuiet start.2.told start := by
    refine ⟨Value.isReadable_null, fun _ hlink => ?_, fun queue outcome hmem _ => ?_,
      ⟨rfl, fun _ => rfl⟩, rfl⟩
    · cases hlink
    by_cases hqueue : queue = .bind
    · subst hqueue
      obtain rfl := List.mem_singleton.1 hmem
      refine ⟨⟨⟨49, rfl⟩, ⟨_, rfl⟩, ⟨_, rfl⟩⟩, fun _ hfails => ?_⟩
      cases hfails
    · simp [start, rejectingOnce, hqueue] at hmem
  obtain ⟨ending, trace, hexec, hcourse, htold⟩ :=
    performAll_tells_course hcalm hclassifier haccount hcalls hserved
  refine ⟨hcalm, hclassifier, haccount, hcalls, hserved, ending, trace, hexec, hcourse, ?_⟩
  have hclasses : (exec (ofAdmin.performAll calls) start).2.2.told.map Happening.eventClass =
      [.attempting, .binding, .failed, .binding, .bound, .attempting, .binding, .bound,
        .passed] := by
    decide +kernel
  rw [hexec] at hclasses
  rw [← hclasses, htold]
  rfl

end Guard

end Directory
