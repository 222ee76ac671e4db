import Directory.Proofs.Footprint
import Directory.Proofs.Guard.Trace

/-!
# Rejected users

Whom an authentication tells as not recognised. Where listeners do not fail, a bind comes to what
its reply says (`verdict`), and the authentication is judged by that alone. It tells rejected users
from everything else that can go wrong, unless the bind got no reply and the failure for that is a
report of a directory operation that does not read like the loss of the server.
-/

namespace Directory

open Directory.Action

/-- The world without what is asked and answered. -/
def World.aside (world : World) : World :=
  { world with script := fun _ => [], records := [] }

namespace Effect

theorem isRemote_aside : IsRemote World.aside where
  requests := fun _ _ _ _ => rfl
  script := fun _ _ => rfl

/-- Nothing that is asked and answered makes listeners fail. -/
theorem IsCalm.of_aside_eq {number : Option Nat} {calm : World → Prop} (h : IsCalm number calm)
    {world other : World} (hworld : calm world) (haside : other.aside = world.aside) :
    calm other := by
  have hother : other = { world with script := other.script, records := other.records } := by
    cases world
    cases other
    simp only [World.aside, World.mk.injEq] at haside ⊢
    simp [haside]
  rw [hother]
  exact h.apart world other.script other.records hworld

end Effect

namespace Transport

variable {host : Value}

theorem preserves_host_startTls : Preserves (·.host = host) startTls :=
  preserves_startTls_of (fun _ _ _ h => h) fun _ h => h

theorem preserves_host_bind (username password : Value) :
    Preserves (·.host = host) (bind username password) :=
  preserves_bind_of (fun _ _ _ h => h) (fun _ h => h) (fun _ _ _ _ _ _ h => h) (fun _ _ _ h => h)
    username password

end Transport

namespace Guard

variable {calm : World → Prop} {guard : Guard} {username password : Value}
  {start ended : Transport × World} {staysBound : Bool} {failure : Failure}

/-! ## What a reply means -/

/-- What happens on the transport can be told, and no listener fails to hear it. -/
structure IsHeard (calm : World → Prop) (start : Transport × World) : Prop where
  host : start.1.host.IsReadable
  calm : calm start.2

theorem preserves_host_sendBind {host : Value} (username password : Value) :
    Preserves (·.host = host) (sendBind username password) := by
  refine Preserves.bind Preserves.state fun transport => ?_
  dsimp only
  split
  · exact Preserves.bind Transport.preserves_host_startTls fun _ =>
      Transport.preserves_host_bind username password
  · exact Transport.preserves_host_bind username password

theorem isHeard_sendBind (hcalm : Effect.IsCalm guard.dispatcher calm) (username password : Value)
    (hstart : IsHeard calm start) : IsHeard calm (exec (sendBind username password) start).2 where
  host := by
    rw [preserves_host_sendBind username password start rfl]
    exact hstart.host
  calm := hcalm.of_aside_eq hstart.calm
    (spares_sendBind Effect.isRemote_aside username password start)

theorem exec_announce_of_isHeard (hcalm : Effect.IsCalm guard.dispatcher calm)
    (hstart : IsHeard calm start) {happening : Happening}
    (hshown : ∀ part ∈ Event.shownParts happening, part.2.1.IsReadable) :
    ∃ heard, exec (guard.announce happening) start = (.ok (), heard) ∧ IsHeard calm heard ∧
      heard.1 = start.1 := by
  have htext : ∃ text, (⟨start.1.host, happening⟩ : Event).text = .ok text :=
    Event.exists_text hstart.host hshown
  obtain ⟨quiet, hrun, hquiet⟩ := hcalm.deliver start.2 _ hstart.calm htext
  refine ⟨(start.1, quiet), ?_, ⟨hstart.host, hquiet⟩, rfl⟩
  unfold announce
  rw [exec_bind, exec_state]
  dsimp only
  rw [exec_outside, hrun]

/-- Making the failure of a refused bind changes nothing. -/
theorem exec_refusal_snd (guard : Guard) (response : Response) (start : Transport × World) :
    (exec (guard.refusal response) start).2 = start := by
  have hworld : Spares id (guard.refusal response) := spares_refusal guard response
  exact Prod.ext (preserves_refusal (· = start.1) guard response start rfl) (hworld start)

/-- What a bind comes to, given the reply to it or the failure to get one. -/
def verdict (guard : Guard) :
    Except Failure Response × (Transport × World) → Except Failure Unit
  | (.error failure, _) => .error failure
  | (.ok response, replied) => do
    if ← response.failed then throw (← (exec (guard.refusal response) replied).1)

/-- What is made of a reply is its verdict, if listeners do not fail. -/
theorem exec_conclude (hcalm : Effect.IsCalm guard.dispatcher calm)
    (husername : username.IsReadable) (outcome : Except Failure Response)
    (hstart : IsHeard calm start) :
    ∃ ended, exec (guard.conclude username password outcome) start =
      (guard.verdict (outcome, start), ended) ∧ IsHeard calm ended := by
  cases outcome with
  | error failure =>
      unfold conclude verdict
      dsimp only
      split
      · obtain ⟨heard, hexec, hheard, -⟩ := exec_announce_of_isHeard hcalm hstart
          (shown_of_failed password husername (some failure))
        rw [exec_bind, hexec]
        exact ⟨heard, rfl, hheard⟩
      · exact ⟨start, rfl, hstart⟩
  | ok response =>
      unfold conclude verdict
      dsimp only
      rw [exec_bind, exec_lift]
      cases response.failed with
      | error unreadable => exact ⟨start, rfl, hstart⟩
      | ok isFailed =>
          cases isFailed with
          | false =>
              obtain ⟨heard, hexec, hheard, -⟩ := exec_announce_of_isHeard hcalm hstart
                (shown_of_username husername (.bound username password) rfl)
              exact ⟨heard, hexec, hheard⟩
          | true =>
              have hsame := exec_refusal_snd guard response start
              dsimp only
              rw [if_pos rfl, exec_bind]
              generalize exec (guard.refusal response) start = made at hsame ⊢
              obtain ⟨result, between⟩ := made
              obtain rfl : between = start := hsame
              cases result with
              | error unreadable => exact ⟨between, rfl, hstart⟩
              | ok refusal =>
                obtain ⟨heard, hexec, hheard, -⟩ := exec_announce_of_isHeard hcalm hstart
                  (shown_of_failed password husername (some refusal))
                dsimp only
                rw [exec_bind, hexec]
                exact ⟨heard, rfl, hheard⟩

/-- A bind comes to the verdict on the reply to it, if listeners do not fail. -/
theorem exec_bind_of_isHeard (password : Value) (hcalm : Effect.IsCalm guard.dispatcher calm)
    (husername : username.IsReadable) (hstart : IsHeard calm start) :
    ∃ ended, exec (guard.bind username password) start =
      (guard.verdict (exec (guard.ask username password) start), ended) ∧ IsHeard calm ended := by
  obtain ⟨heard, hexec, hheard, -⟩ := exec_announce_of_isHeard hcalm hstart
    (shown_of_username husername (.binding username password) rfl)
  have hsent := isHeard_sendBind hcalm username password hheard
  unfold ask
  rw [bind_eq, exec_bind, exec_bind, hexec]
  dsimp only
  rw [exec_bind, exec_observe]
  exact exec_conclude hcalm husername _ hsent

/-- A user passes just if the server accepted the bind. -/
theorem verdict_eq_ok_iff {reply : Except Failure Response} {replied : Transport × World} :
    guard.verdict (reply, replied) = .ok () ↔
      ∃ response, reply = .ok response ∧ response.successful = .ok true := by
  constructor
  · intro h
    cases reply with
    | error failure => cases h
    | ok response =>
        refine ⟨response, rfl, ?_⟩
        unfold verdict Response.failed at h
        dsimp only at h
        cases hsuccess : response.successful with
        | error unreadable =>
            rw [hsuccess] at h
            cases h
        | ok isAccepted =>
            rw [hsuccess] at h
            cases isAccepted with
            | true => rfl
            | false =>
                cases hmade : (exec (guard.refusal response) replied).1 with
                | error unreadable =>
                    rw [hmade] at h
                    cases h
                | ok refusal =>
                    rw [hmade] at h
                    cases h
  · rintro ⟨response, rfl, haccepted⟩
    unfold verdict Response.failed
    dsimp only
    rw [haccepted]
    rfl

/-- The verdict on a user whom the server refused is the failure that is made of its response. -/
theorem verdict_of_refusal {response : Response} {replied : Transport × World} {refusal : Failure}
    (hrefused : response.successful = .ok false)
    (hmade : (exec (guard.refusal response) replied).1 = .ok refusal) :
    guard.verdict (.ok response, replied) = .error refusal := by
  unfold verdict Response.failed
  dsimp only
  rw [hrefused, hmade]
  rfl

/-! ## What an authentication makes of it -/

/-- Announce that a user is to be authenticated, and ask the server. -/
def inquire (guard : Guard) (username password : Value) : Action Transport Response := do
  guard.announce (.attempting username password)
  guard.ask username password

/-- A reply to a bind says whether the server accepted the user. -/
theorem exists_successful_of_inquire {response : Response}
    (h : exec (guard.inquire username password) start = (.ok response, ended)) :
    ∃ isAccepted, response.successful = .ok isAccepted := by
  obtain ⟨_, announced, -, hask⟩ := exec_bind_eq_ok_iff.1 h
  obtain ⟨_, between, -, hsend⟩ := exec_bind_eq_ok_iff.1 hask
  obtain ⟨isAccepted, hsuccess, -⟩ :=
    (meets_sendBind_identity between.1.identity? username password).ok (.inr rfl) hsend
  exact ⟨isAccepted, hsuccess⟩

/-- After the bind was sent, an authentication judges the verdict on the reply. -/
theorem exec_authenticate_of_isHeard (staysBound : Bool)
    (hcalm : Effect.IsCalm guard.dispatcher calm) (husername : username.IsReadable)
    (hnamed : username.isTrue = true) (hgiven : password.isTrue = true)
    (hstart : IsHeard calm start) :
    ∃ bound, IsHeard calm bound ∧ exec (guard.authenticate username password staysBound) start =
      exec (do
        let result ← guard.judge username password
          (guard.verdict (exec (guard.inquire username password) start))
        if !staysBound then guard.bindAsConfigured
        return result) bound := by
  obtain ⟨heard, hexec, hheard, -⟩ := exec_announce_of_isHeard hcalm hstart
    (shown_of_username husername (.attempting username password) rfl)
  obtain ⟨bound, hbind, hbound⟩ :=
    exec_bind_of_isHeard password hcalm husername hheard
  have hinquire : exec (guard.inquire username password) start =
      exec (guard.ask username password) heard := by
    rw [inquire, exec_bind, hexec]
  refine ⟨bound, hbound, ?_⟩
  rw [hinquire, authenticate_eq, hnamed, hgiven, if_neg Bool.noConfusion, if_neg Bool.noConfusion,
    authenticateNamed, exec_bind, hexec]
  dsimp only
  rw [exec_bind, exec_observe, hbind]

/-- Only values that are no texts cannot be joined. -/
theorem wrongType_of_join {separator : String} {values : List Value} {unreadable : Failure}
    (h : Value.join separator values = .error unreadable) : unreadable = Failure.wrongType := by
  unfold Value.join at h
  generalize hmap : (values.mapM _ : Except Failure (List String)) = texts at h
  cases texts with
  | ok texts => cases h
  | error first =>
      cases h
      obtain ⟨value, -, hvalue⟩ := exists_mem_of_mapM_error hmap
      split at hvalue
      next => cases hvalue
      next => exact (Except.error.inj hvalue).symm

/-- What a failure says is unreadable only where a value in its details has the wrong type. -/
theorem wrongType_of_causedByLostConnection {unreadable : Failure}
    (h : failure.causedByLostConnection = .error unreadable) : unreadable = Failure.wrongType := by
  unfold Failure.causedByLostConnection at h
  split at h
  next => cases h
  next detail _ =>
    generalize hjoin : Value.join " " _ = text at h
    cases text with
    | ok text => cases h
    | error first =>
        cases h
        exact wrongType_of_join hjoin

/-- A failure is no rejection if it is no report of a directory operation or means that the server
was lost. -/
theorem isRejection_eq_false_iff :
    isRejection failure = .ok false ↔ (failure.isDirectory = true → failure.IsLoss) := by
  unfold isRejection Failure.IsLoss
  cases failure.isDirectory with
  | false => exact ⟨fun _ h => Bool.noConfusion h, fun _ => rfl⟩
  | true =>
      cases failure.isA .connection with
      | true => exact ⟨fun _ _ => .inl rfl, fun _ => rfl⟩
      | false =>
          cases failure.causedByLostConnection with
          | error unreadable =>
              refine iff_of_false (fun h => by cases h) fun h => ?_
              exact (h rfl).elim Bool.noConfusion fun h => by cases h
          | ok isLost =>
              cases isLost with
              | true => exact ⟨fun _ _ => .inr rfl, fun _ => rfl⟩
              | false =>
                  refine iff_of_false (fun h => by cases h) fun h => ?_
                  exact (h rfl).elim Bool.noConfusion fun h => by cases h

/-- A failure of which it cannot be read whether it is a rejection is not raised itself. -/
theorem ne_of_isRejection_error {unreadable : Failure}
    (h : isRejection failure = .error unreadable) : unreadable ≠ failure := by
  rintro rfl
  unfold isRejection at h
  split at h
  next => cases h
  next hkind =>
    cases hlost : unreadable.causedByLostConnection with
    | ok isLost =>
        rw [hlost] at h
        cases h
    | error other =>
        rw [hlost] at h
        cases h
        obtain rfl := wrongType_of_causedByLostConnection hlost
        exact hkind rfl

/-- A failure that means a rejection is no loss of the server. -/
theorem not_lost_of_isRejection (h : isRejection failure = .ok true) :
    failure.causedByLostConnection = .ok false := by
  unfold isRejection at h
  split at h
  · cases h
  · cases hlost : failure.causedByLostConnection with
    | error unreadable =>
        rw [hlost] at h
        cases h
    | ok isLost =>
        rw [hlost] at h
        cases isLost with
        | true => cases h
        | false => rfl

/-- Only an authentication with a name and a password gives a result. -/
theorem isTrue_of_authenticate {result : AuthResult}
    (h : exec (guard.authenticate username password staysBound) start = (.ok result, ended)) :
    username.isTrue = true ∧ password.isTrue = true := by
  rw [authenticate_eq] at h
  split at h
  next => cases h
  next hnamed =>
    split at h
    next => cases h
    next hgiven => exact ⟨by simpa using hnamed, by simpa using hgiven⟩

/-- An authentication that gives a result gives what the verdict says. -/
theorem judged_of_authenticate (hcalm : Effect.IsCalm guard.dispatcher calm)
    (husername : username.IsReadable) (hstart : IsHeard calm start) {result : AuthResult}
    (h : exec (guard.authenticate username password staysBound) start = (.ok result, ended)) :
    match guard.verdict (exec (guard.inquire username password) start) with
    | .ok () => result = ⟨true, username, none⟩
    | .error failure =>
      isRejection failure = .ok true ∧ result = ⟨false, username, some failure⟩ := by
  obtain ⟨hnamed, hgiven⟩ := isTrue_of_authenticate h
  obtain ⟨bound, -, hexec⟩ :=
    exec_authenticate_of_isHeard staysBound hcalm husername hnamed hgiven hstart
  rw [hexec] at h
  obtain ⟨judged, between, hjudge, hrest⟩ := exec_bind_eq_ok_iff.1 h
  -- binding the account changes nothing of the result
  have hsame : judged = result := by
    split at hrest
    · obtain ⟨_, _, -, hlast⟩ := exec_bind_eq_ok_iff.1 hrest
      cases hlast
      rfl
    · cases hrest
      rfl
  subst hsame
  cases hverdict : guard.verdict (exec (guard.inquire username password) start) with
  | ok made =>
      rw [hverdict] at hjudge
      obtain ⟨_, _, -, hpassed⟩ := exec_bind_eq_ok_iff.1 hjudge
      cases hpassed
      rfl
  | error failure =>
      rw [hverdict] at hjudge
      obtain ⟨isRejected, _, hrejected, hjudge⟩ := exec_bind_eq_ok_iff.1 hjudge
      have hmeans := (exec_lift_eq_ok_iff.1 hrejected).1
      cases isRejected with
      | false => cases hjudge
      | true =>
          obtain ⟨_, _, -, hgives⟩ := exec_bind_eq_ok_iff.1 hjudge
          cases hgives
          exact ⟨hmeans, rfl⟩

/-- A verdict that is no rejection is raised. -/
theorem raises_of_verdict (staysBound : Bool) (hcalm : Effect.IsCalm guard.dispatcher calm)
    (husername : username.IsReadable) (hnamed : username.isTrue = true)
    (hgiven : password.isTrue = true) (hstart : IsHeard calm start)
    (hverdict : guard.verdict (exec (guard.inquire username password) start) = .error failure)
    (hfailure : isRejection failure = .ok false) :
    ∃ ended, exec (guard.authenticate username password staysBound) start =
      (.error failure, ended) := by
  obtain ⟨bound, -, hexec⟩ := exec_authenticate_of_isHeard staysBound hcalm
    husername hnamed hgiven hstart
  refine ⟨bound, ?_⟩
  rw [hexec, hverdict, exec_bind, judge, exec_bind, exec_lift, hfailure]
  rfl

/-! ## Telling rejections from other failures -/

/-- An authentication, however the transport is to stay bound, tells that the user passed only if
the server accepted the user, and that the user was rejected only if the server answered with a
failure other than its loss; every other failure of the bind is raised. -/
structure JudgesRightly (guard : Guard) (username password : Value) (start : Transport × World) :
    Prop where
  passed : ∀ staysBound result ended,
    exec (guard.authenticate username password staysBound) start = (.ok result, ended) →
    result.isAuthenticated = true →
    ∃ response replied, exec (guard.inquire username password) start = (.ok response, replied) ∧
      response.successful = .ok true
  rejected : ∀ staysBound result ended,
    exec (guard.authenticate username password staysBound) start = (.ok result, ended) →
    result.isAuthenticated = false →
    ∃ response replied failure,
      exec (guard.inquire username password) start = (.ok response, replied) ∧
      response.successful = .ok false ∧ result.failure = some failure ∧
      failure.causedByLostConnection = .ok false ∧
      ∀ refusal, (exec (guard.refusal response) replied).1 = .ok refusal → refusal = failure
  lost : ∀ staysBound response replied refusal, username.isTrue = true → password.isTrue = true →
    exec (guard.inquire username password) start = (.ok response, replied) →
    response.successful = .ok false → (exec (guard.refusal response) replied).1 = .ok refusal →
    refusal.causedByLostConnection = .ok true →
    ∃ ended, exec (guard.authenticate username password staysBound) start = (.error refusal, ended)
  raised : ∀ staysBound failure replied, username.isTrue = true → password.isTrue = true →
    exec (guard.inquire username password) start = (.error failure, replied) →
    ∃ ended, exec (guard.authenticate username password staysBound) start = (.error failure, ended)

variable (hcalm : Effect.IsCalm guard.dispatcher calm) (husername : username.IsReadable)
  (hstart : IsHeard calm start)
include hcalm husername hstart

/-- A result that tells that the user passed comes of a bind that the server accepted. -/
theorem accepted_of_passed {result : AuthResult}
    (h : exec (guard.authenticate username password staysBound) start = (.ok result, ended))
    (hpassed : result.isAuthenticated = true) :
    ∃ response replied, exec (guard.inquire username password) start = (.ok response, replied) ∧
      response.successful = .ok true := by
  have hjudged := judged_of_authenticate hcalm husername hstart h
  cases hverdict : guard.verdict (exec (guard.inquire username password) start) with
  | error failure =>
      rw [hverdict] at hjudged
      obtain ⟨-, rfl⟩ := hjudged
      cases hpassed
  | ok made =>
      obtain ⟨response, hreply, haccepted⟩ := verdict_eq_ok_iff.1 hverdict
      exact ⟨response, _, Prod.ext hreply rfl, haccepted⟩

/-- A result that tells that the user was rejected comes of a bind that the server refused, or of
one that got no reply. -/
theorem refused_of_rejected {result : AuthResult}
    (h : exec (guard.authenticate username password staysBound) start = (.ok result, ended))
    (hrejected : result.isAuthenticated = false) :
    ∃ failure, result.failure = some failure ∧ isRejection failure = .ok true ∧
      ((∃ replied, exec (guard.inquire username password) start = (.error failure, replied)) ∨
        ∃ response replied,
          exec (guard.inquire username password) start = (.ok response, replied) ∧
          response.successful = .ok false ∧
          ∀ refusal, (exec (guard.refusal response) replied).1 = .ok refusal →
            refusal = failure) := by
  have hjudged := judged_of_authenticate hcalm husername hstart h
  cases hverdict : guard.verdict (exec (guard.inquire username password) start) with
  | ok made =>
      rw [hverdict] at hjudged
      rw [hjudged] at hrejected
      cases hrejected
  | error failure =>
      rw [hverdict] at hjudged
      obtain ⟨hmeans, rfl⟩ := hjudged
      refine ⟨failure, rfl, hmeans, ?_⟩
      cases hinquire : exec (guard.inquire username password) start with
      | mk reply replied =>
          rw [hinquire] at hverdict
          cases reply with
          | error raised =>
              cases hverdict
              exact .inl ⟨replied, rfl⟩
          | ok response =>
              obtain ⟨isAccepted, hsuccess⟩ := exists_successful_of_inquire hinquire
              cases isAccepted with
              | true =>
                  cases hverdict.symm.trans (verdict_eq_ok_iff.2 ⟨response, rfl, hsuccess⟩)
              | false =>
                  refine .inr ⟨response, replied, rfl, hsuccess, fun refusal hmade => ?_⟩
                  exact Except.error.inj ((verdict_of_refusal hsuccess hmade).symm.trans hverdict)

/-- An authentication judges rightly just if the bind, where it gets no reply, does not fail with a
report of a directory operation that is not recognised as the loss of the server. -/
theorem judgesRightly_iff :
    guard.JudgesRightly username password start ↔
      (username.isTrue = true → password.isTrue = true → ∀ failure replied,
        exec (guard.inquire username password) start = (.error failure, replied) →
        failure.isDirectory = true → failure.IsLoss) := by
  constructor
  · intro hjudges hnamed hgiven failure replied hinquire
    refine isRejection_eq_false_iff.1 ?_
    -- where the account is not bound afterwards, nothing else can raise the failure
    obtain ⟨ended, hraised⟩ := hjudges.raised true failure replied hnamed hgiven hinquire
    obtain ⟨bound, -, hexec⟩ :=
      exec_authenticate_of_isHeard true hcalm husername hnamed hgiven hstart
    rw [hexec, hinquire, verdict, judge, bind_assoc, exec_bind, exec_lift] at hraised
    cases hmeans : isRejection failure with
    | error unreadable =>
        rw [hmeans] at hraised
        exact absurd (Except.error.inj (Prod.mk.inj hraised).1) (ne_of_isRejection_error hmeans)
    | ok isRejected =>
        cases isRejected with
        | false => rfl
        | true =>
            have hnote : Value.note [username] = .ok () :=
              Value.note_of_isReadable fun _ hvalue => List.mem_singleton.1 hvalue ▸ husername
            rw [hmeans] at hraised
            simp only [Bool.not_true, Bool.false_eq_true, if_false] at hraised
            rw [bind_assoc, exec_bind, exec_lift, hnote] at hraised
            cases hraised
  · intro hreplies
    constructor
    · exact fun staysBound result ended h hpassed =>
        accepted_of_passed hcalm husername hstart h hpassed
    · intro staysBound result ended h hrejected
      obtain ⟨failure, hfailure, hmeans, hrest⟩ :=
        refused_of_rejected hcalm husername hstart h hrejected
      have hlost := not_lost_of_isRejection hmeans
      rcases hrest with ⟨replied, hinquire⟩ | ⟨response, replied, hinquire, hrefused, hmade⟩
      · obtain ⟨hnamed, hgiven⟩ := isTrue_of_authenticate h
        have hnot := isRejection_eq_false_iff.2 (hreplies hnamed hgiven failure replied hinquire)
        cases hmeans.symm.trans hnot
      · exact ⟨response, replied, failure, hinquire, hrefused, hfailure, hlost, hmade⟩
    · intro staysBound response replied refusal hnamed hgiven hinquire hrefused hmade hlost
      refine raises_of_verdict staysBound hcalm husername hnamed hgiven hstart ?_
        (isRejection_of_isLoss (.inr hlost))
      rw [hinquire]
      exact verdict_of_refusal hrefused hmade
    · intro staysBound failure replied hnamed hgiven hinquire
      refine raises_of_verdict staysBound hcalm husername hnamed hgiven hstart ?_
        (isRejection_eq_false_iff.2 (hreplies hnamed hgiven failure replied hinquire))
      rw [hinquire]
      rfl

omit hcalm husername hstart

/-- A world in which the server refuses a bind. -/
def refusingUser : World :=
  { script := fun
      | .wire .bind =>
        [.gives { value := .bool false, result := .dict [(.str "result", .int 49)] }]
      | _ => [] }

/-- A world in which TLS cannot be started. -/
def untrusted : World :=
  { script := fun
      | .wire .startTls =>
        [.fails { kind := .wire .startTls, text := some "certificate verify failed" }]
      | _ => [] }

/-- An open transport that is to start TLS. -/
def securedWire : Transport :=
  { openWire with usesTls := .bool true }

/-- A user whom the server refuses is rejected, and rightly so. -/
theorem refusedUser_judgesRightly :
    Effect.IsCalm ofAdmin.dispatcher Effect.IsQuiet ∧ (Value.str "jdoe").IsReadable ∧
      IsHeard Effect.IsQuiet (securedWire, refusingUser) ∧
      ofAdmin.JudgesRightly (.str "jdoe") (.str "wrong") (securedWire, refusingUser) := by
  have hcalm := Effect.isCalm_isQuiet ofAdmin.dispatcher
  have husername := Value.isReadable_str "jdoe"
  have hstart : IsHeard Effect.IsQuiet (securedWire, refusingUser) :=
    ⟨Value.isReadable_str _, rfl, fun _ => rfl⟩
  have hreply : (exec (ofAdmin.inquire (.str "jdoe") (.str "wrong"))
      (securedWire, refusingUser)).1.isOk = true := by decide +kernel
  refine ⟨hcalm, husername, hstart, (judgesRightly_iff hcalm husername hstart).2 ?_⟩
  intro _ _ failure replied hinquire
  rw [hinquire] at hreply
  cases hreply

/-- Where TLS cannot be started, the user is told to be rejected, though no bind was sent. -/
theorem untrustedServer_rejects_user :
    Effect.IsCalm ofAdmin.dispatcher Effect.IsQuiet ∧ (Value.str "jdoe").IsReadable ∧
      IsHeard Effect.IsQuiet (securedWire, untrusted) ∧
      ¬ ofAdmin.JudgesRightly (.str "jdoe") (.str "pw") (securedWire, untrusted) := by
  have hstart : IsHeard Effect.IsQuiet (securedWire, untrusted) :=
    ⟨Value.isReadable_str _, rfl, fun _ => rfl⟩
  refine ⟨Effect.isCalm_isQuiet _, Value.isReadable_str _, hstart, fun hjudges => ?_⟩
  have hreply : (exec (ofAdmin.inquire (.str "jdoe") (.str "pw"))
      (securedWire, untrusted)).1.isOk = false := by decide +kernel
  have hresult : (exec (ofAdmin.authenticate (.str "jdoe") (.str "pw") true)
      (securedWire, untrusted)).1.isOk = true := by decide +kernel
  cases hinquire : exec (ofAdmin.inquire (.str "jdoe") (.str "pw")) (securedWire, untrusted) with
  | mk reply replied =>
      cases reply with
      | ok response =>
          rw [hinquire] at hreply
          cases hreply
      | error failure =>
          obtain ⟨ended, hraised⟩ := hjudges.raised true failure replied rfl rfl hinquire
          rw [hraised] at hresult
          cases hresult

end Guard

end Directory
