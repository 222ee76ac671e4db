import Directory.Proofs.Guard.Identity
import Directory.Proofs.Transport.Opening
import Directory.Proofs.Transport.Served

/-!
# Guards in an orderly world

Where servers fail in an orderly way and listeners do not fail, a guard binds a user if TLS can be
started and the server accepts the bind, and reports the failure if not. Either way it tells that it
binds and then how that ended, and nothing else.
-/

namespace Directory.Guard

open Directory.Action Transport

variable {fits : Failure → Prop} {fair : Queue → Outcome → Prop} {calm : World → Prop}
  {log : List Happening} {guard : Guard} {username : Value} {isOpen : Bool} (password : Value)

/-! ## What is told -/

/-- Only the user's name is shown. -/
theorem shown_of_username (husername : username.IsReadable) (happening : Happening)
    (h : Event.shownParts happening = [("Username: ", username, "")]) :
    ∀ part ∈ Event.shownParts happening, part.2.1.IsReadable := by
  rw [h]
  exact fun _ hpart => List.mem_singleton.1 hpart ▸ husername

theorem shown_of_failed (husername : username.IsReadable) (failure : Option Failure) :
    ∀ part ∈ Event.shownParts (.failed username password failure), part.2.1.IsReadable := by
  intro part hpart
  rcases List.mem_cons.1 hpart with rfl | hpart
  · exact husername
  · exact List.mem_singleton.1 hpart ▸ Value.isReadable_str _

/-- What happens on a transport is told, and changes nothing else. -/
theorem exec_announce (hcalm : Effect.IsCalm guard.dispatcher calm) {start : Transport × World}
    (hstart : IsServed fair calm log start) {happening : Happening}
    (hshown : ∀ part ∈ Event.shownParts happening, part.2.1.IsReadable) :
    ∃ quiet, exec (guard.announce happening) start = (.ok (), (start.1, quiet)) ∧
      IsServed fair calm (log ++ [happening]) (start.1, quiet) := by
  have htext : ∃ text, (⟨start.1.host, happening⟩ : Event).text = .ok text :=
    Event.exists_text hstart.host hshown
  obtain ⟨quiet, hrun, hquiet, hscript, hannounced⟩ := hcalm.run_deliver hstart.calm htext
  have htold : quiet.told = log ++ [happening] := by
    unfold World.told
    rw [hannounced, List.map_append, ← hstart.told]
    rfl
  refine ⟨quiet, ?_, hstart.host, hstart.client, ?_, hquiet, htold⟩
  · unfold announce
    rw [exec_bind, exec_state]
    dsimp only
    rw [exec_outside, hrun]
  · exact fun queue outcome hmem => hstart.script queue outcome (hscript ▸ hmem)

/-- What a bind tells, by how it ends. -/
def bindTrace (username password : Value) : Except Failure Unit → List Happening
  | .ok () => [.binding username password, .bound username password]
  | .error failure => [.binding username password, .failed username password (some failure)]

/-- No connection is made or lost by a bind. -/
theorem filter_bindTrace (outcome : Except Failure Unit) :
    (bindTrace username password outcome).filter (·.eventClass.isA .connectionEvent) = [] := by
  cases outcome <;> rfl

/-! ## Binds -/

theorem meets_sendBind_isServed (hfair : IsFair fits fair)
    (hcalm : Effect.IsCalm guard.dispatcher calm) (husername : username.IsReadable) :
    Meets (IsServed fair calm log) (sendBind username password)
      (fun response ending => IsAnswered fair calm log response ending)
      (IsReported fits fair calm log) := by
  have hbind : Meets (IsServed fair calm log) (Transport.bind username password)
      (fun response ending => IsAnswered fair calm log response ending)
      (IsReported fits fair calm log) :=
    meets_bind_isServed hfair hcalm password husername
  refine Meets.state_bind fun transport => ?_
  dsimp only
  split
  · exact Meets.bind ((meets_startTls_isServed hfair hcalm).restrict fun _ h => h.1) fun _ => hbind
  · exact hbind.restrict fun _ h => h.1

/-- The failure of a bind that was refused can be made. -/
theorem meets_refusal (hfair : IsFair fits fair) (hclassifier : guard.classifier.IsPlain)
    (response : Response) :
    Meets (fun start => IsAnswered fair calm log response start ∧ start.1.isBound = false)
      (guard.refusal response)
      (fun failure ending => IsReported fits fair calm log failure ending)
      (fun _ _ => False) := by
  intro start hstart
  obtain ⟨hanswered, hunbound⟩ := hstart
  obtain ⟨n, message, diagnostic, hdetail⟩ :=
    hanswered.plain.exists_detail (hunbound ▸ hanswered.accepted)
  obtain ⟨last, hlast, hreadable⟩ := hanswered.lastError
  have hmessage := hreadable.orElse ((Value.isReadable_of_exists_str hanswered.plain.message).orElse
    (Value.isReadable_str "Bind failed"))
  obtain ⟨text, htext⟩ := hmessage
  obtain ⟨kind, hfailure, hdirectory⟩ :=
    hclassifier.exists_bindFailure text n message diagnostic
  unfold refusal
  simp only [exec_bind, exec_state, exec_lift, exec_pure, hdetail, hlast, htext, hfailure]
  exact ⟨hdirectory, hfair.made _ _ _ _ fun _ heq => Option.some.inj heq ▸ ⟨⟨_, rfl⟩, ⟨_, rfl⟩⟩,
    hanswered.served⟩

/-- What is made of a bind that failed is its failure, which is told. -/
theorem meets_conclude_error (hcalm : Effect.IsCalm guard.dispatcher calm)
    (husername : username.IsReadable) (failure : Failure) :
    Meets (IsReported fits fair calm log failure)
      (guard.conclude username password (.error failure)) (fun _ _ => False)
      (fun raised ending =>
        IsReported fits fair calm (log ++ [.failed username password (some raised)]) raised
          ending) := by
  intro start hstart
  obtain ⟨quiet, hexec, hserved⟩ := exec_announce hcalm hstart.served
    (shown_of_failed password husername (some failure))
  unfold conclude
  simp only [hstart.directory, if_true, exec_bind, hexec]
  exact ⟨hstart.directory, hstart.fits, hserved⟩

/-- What is made of a bind that was refused is a report, which is told. -/
theorem meets_conclude_refused (hfair : IsFair fits fair)
    (hcalm : Effect.IsCalm guard.dispatcher calm) (hclassifier : guard.classifier.IsPlain)
    (husername : username.IsReadable) (response : Response) :
    Meets (fun start => IsAnswered fair calm log response start ∧ start.1.isBound = false)
      (guard.conclude username password (.ok response)) (fun _ _ => False)
      (fun raised ending =>
        IsReported fits fair calm (log ++ [.failed username password (some raised)]) raised
          ending) := by
  have hfailed (start : Transport × World)
      (h : IsAnswered fair calm log response start ∧ start.1.isBound = false) :
      response.failed = .ok true := by
    unfold Response.failed
    rw [h.1.accepted, h.2]
    rfl
  refine Meets.lift_bind_ok hfailed ?_
  refine Meets.bind ((meets_refusal hfair hclassifier response).mono (fun _ h => h)
    (fun _ _ h => h) fun _ _ h => h.elim) fun failure => ?_
  intro start hstart
  obtain ⟨quiet, hexec, hserved⟩ := exec_announce hcalm hstart.served
    (shown_of_failed password husername (some failure))
  rw [exec_bind, hexec]
  exact ⟨hstart.directory, hstart.fits, hserved⟩

/-- The transport stays bound as the user that was accepted, and that is told. -/
theorem meets_conclude_accepted (hcalm : Effect.IsCalm guard.dispatcher calm)
    (husername : username.IsReadable) (response : Response) :
    Meets (fun start => IsAnswered fair calm log response start ∧ start.1.isBound = true)
      (guard.conclude username password (.ok response))
      (fun _ ending => IsServed fair calm (log ++ [.bound username password]) ending ∧
        ending.1.isBound = true) (fun _ _ => False) := by
  have hfailed (start : Transport × World)
      (h : IsAnswered fair calm log response start ∧ start.1.isBound = true) :
      response.failed = .ok false := by
    unfold Response.failed
    rw [h.1.accepted, h.2]
    rfl
  refine Meets.lift_bind_ok hfailed ?_
  rw [if_neg Bool.false_ne_true]
  intro start hstart
  obtain ⟨hanswered, hbound⟩ := hstart
  obtain ⟨quiet, hexec, hserved⟩ := exec_announce hcalm hanswered.served
    (shown_of_username husername (.bound username password) rfl)
  rw [hexec]
  exact ⟨hserved, hbound⟩

/-- TLS can be started, if it is wanted, and the server accepts the user. -/
def Welcomes (guard : Guard) (username password : Value) (start : Transport × World) : Prop :=
  ∃ response ending, exec (guard.ask username password) start = (.ok response, ending) ∧
    response.successful = .ok true

/-- A user is bound just when the server accepts the user, and otherwise it is reported why not; and
that is what is told. -/
theorem bind_of_isServed (hfair : IsFair fits fair) (hcalm : Effect.IsCalm guard.dispatcher calm)
    (hclassifier : guard.classifier.IsPlain) (husername : username.IsReadable)
    {start : Transport × World} (hserved : IsServed fair calm log start) :
    match exec (guard.bind username password) start with
    | (.ok (), ending) => guard.Welcomes username password start ∧
        IsServed fair calm (log ++ bindTrace username password (.ok ())) ending ∧
        ending.1.isBound = true
    | (.error failure, ending) => ¬ guard.Welcomes username password start ∧
        IsReported fits fair calm (log ++ bindTrace username password (.error failure)) failure
          ending := by
  obtain ⟨quiet, hexec, hannounced⟩ := exec_announce hcalm hserved
    (shown_of_username husername (.binding username password) rfl)
  have hask : exec (guard.ask username password) start =
      exec (sendBind username password) (start.1, quiet) := by
    unfold ask
    rw [exec_bind, hexec]
  have hsent := meets_sendBind_isServed password hfair hcalm husername (start.1, quiet) hannounced
  unfold Welcomes
  rw [bind_eq, exec_bind, hexec, hask]
  dsimp only
  rw [exec_bind, exec_observe]
  cases hsend : exec (sendBind username password) (start.1, quiet) with
  | mk outcome between =>
      rw [hsend] at hsent
      dsimp only
      cases outcome with
      | error failure =>
          obtain ⟨raised, ending, hconclude, hreported⟩ :=
            (meets_conclude_error password hcalm husername failure).exists_error hsent
          rw [hconclude]
          rw [List.append_assoc] at hreported
          refine ⟨?_, hreported⟩
          rintro ⟨_, _, heq, -⟩
          cases heq
      | ok response =>
          cases hbound : between.1.isBound with
          | false =>
              obtain ⟨raised, ending, hconclude, hreported⟩ :=
                (meets_conclude_refused password hfair hcalm hclassifier husername
                  response).exists_error ⟨hsent, hbound⟩
              rw [hconclude]
              rw [List.append_assoc] at hreported
              refine ⟨?_, hreported⟩
              rintro ⟨_, _, heq, haccepted⟩
              cases heq
              rw [hsent.accepted, hbound] at haccepted
              cases haccepted
          | true =>
              obtain ⟨made, ending, hconclude, hended, hstays⟩ :=
                (meets_conclude_accepted password hcalm husername response).exists_ok
                  ⟨hsent, hbound⟩
              rw [hconclude]
              rw [List.append_assoc] at hended
              exact ⟨⟨response, between, rfl, hbound ▸ hsent.accepted⟩, hended, hstays⟩

/-! ## Open transports -/

theorem preserves_isConnected_sendBind (username password : Value) :
    Preserves (·.isConnected = isOpen) (sendBind username password) := by
  refine Preserves.bind Preserves.state fun transport => ?_
  dsimp only
  split
  · exact Preserves.bind Transport.preserves_isConnected_startTls fun _ =>
      Transport.preserves_isConnected_bind username password
  · exact Transport.preserves_isConnected_bind username password

theorem preserves_isConnected_bind (guard : Guard) (username password : Value) :
    Preserves (·.isConnected = isOpen) (guard.bind username password) :=
  preserves_bind (preserves_isConnected_sendBind username password)

/-- On an open transport a user is bound just when the server accepts the user, and the transport
stays open; otherwise it is reported why not. -/
theorem bind_of_isOpen (hcalm : Effect.IsCalm guard.dispatcher calm)
    (hclassifier : guard.classifier.IsPlain) (husername : username.IsReadable)
    {start : Transport × World} (hopen : IsOpen calm log start) :
    match exec (guard.bind username password) start with
    | (.ok (), ending) => guard.Welcomes username password start ∧ IsOpen calm log ending ∧
        ending.1.isBound = true
    | (.error failure, ending) => ¬ guard.Welcomes username password start ∧
        IsReport calm log failure ending := by
  have hended := bind_of_isServed password isFair_isOrderly hcalm hclassifier husername
    hopen.isServed
  have hconnected := preserves_isConnected_bind guard username password start hopen.isConnected
  have hlog (outcome : Except Failure Unit) :
      (start.2.told ++ bindTrace username password outcome).filter
        (·.eventClass.isA .connectionEvent) = log := by
    rw [List.filter_append, filter_bindTrace, List.append_nil]
    exact hopen.isUsual.log
  cases hbind : exec (guard.bind username password) start with
  | mk outcome ending =>
      rw [hbind] at hended hconnected
      cases outcome with
      | error failure =>
          obtain ⟨hnot, hreported⟩ := hended
          exact ⟨hnot, hreported.directory, hlog _ ▸ hreported.served.isUsual⟩
      | ok made =>
          obtain ⟨hwelcomes, hserved, hbound⟩ := hended
          exact ⟨hwelcomes, hlog _ ▸ hserved.isOpen hconnected, hbound⟩

end Directory.Guard
