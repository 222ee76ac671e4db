import Directory.Proofs.Guard.Operations
import Directory.Proofs.Transport.Call
import Directory.Proofs.Veil

/-!
# Transports and guards behind the veil

A transport sends passwords and keeps them in the history of its exchanges, and that is all it does
with them; a guard gives them to its transport and to the listeners. So each operation does behind
the veil what it does in the open.
-/

namespace Directory

open Directory.Action

variable {α : Type}

/-- A transport with the passwords of its exchanges veiled. -/
def Transport.veiled (transport : Transport) : Transport :=
  { transport with history := transport.history.map Exchange.veiled }

namespace Transport

/-! ## Requests -/

theorem veils_choose {directly overWire plainDirectly plainOverWire : Action Transport α}
    (hdirect : Veils veiled directly plainDirectly) (hwire : Veils veiled overWire plainOverWire) :
    Veils veiled (choose directly overWire) (choose plainDirectly plainOverWire) :=
  Veils.state_bind fun _ => Veils.ite hdirect hwire

theorem veils_directAsk (request : Request) :
    Veils veiled (Direct.ask request) (Direct.ask request.veiled) := by
  have hqueue : request.veiled.queue = request.queue := by cases request <;> rfl
  refine Veils.state_bind fun transport => ?_
  dsimp only [veiled]
  rw [hqueue]
  split
  · exact Veils.outside (Effect.Veils.bind (Effect.veils_record (.direct _ request)) fun _ =>
      Effect.veils_take _)
  · exact Veils.pure _

theorem veils_wireAsk (request : WireRequest) :
    Veils veiled (Wire.ask request) (Wire.ask request.veiled) := by
  intro start
  have hqueue : request.veiled.queue? = request.queue? := by cases request <;> rfl
  have hanswer : start.2.veiled.answerTo request.veiled = start.2.answerTo request := by
    unfold World.answerTo
    rw [hqueue]
    rfl
  have hhandle (handle : Handle) (outcome : Outcome) :
      handle.afterCall request.veiled outcome = handle.afterCall request outcome := by
    cases request <;> cases outcome <;> rfl
  have htransport : start.1.veiled.afterCall request.veiled (start.2.answerTo request) =
      (start.1.afterCall request (start.2.answerTo request)).veiled := by
    unfold Transport.afterCall veiled
    simp only [hhandle]
    rfl
  have hworld : start.2.veiled.afterCall request.veiled = (start.2.afterCall request).veiled := by
    unfold World.afterCall
    rw [hqueue]
    cases request.queue? <;> simp [World.veiled, World.afterTake, Record.veiled]
  rw [exec_ask, exec_ask]
  dsimp only
  rw [hanswer, htransport, hworld]

theorem veils_setLink (isOpen : Bool) (last : Response) :
    Veils veiled (Direct.setLink isOpen last) (Direct.setLink isOpen last) := by
  refine Veils.change fun transport => ?_
  dsimp only [veiled]
  split <;> rfl

/-- An operation on a handle fails behind the veil as it fails in the open. -/
theorem veils_guarded {name : String} {operation plain : Action Transport α}
    (h : Veils veiled operation plain) :
    Veils veiled (Wire.guarded name operation) (Wire.guarded name plain) := by
  intro start
  let hidden : Transport × World := (start.1.veiled, start.2.veiled)
  have hsame : hidden.1.isConnected = start.1.isConnected := rfl
  cases hconnected : start.1.isConnected with
  | false =>
      rw [exec_guarded_of_not_connected hconnected,
        exec_guarded_of_not_connected (hsame.trans hconnected)]
  | true =>
      have hafter (transport : Transport) (failure : Failure) :
          transport.veiled.afterFailure failure = (transport.afterFailure failure).veiled := by
        rw [afterFailure_eq, afterFailure_eq]
        rfl
      rw [exec_guarded hconnected, exec_guarded (hsame.trans hconnected), h start]
      generalize exec operation start = ended
      obtain ⟨failure | result, ending⟩ := ended
      · dsimp only
        rw [hafter]
        rfl
      · rfl

theorem veils_refused (name : String) :
    Veils veiled (Wire.refused name : Action Transport α) (Wire.refused name) :=
  Veils.state_bind fun _ => Veils.bind (Veils.lift _) fun _ => Veils.bind (Veils.lift _) fun _ =>
    Veils.bind (Veils.lift _) fun _ => Veils.throw _

theorem veils_check (value : Value) (name : String) :
    Veils veiled (Wire.check value name) (Wire.check value name) :=
  Veils.ite (Veils.pure _) (veils_refused name)

theorem veils_response : Veils veiled Wire.response Wire.response :=
  Veils.state_bind fun _ => Veils.lift _

/-! ## Opening and closing -/

theorem veils_wireClose : Veils veiled Wire.close Wire.close := by
  have hend (wasClosed : Bool) : Veils veiled ((do
      Action.change fun transport => { transport with link := .wire none }
      Action.change released
      return Value.bool wasClosed) : Action Transport Value) (do
      Action.change fun transport => { transport with link := .wire none }
      Action.change released
      return Value.bool wasClosed) :=
    Veils.bind (Veils.change fun _ => rfl) fun _ =>
      Veils.bind (Veils.change fun _ => rfl) fun _ => Veils.pure _
  refine Veils.state_bind fun transport => ?_
  refine Veils.ite (Veils.state_bind fun _ => Veils.bind (Veils.lift _) fun _ =>
    Veils.bind (veils_wireAsk .unbind).observe fun result => ?_)
    (Veils.bind (Veils.pure _) hend)
  cases result with
  | ok answer => exact Veils.bind (Veils.pure _) hend
  | error failure =>
      exact Veils.ite (Veils.bind (Veils.pure _) hend) (Veils.bind (Veils.throw _) hend)

theorem veils_close : Veils veiled close close :=
  veils_choose (Veils.bind (veils_directAsk .close) fun _ => Veils.state_bind fun _ =>
    Veils.bind (veils_setLink _ _) fun _ => Veils.bind (Veils.change fun _ => rfl) fun _ =>
    Veils.pure _) veils_wireClose

theorem veils_connect (host port : Value) :
    Veils veiled (connect host port) (connect host port) := by
  refine veils_choose ?_ ?_
  · exact Veils.state_bind fun transport =>
      Veils.bind (veils_directAsk (.connect host port transport.options)) fun _ =>
      Veils.state_bind fun _ => Veils.bind (Veils.lift _) fun _ =>
      Veils.bind (Veils.change fun _ => rfl) fun _ => Veils.bind (veils_setLink _ _) fun _ =>
      Veils.pure _
  · exact Veils.bind veils_wireClose fun _ => Veils.state_bind fun _ =>
      Veils.bind (Veils.lift _) fun address => Veils.bind (Veils.change fun _ => rfl) fun _ =>
      Veils.bind (Veils.lift _) fun _ => Veils.state_bind fun transport =>
      Veils.bind (Veils.lift _) fun timeout =>
      Veils.bind (veils_wireAsk (.server address transport.usesSsl timeout)) fun _ =>
      Veils.bind (Veils.lift _) fun version => Veils.bind (Veils.lift _) fun follows =>
      Veils.bind (veils_wireAsk (.client version timeout follows.isTrue)) fun _ =>
      Veils.bind (Veils.change fun _ => rfl) fun _ => Veils.pure _

/-! ## Protecting and binding -/

theorem veils_startTls : Veils veiled startTls startTls := by
  have hstart : Veils veiled (do Wire.check (← Wire.ask .startTls).value "start_tls")
      (do Wire.check (← Wire.ask .startTls).value "start_tls") :=
    Veils.bind (veils_wireAsk .startTls) fun _ => veils_check _ _
  refine veils_choose ?_ ?_
  · exact Veils.bind (veils_directAsk .startTls) fun _ => Veils.pure _
  · exact Veils.state_bind fun _ => Veils.bind (Veils.lift _) fun _ =>
      veils_guarded (Veils.state_bind fun _ =>
        Veils.ite (Veils.bind (veils_wireAsk .open_) fun _ => hstart) hstart)

/-- The password of a bind is sent, and nothing else is done with it. -/
theorem veils_bind (username password : Value) :
    Veils veiled (bind username password) (bind username password.veiled) := by
  refine veils_choose ?_ ?_
  · exact Veils.bind (veils_directAsk (.bind username password)) fun _ =>
      Veils.state_bind fun _ => Veils.bind (veils_setLink _ _) fun _ =>
      Veils.bind (Veils.lift _) fun _ => Veils.bind (Veils.change fun _ => rfl) fun _ =>
      Veils.pure _
  · exact Veils.state_bind fun _ => Veils.bind (Veils.lift _) fun _ =>
      Veils.bind (veils_guarded (Veils.bind (veils_wireAsk (.bind username password)) fun _ =>
        Veils.pure _)) fun _ =>
      Veils.bind veils_response fun _ => Veils.bind (Veils.lift _) fun _ =>
      Veils.bind (Veils.change fun _ => rfl) fun _ => Veils.pure _

/-! ## Searches and changes -/

theorem veils_search (scope : Scope) (base filter attrs limit : Value)
    (controls : Option (List Control)) :
    Veils veiled (search scope base filter attrs limit controls)
      (search scope base filter attrs limit controls) := by
  have hfound (response : Response) : Veils veiled ((do
      let entries ← Wire.entriesOf (((← Action.state).handle?).getD {}).found
      return ⟨.list entries, response⟩) : Action Transport SearchResult) (do
      let entries ← Wire.entriesOf (((← Action.state).handle?).getD {}).found
      return ⟨.list entries, response⟩) :=
    Veils.state_bind fun _ => Veils.bind (Veils.lift _) fun _ => Veils.pure _
  refine veils_choose ?_ ?_
  · exact Veils.bind (veils_directAsk (.search scope base filter attrs limit controls)) fun _ =>
      Veils.pure _
  · refine Veils.bind (Veils.lift _) fun _ => Veils.bind (Veils.lift _) fun parts =>
      veils_guarded (Veils.bind (veils_wireAsk (.search scope base filter (attrs.orElse (.str "*"))
        limit parts.1 parts.2)) fun _ => Veils.bind veils_response fun response => ?_)
    exact Veils.ite (Veils.bind (veils_refused _) fun _ => hfound response) (hfound response)

theorem veils_perform (name : String) {request : Request} {wireRequest : WireRequest}
    (hrequest : request.veiled = request) (hwire : wireRequest.veiled = wireRequest) :
    Veils veiled (choose (Direct.perform request) (Wire.perform name wireRequest))
      (choose (Direct.perform request) (Wire.perform name wireRequest)) := by
  have hdirect := veils_directAsk request
  have hcall := veils_wireAsk wireRequest
  rw [hrequest] at hdirect
  rw [hwire] at hcall
  exact veils_choose (Veils.bind hdirect fun _ => Veils.pure _)
    (Veils.bind (Veils.lift _) fun _ => veils_guarded (Veils.bind hcall fun _ => veils_check _ _))

end Transport

/-! ## Guards -/

/-- A configuration with its password veiled. -/
def Configuration.veiled (config : Configuration) : Configuration :=
  config.put .password (config.value .password).veiled

/-- A guard with the password of its account veiled. -/
def Guard.veiled (guard : Guard) : Guard :=
  { guard with configuration := guard.configuration.veiled }

namespace Guard

open Transport

theorem veils_announce (guard : Guard) (happening : Happening) :
    Veils Transport.veiled (guard.announce happening) (guard.veiled.announce happening.veiled) :=
  Veils.state_bind fun transport =>
    Veils.outside (Effect.veils_deliver guard.dispatcher ⟨transport.host, happening⟩)

theorem veils_sendBind (username password : Value) :
    Veils Transport.veiled (sendBind username password) (sendBind username password.veiled) :=
  Veils.state_bind fun _ => Veils.ite
    (Veils.bind Transport.veils_startTls fun _ => Transport.veils_bind username password)
    (Transport.veils_bind username password)

theorem veils_refusal (guard : Guard) (response : Response) :
    Veils Transport.veiled (guard.refusal response) (guard.veiled.refusal response) := by
  refine Veils.state_bind fun transport => Veils.bind (Veils.lift _) fun detail => ?_
  cases detail with
  | some detail =>
      exact Veils.bind (Veils.pure _) fun _ => Veils.bind (Veils.lift _) fun _ =>
        Veils.bind (Veils.lift _) fun _ => Veils.lift _
  | none =>
      exact Veils.bind (Veils.lift _) fun _ => Veils.bind (Veils.lift _) fun _ =>
        Veils.bind (Veils.lift _) fun _ => Veils.lift _

theorem veils_conclude (guard : Guard) (username password : Value)
    (outcome : Except Failure Response) :
    Veils Transport.veiled (guard.conclude username password outcome)
      (guard.veiled.conclude username password.veiled outcome) := by
  cases outcome with
  | error failure =>
      exact Veils.ite (Veils.bind (veils_announce guard (.failed username password (some failure)))
        fun _ => Veils.throw failure) (Veils.throw failure)
  | ok response =>
      have hbound := veils_announce guard (.bound username password)
      refine Veils.bind (Veils.lift _) fun isFailed => Veils.ite ?_ hbound
      exact Veils.bind (veils_refusal guard response) fun failure =>
        Veils.bind (veils_announce guard (.failed username password (some failure))) fun _ =>
          Veils.bind (Veils.throw failure) fun _ => hbound

theorem veils_bind (guard : Guard) (username password : Value) :
    Veils Transport.veiled (guard.bind username password)
      (guard.veiled.bind username password.veiled) := by
  rw [bind_eq, bind_eq]
  exact Veils.bind (veils_announce guard (.binding username password)) fun _ =>
    Veils.bind (veils_sendBind username password).observe fun outcome =>
      veils_conclude guard username password outcome

theorem veils_bindAsConfigured (guard : Guard) :
    Veils Transport.veiled guard.bindAsConfigured guard.veiled.bindAsConfigured :=
  veils_bind guard _ _

theorem veils_judge (guard : Guard) (username password : Value) (outcome : Except Failure Unit) :
    Veils Transport.veiled (guard.judge username password outcome)
      (guard.veiled.judge username password.veiled outcome) := by
  cases outcome with
  | ok made =>
      exact Veils.bind (veils_announce guard (.passed username password)) fun _ => Veils.pure _
  | error failure =>
      refine Veils.bind (Veils.lift _) fun isRejected => Veils.ite ?_ ?_
      · exact Veils.bind (Veils.throw failure) fun _ =>
          Veils.bind (Veils.lift _) fun _ => Veils.pure _
      · exact Veils.bind (Veils.lift _) fun _ => Veils.pure _

/-- An authentication asks of its password only whether there is one. -/
theorem veils_authenticate (guard : Guard) (username password : Value) (staysBound : Bool) :
    Veils Transport.veiled (guard.authenticate username password staysBound)
      (guard.veiled.authenticate username password.veiled staysBound) := by
  rw [authenticate_eq, authenticate_eq, Value.isTrue_veiled]
  refine Veils.ite (Veils.throw _) (Veils.ite (Veils.throw _) ?_)
  refine Veils.bind (veils_announce guard (.attempting username password)) fun _ =>
    Veils.bind (veils_bind guard username password).observe fun outcome =>
      Veils.bind (veils_judge guard username password outcome) fun result => Veils.ite ?_ ?_
  · exact Veils.bind (veils_bindAsConfigured guard) fun _ => Veils.pure result
  · exact Veils.pure result

theorem veils_attempt (guard : Guard) (username password : Value) (staysBound : Bool) :
    Veils Transport.veiled (guard.attempt username password staysBound)
      (guard.veiled.attempt username password.veiled staysBound) :=
  Veils.bind (veils_authenticate guard username password staysBound) fun _ => Veils.pure _

end Guard

end Directory
