import Directory.Transport.Operations
import Directory.Proofs.Effect
import Directory.Proofs.Legible
import Directory.Proofs.Triple

/-!
# Calls on wire clients

What a call does to the transport and to the world, as an equation: the script decides its outcome,
and `Transport.afterCall` what is left of it. `exec_guarded` says how the failures of an operation
are turned into those of this library.
-/

namespace Directory

namespace World

/-- The outcome of a call on a wire client. -/
def answerTo (world : World) (request : WireRequest) : Outcome :=
  request.queue?.elim (.gives {}) world.next

/-- The world after a call on a wire client. -/
def afterCall (world : World) (request : WireRequest) : World :=
  let recorded := { world with records := world.records ++ [.wire request] }
  request.queue?.elim recorded recorded.afterTake

end World

namespace Transport

open Directory.Action

variable {α : Type}

theorem isConnected_afterCall (transport : Transport) (request : WireRequest) (outcome : Outcome) :
    (transport.afterCall request outcome).isConnected = transport.isConnected := by
  unfold afterCall isConnected
  cases transport.link with
  | direct => rfl
  | wire handle => cases handle <;> rfl

theorem exec_outcomeOf (request : WireRequest) (transport : Transport) (world : World) :
    exec (Wire.outcomeOf request)
        (transport, { world with records := world.records ++ [.wire request] }) =
      (.ok (world.answerTo request), (transport, world.afterCall request)) := by
  unfold Wire.outcomeOf World.answerTo World.afterCall
  cases request.queue? with
  | none => rfl
  | some queue =>
      have hnext :
          ({ world with records := world.records ++ [.wire request] } : World).next queue =
            world.next queue := rfl
      simp only [exec_bind, exec_observe, exec_outside, Effect.run_take, hnext, Option.elim]
      cases world.next queue <;> rfl

/-- A call has the outcome that the script has for it. -/
theorem exec_ask (request : WireRequest) (start : Transport × World) :
    exec (Wire.ask request) start =
      ((start.2.answerTo request).result,
        (start.1.afterCall request (start.2.answerTo request), start.2.afterCall request)) := by
  unfold Wire.ask
  have hrecord : (Effect.record (.wire request)).run.run start.2 =
      (.ok (), { start.2 with records := start.2.records ++ [.wire request] }) := rfl
  simp only [exec_bind, exec_outside, hrecord, exec_outcomeOf, exec_change]
  cases start.2.answerTo request <;> rfl

theorem link_afterCall {transport : Transport} {handle : Option Handle}
    (hlink : transport.link = .wire handle) (request : WireRequest) (outcome : Outcome) :
    (transport.afterCall request outcome).link =
      .wire (handle.map (·.afterCall request outcome)) := by
  unfold afterCall
  rw [hlink]

theorem handle_of_link {transport : Transport} {handle : Option Handle}
    (hlink : transport.link = .wire handle) : transport.handle? = handle := by
  unfold handle?
  rw [hlink]

theorem isConnected_of_link {transport : Transport} {handle : Option Handle}
    (hlink : transport.link = .wire handle) : transport.isConnected = handle.isSome := by
  unfold isConnected
  rw [hlink]

theorem isDirect_of_link {transport : Transport} {handle : Option Handle}
    (hlink : transport.link = .wire handle) : transport.isDirect = false := by
  unfold isDirect
  rw [hlink]

theorem exists_direct {transport : Transport} (h : transport.isDirect = true) :
    ∃ number isOpen last, transport.link = .direct number isOpen last := by
  unfold isDirect at h
  cases hlink : transport.link with
  | direct number isOpen last => exact ⟨number, isOpen, last, rfl⟩
  | wire handle =>
      rw [hlink] at h
      cases h

theorem exists_wire {transport : Transport} (h : transport.isDirect = false) :
    ∃ handle, transport.link = .wire handle := by
  unfold isDirect at h
  cases hlink : transport.link with
  | direct number isOpen last =>
      rw [hlink] at h
      cases h
  | wire handle => exact ⟨handle, rfl⟩

theorem exists_handle {transport : Transport} (hwire : transport.isDirect = false)
    (hconnected : transport.isConnected = true) :
    ∃ handle, transport.link = .wire (some handle) := by
  obtain ⟨handle, hlink⟩ := exists_wire hwire
  rw [isConnected_of_link hlink] at hconnected
  obtain ⟨held, rfl⟩ := Option.isSome_iff_exists.1 hconnected
  exact ⟨held, hlink⟩

/-- The response to the last operation is read from the handle, or from a new one. -/
theorem exec_response (start : Transport × World) :
    exec Wire.response start = ((start.1.handle?.getD {}).response, start) := by
  unfold Wire.response
  rw [exec_bind, exec_state]
  exact exec_lift _ start

/-- A direct link stays the same link when it is opened and closed. -/
theorem exec_setLink (start : Transport × World) {number : Nat} {wasOpen : Bool}
    {before : Response} (hlink : start.1.link = .direct number wasOpen before) (isOpen : Bool)
    (last : Response) :
    exec (Direct.setLink isOpen last) start =
      (.ok (), ({ start.1 with link := .direct number isOpen last }, start.2)) := by
  unfold Direct.setLink
  rw [exec_change]
  dsimp only
  rw [hlink]

/-- A request to a direct transport leaves it alone. -/
theorem keeps_directAsk (view : Transport → α) (request : Request) :
    Keeps view (Direct.ask request) := by
  refine Keeps.bind Keeps.state fun transport => ?_
  split
  · exact Keeps.outside _
  · exact Keeps.pure _

/-- A call meets what holds after it, whatever its outcome is. -/
theorem meets_ask {request : WireRequest} {pre : Transport × World → Prop}
    {post : Answer → Transport × World → Prop} {fails : Failure → Transport × World → Prop}
    (hgives : ∀ start answer, pre start →
      post answer (start.1.afterCall request (.gives answer), start.2.afterCall request))
    (hfails : ∀ start failure, pre start →
      fails failure (start.1.afterCall request (.fails failure), start.2.afterCall request)) :
    Meets pre (Wire.ask request) post fails := by
  intro start hstart
  rw [exec_ask]
  cases start.2.answerTo request with
  | fails failure => exact hfails start failure hstart
  | gives answer => exact hgives start answer hstart

/-- The failure that an operation of a wire client is reported by: the loss of the server, a failure
of the client with the details of the last operation, or the failure itself. -/
def reported (transport : Transport) (failure : Failure) : Failure :=
  if failure.isA (.wire .communication) then
    Wire.serverDown (" (" ++ failure.report ++ ")") failure.report (some failure)
  else if failure.isA (.wire .general) then
    match transport.detail with
    | .ok detail =>
      { kind := .directory, text := some failure.report, detail, cause := some failure }
    | .error unreadable => unreadable
  else failure

/-- The transport after an operation of a wire client failed. -/
def afterFailure (transport : Transport) (failure : Failure) : Transport :=
  if failure.isA (.wire .communication) then { transport with isBound := false } else transport

/-- The loss of the server leaves the transport unbound, and that is all a failure changes. -/
theorem afterFailure_eq (transport : Transport) (failure : Failure) :
    transport.afterFailure failure =
      { transport with
        isBound := !failure.isA (.wire .communication) && transport.isBound } := by
  unfold afterFailure
  cases failure.isA (.wire .communication) with
  | true => rfl
  | false => rfl

theorem exec_guarded_of_not_connected {name : String} {operation : Action Transport α}
    {start : Transport × World} (h : start.1.isConnected = false) :
    exec (Wire.guarded name operation) start =
      (.error (Wire.serverDown (" - no connection for [" ++ name ++ "]") "" none), start) := by
  unfold Wire.guarded
  rw [exec_bind, exec_state]
  simp only [h]
  rfl

/-- An operation on a handle gives what it gives, and its failures are reported. -/
theorem exec_guarded {name : String} {operation : Action Transport α} {start : Transport × World}
    (h : start.1.isConnected = true) :
    exec (Wire.guarded name operation) start =
      match exec operation start with
      | (.ok result, ending) => (.ok result, ending)
      | (.error failure, ending) =>
        (.error (ending.1.reported failure), (ending.1.afterFailure failure, ending.2)) := by
  unfold Wire.guarded
  rw [exec_bind, exec_state]
  simp only [h, Bool.not_true, Bool.false_eq_true, if_false, exec_bind, exec_observe]
  obtain ⟨failure | result, ending⟩ := exec operation start
  · cases hlost : failure.isA (.wire .communication) with
    | true => simp [reported, afterFailure, hlost, exec_bind]
    | false =>
        cases hgeneral : failure.isA (.wire .general) with
        | false => simp [reported, afterFailure, hlost, hgeneral]
        | true =>
            cases hdetail : ending.1.detail <;>
              simp [reported, afterFailure, hlost, hgeneral, exec_bind, hdetail]
  · rfl

/-- An operation of a wire client is carried out on a handle, and its failures are reported. -/
theorem meets_guarded {name : String} {operation : Action Transport α}
    {pre : Transport × World → Prop} {post : α → Transport × World → Prop}
    {caught fails : Failure → Transport × World → Prop}
    (h : Meets (fun start => pre start ∧ start.1.isConnected = true) operation post caught)
    (hclosed : ∀ start, pre start → start.1.isConnected = false →
      fails (Wire.serverDown (" - no connection for [" ++ name ++ "]") "" none) start)
    (hfails : ∀ failure ending, caught failure ending →
      fails (ending.1.reported failure) (ending.1.afterFailure failure, ending.2)) :
    Meets pre (Wire.guarded name operation) post fails := by
  intro start hstart
  cases hconnected : start.1.isConnected with
  | false =>
      rw [exec_guarded_of_not_connected hconnected]
      exact hclosed start hstart hconnected
  | true =>
      have hended := h start ⟨hstart, hconnected⟩
      rw [exec_guarded hconnected]
      generalize exec operation start = ended at hended ⊢
      obtain ⟨failure | result, ending⟩ := ended
      · exact hfails failure ending hended
      · exact hended

theorem afterFailure_of {inv : Transport → Prop} {transport : Transport}
    (hunbound : ∀ transport, inv transport → inv { transport with isBound := false })
    (h : inv transport) (failure : Failure) : inv (transport.afterFailure failure) := by
  unfold afterFailure
  split
  · exact hunbound transport h
  · exact h

/-- What keeps a property keeps it as an operation of a wire client, if the loss of the server keeps
it. -/
theorem preserves_guarded {inv : Transport → Prop} {name : String} {operation : Action Transport α}
    (hunbound : ∀ transport, inv transport → inv { transport with isBound := false })
    (h : Preserves inv operation) : Preserves inv (Wire.guarded name operation) := by
  have hoperation := (Meets.of_preserves h).mono
    (fun (start : Transport × World) (hstart : inv start.1 ∧ start.1.isConnected = true) =>
      hstart.1) (fun _ _ hending => hending) fun _ _ hending => hending
  exact Meets.preserves (meets_guarded hoperation (fun _ hstart _ => hstart)
    fun failure _ hending => afterFailure_of hunbound hending failure)

/-- What the result of an answer says as a response. -/
def responseOf (answer : Answer) : Except Failure Response :=
  ({ result := answer.result } : Handle).response

/-- What the answer to a bind says: the server accepted it or refused it, if that can be read. -/
def acceptance (answer : Answer) : Except Failure Bool := do
  (← responseOf answer).successful

/-- The transport after the answer to a bind, which settles who is bound if it can be read. -/
def afterAnswer (called : Transport) (username : Value) (answer : Answer) : Transport :=
  match acceptance answer with
  | .error _ => called
  | .ok isAccepted => called.afterBind isAccepted username

/-- What a bind over a wire client comes to, given the transport and the world after the call. -/
def bindEnds (username : Value) (called : Transport) (world : World) :
    Outcome → Except Failure Response × (Transport × World)
  | .fails failure => (.error (called.reported failure), (called.afterFailure failure, world))
  | .gives answer =>
    ((acceptance answer).bind fun _ => responseOf answer,
      (called.afterAnswer username answer, world))

theorem exec_wireBind {username password : Value} {start : Transport × World} {handle : Handle}
    (hlink : start.1.link = .wire (some handle))
    (hnote : Value.note [start.1.host, username.orElse (.str "")] = .ok ()) :
    exec (Wire.bind username password) start =
      bindEnds username
        (start.1.afterCall (.bind username password) (start.2.answerTo (.bind username password)))
        (start.2.afterCall (.bind username password))
        (start.2.answerTo (.bind username password)) := by
  have hconnected : start.1.isConnected = true := isConnected_of_link hlink
  unfold Wire.bind
  rw [exec_bind, exec_state]
  dsimp only
  rw [exec_bind, exec_lift, hnote]
  dsimp only
  rw [exec_bind, exec_guarded hconnected, exec_bind, exec_ask]
  cases houtcome : start.2.answerTo (.bind username password) with
  | fails failure => rfl
  | gives answer =>
      have hafter : (start.1.afterCall (.bind username password) (.gives answer)).handle? =
          some ⟨false, answer.result, answer.found⟩ :=
        handle_of_link (link_afterCall hlink _ _)
      have hresponse (world : World) : exec Wire.response
          (start.1.afterCall (.bind username password) (.gives answer), world) =
            (responseOf answer,
              (start.1.afterCall (.bind username password) (.gives answer), world)) := by
        rw [exec_response, hafter]
        rfl
      dsimp only [Outcome.result]
      rw [exec_pure]
      dsimp only
      rw [exec_bind, hresponse]
      have hacceptance : acceptance answer = (responseOf answer).bind Response.successful := rfl
      unfold bindEnds afterAnswer
      dsimp only
      rw [hacceptance]
      cases responseOf answer with
      | error unreadable => rfl
      | ok response =>
          simp only [exec_bind, exec_lift, Except.bind]
          cases response.successful <;> rfl

/-- A refusal fails and does nothing else. -/
theorem exec_refused (name : String) (start : Transport × World) :
    ∃ failure, exec (Wire.refused name : Action Transport α) start = (.error failure, start) := by
  unfold Wire.refused
  simp only [exec_bind, exec_state, exec_lift]
  cases hmessage : start.1.lastError with
  | error failure => exact ⟨failure, rfl⟩
  | ok message =>
      cases htext : message.text with
      | error failure => exact ⟨failure, by simp only [htext]⟩
      | ok text =>
          cases hdetail : start.1.detail with
          | error failure => exact ⟨failure, by simp only [htext]⟩
          | ok detail => exact ⟨_, by simp only [htext]; rfl⟩

theorem preserves_refused (inv : Transport → Prop) (name : String) :
    Preserves inv (Wire.refused name : Action Transport α) := by
  intro start hstart
  obtain ⟨failure, hexec⟩ := exec_refused (α := α) name start
  rw [hexec]
  exact hstart

/-- What is checked gives a result only if the wire client reported success. -/
theorem exec_check (value : Value) (name : String) (start : Transport × World) :
    exec (Wire.check value name) start =
      if value.isTrue then (.ok (.bool true), start) else exec (Wire.refused name) start := by
  unfold Wire.check
  split <;> rfl

theorem preserves_check (inv : Transport → Prop) (value : Value) (name : String) :
    Preserves inv (Wire.check value name) := by
  unfold Wire.check
  split
  · exact Preserves.pure _
  · exact preserves_refused inv name

/-! ## Changes and searches -/

section Requests

variable {inv : Transport → Prop}
  (hunbound : ∀ transport, inv transport → inv { transport with isBound := false })
include hunbound

/-- A change keeps what the call for it and the loss of the server keep. -/
theorem preserves_perform_of {name : String} {request : WireRequest}
    (hask : Preserves inv (Wire.ask request)) : Preserves inv (Wire.perform name request) :=
  Preserves.bind (Preserves.lift _) fun _ => preserves_guarded hunbound <|
    Preserves.bind hask fun answer => preserves_check inv answer.value name

/-- A search keeps what calls for searches and the loss of the server keep. -/
theorem preserves_search_of (scope : Scope) (base filter attrs limit : Value)
    (controls : Option (List Control))
    (hask : ∀ others paging, Preserves inv
      (Wire.ask (.search scope base filter (attrs.orElse (.str "*")) limit others paging))) :
    Preserves inv (Wire.search scope base filter attrs limit controls) := by
  refine Preserves.bind (Preserves.lift _) fun _ => Preserves.bind (Preserves.lift _) fun split =>
    preserves_guarded hunbound ?_
  refine Preserves.bind (hask split.1 split.2) fun _ => Preserves.bind ?_ fun response => ?_
  · exact Preserves.bind Preserves.state fun _ => Preserves.lift _
  · have hfound (_ : Unit) : Preserves inv (do
        let entries ← Wire.entriesOf (((← Action.state).handle?).getD {}).found
        return (⟨.list entries, response⟩ : SearchResult)) :=
      Preserves.bind Preserves.state fun _ => Preserves.bind (Preserves.lift _) fun _ =>
        Preserves.pure _
    split
    · exact Preserves.bind (preserves_refused inv _) hfound
    · exact hfound ()

end Requests

/-! ## Opening and closing -/

/-- A transport that was closed has dropped its client; one that could not be closed asked the
client to unbind. -/
theorem meets_close {inv dropped : Transport → Prop} (hask : Preserves inv (Wire.ask .unbind))
    (hdrop : ∀ transport, inv transport →
      dropped (released { transport with link := .wire none })) :
    Meets (fun start => inv start.1) Wire.close (fun _ ending => dropped ending.1)
      (fun _ ending => inv ending.1) := by
  have hend (wasClosed : Bool) : Meets (fun start => inv start.1) (do
      Action.change fun transport => { transport with link := .wire none }
      Action.change released
      return Value.bool wasClosed) (fun _ ending => dropped ending.1)
      (fun _ ending => inv ending.1) :=
    fun start hstart => hdrop start.1 hstart
  refine Meets.bind (Meets.of_preserves Preserves.state) fun transport => ?_
  dsimp only
  split
  · refine Meets.bind (Meets.of_preserves Preserves.state) fun _ => ?_
    refine Meets.bind (Meets.of_preserves (Preserves.lift _)) fun _ => ?_
    refine Meets.bind (Meets.of_preserves hask.observe) fun result => ?_
    cases result with
    | ok answer => exact Meets.pure_bind (hend true)
    | error failure =>
        dsimp only
        split
        · exact Meets.pure_bind (hend false)
        · exact Meets.throw_bind fun _ h => h
  · exact Meets.pure_bind (hend false)

/-- A client is made where the one before was dropped, under an address that can be written into a
note. -/
theorem meets_connect {host port : Value} {pre dropped made fails : Transport → Prop}
    (hclose : Meets (fun start => pre start.1) Wire.close (fun _ ending => dropped ending.1)
      (fun _ ending => fails ending.1))
    (hfails : ∀ transport, dropped transport → fails transport)
    (hhost : ∀ transport address, dropped transport → dropped { transport with host := address })
    (hserver : ∀ transport uri usesSsl timeout, dropped transport →
      dropped (transport.afterCall (.server uri usesSsl timeout) (.gives {})))
    (hclient : ∀ transport version timeout follows, dropped transport → transport.host.IsReadable →
      made { transport.afterCall (.client version timeout follows) (.gives {}) with
        link := .wire (some {}) }) :
    Meets (fun start => pre start.1) (Wire.connect host port) (fun _ ending => made ending.1)
      (fun _ ending => fails ending.1) := by
  have hdropped {β : Type} {action : Action Transport β} (h : Preserves dropped action) :=
    Meets.of_preserves_imp h hfails
  have hnamed {β : Type} {action : Action Transport β}
      (h : Preserves (fun transport => dropped transport ∧ transport.host.IsReadable) action) :=
    Meets.of_preserves_imp h fun transport h => hfails transport h.1
  have hmake (address : Value) :
      Meets (fun start => dropped start.1 ∧ start.1.host.IsReadable) (do
        let transport ← Action.state
        let timeout ← transport.option (.str "timeout") .null
        let _ ← Wire.ask (.server address transport.usesSsl timeout)
        let version ← transport.option (.str "version") (.int 3)
        let follows ← transport.option (.str "follow_referrals") (.bool false)
        let _ ← Wire.ask (.client version timeout follows.isTrue)
        Action.change fun transport => { transport with link := .wire (some {}) }
        return Value.bool true) (fun _ ending => made ending.1)
        (fun _ ending => fails ending.1) := by
    refine Meets.bind (hnamed Preserves.state) fun transport =>
      Meets.bind (hnamed (Preserves.lift _)) fun timeout => ?_
    refine Meets.bind (hnamed fun start h => ?_) fun _ =>
      Meets.bind (hnamed (Preserves.lift _)) fun version =>
      Meets.bind (hnamed (Preserves.lift _)) fun follows => ?_
    · rw [exec_ask]
      exact ⟨hserver start.1 address transport.usesSsl timeout h.1, h.2⟩
    · exact fun start h => hclient start.1 version timeout follows.isTrue h.1 h.2
  refine Meets.bind hclose fun _ => Meets.bind (hdropped Preserves.state) fun _ =>
    Meets.bind (hdropped (Preserves.lift _)) fun address => ?_
  intro start hstart
  rw [exec_bind, exec_change]
  dsimp only
  rw [exec_bind, exec_lift]
  cases hnote : Value.note [address] with
  | error failure => exact hfails _ (hhost start.1 address hstart)
  | ok noted =>
      have haddress : address.IsReadable := Value.isReadable_of_note hnote List.mem_cons_self
      exact hmake address ({ start.1 with host := address }, start.2)
        ⟨hhost start.1 address hstart, haddress⟩

/-- Over a wire client, an operation is the one for wire clients. -/
theorem exec_choose_of_not_isDirect {directly overWire : Action Transport α}
    {start : Transport × World} (h : start.1.isDirect = false) :
    exec (choose directly overWire) start = exec overWire start := by
  unfold choose
  rw [exec_bind, exec_state]
  simp only [h]
  rfl

/-- An operation meets what it meets directly and what it meets over a wire client. -/
theorem meets_choose {directly overWire : Action Transport α} {pre : Transport × World → Prop}
    {post : α → Transport × World → Prop} {fails : Failure → Transport × World → Prop}
    (hdirect : Meets (fun start => pre start ∧ start.1.isDirect = true) directly post fails)
    (hwire : Meets (fun start => pre start ∧ start.1.isDirect = false) overWire post fails) :
    Meets pre (choose directly overWire) post fails := by
  refine Meets.state_bind fun transport => ?_
  split
  next hisDirect =>
    exact hdirect.restrict fun start h => ⟨h.1, h.2 ▸ hisDirect⟩
  next hisWire =>
    exact hwire.restrict fun start h => ⟨h.1, h.2 ▸ Bool.eq_false_iff.2 hisWire⟩

theorem meets_choose_of_wire {directly overWire : Action Transport α}
    {pre : Transport × World → Prop} {post : α → Transport × World → Prop}
    {fails : Failure → Transport × World → Prop}
    (hwire : ∀ start, pre start → ∃ handle, start.1.link = .wire handle)
    (h : Meets pre overWire post fails) : Meets pre (choose directly overWire) post fails := by
  intro start hstart
  obtain ⟨handle, hlink⟩ := hwire start hstart
  rw [exec_choose_of_not_isDirect (isDirect_of_link hlink)]
  exact h start hstart

end Transport

end Directory
