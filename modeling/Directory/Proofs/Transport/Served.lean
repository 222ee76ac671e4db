import Directory.Proofs.Transport.Orderly

/-!
# Transports that are served

A bind is made of few calls: a client may be opened and TLS started before it is sent. Where the
outcomes of these calls are orderly, a bind is answered or it is reported that it failed, whether or
not the transport is open. `fair` says which outcomes the script may hold, and `fits` what is true
of every failure of these calls and of every report that is made of one.
-/

namespace Directory

open Directory.Action

/-- The queues of the calls of a bind. -/
def Queue.isForBinds : Queue → Bool
  | .startTls | .bind | .wire .open_ | .wire .startTls | .wire .bind => true
  | _ => false

/-- The outcomes of the calls of a bind are orderly, and their failures and the reports fit. -/
structure IsFair (fits : Failure → Prop) (fair : Queue → Outcome → Prop) : Prop where
  orderly : ∀ queue outcome, queue.isForBinds = true → fair queue outcome → outcome.IsOrderly queue
  fails : ∀ queue failure, queue.isForBinds = true → fair queue (.fails failure) → fits failure
  made : ∀ kind text detail cause, (∀ given, detail = some given → given.IsPlain) →
    fits { kind, text := some text, detail, cause }

/-- Orderly outcomes are fair. -/
theorem isFair_isOrderly : IsFair (fun _ => True) Outcome.IsOrderly where
  orderly := fun _ _ _ h => h
  fails := fun _ _ _ _ => trivial
  made := fun _ _ _ _ _ => trivial

namespace Transport

variable {fits : Failure → Prop} {fair : Queue → Outcome → Prop} {calm : World → Prop}
  {log : List Happening} {number : Option Nat} {α : Type}

/-- The host of the transport can be written into a log and so can the result of its client, the
outcomes to come are fair, no listener fails, and certain things were told. -/
structure IsServed (fair : Queue → Outcome → Prop) (calm : World → Prop) (log : List Happening)
    (state : Transport × World) : Prop where
  host : state.1.host.IsReadable
  client : ∀ handle, state.1.link = .wire handle → (handle.getD {}).IsPlain
  script : ∀ queue, ∀ outcome ∈ state.2.script queue, fair queue outcome
  calm : calm state.2
  told : state.2.told = log

/-- The transport reaches its server over a wire client, if at all. -/
structure IsServedByWire (fair : Queue → Outcome → Prop) (calm : World → Prop)
    (log : List Happening) (state : Transport × World) : Prop
    extends IsServed fair calm log state where
  wire : state.1.isDirect = false

/-- A failure on a wire client, which is to be reported. -/
structure IsFault (fits : Failure → Prop) (fair : Queue → Outcome → Prop) (calm : World → Prop)
    (log : List Happening) (failure : Failure) (state : Transport × World) : Prop where
  reportable : failure.IsReportable
  fits : fits failure
  served : IsServedByWire fair calm log state

/-- A failure that reports a failed directory operation, and leaves the transport served. -/
structure IsReported (fits : Failure → Prop) (fair : Queue → Outcome → Prop)
    (calm : World → Prop) (log : List Happening) (failure : Failure) (state : Transport × World) :
    Prop where
  directory : failure.isDirectory = true
  fits : fits failure
  served : IsServed fair calm log state

/-- The answer to a bind can be read, and settles whether the transport is bound. -/
structure IsAnswered (fair : Queue → Outcome → Prop) (calm : World → Prop) (log : List Happening)
    (response : Response) (state : Transport × World) : Prop where
  served : IsServed fair calm log state
  plain : response.IsPlain
  lastError : ∃ message, state.1.lastError = .ok message ∧ message.IsReadable
  accepted : response.successful = .ok state.1.isBound

/-! ## Requests -/

/-- What comes next is orderly, and fits if it is a failure. -/
theorem IsServed.next {state : Transport × World} (h : IsServed fair calm log state)
    (hfair : IsFair fits fair) {queue : Queue} (hqueue : queue.isForBinds = true) :
    (state.2.next queue).IsOrderly queue ∧
      ∀ failure, state.2.next queue = .fails failure → fits failure := by
  unfold World.next
  cases hscript : state.2.script queue with
  | nil => exact ⟨World.isOrderly_usual queue, fun _ hfails => by cases hfails⟩
  | cons outcome outcomes =>
      have hmem := h.script queue outcome (hscript ▸ List.mem_cons_self)
      refine ⟨hfair.orderly queue outcome hqueue hmem, fun failure hfails => ?_⟩
      exact hfair.fails queue failure hqueue (hfails ▸ hmem)

/-- A served transport stays so under the same link, with a host that can be read. -/
theorem IsServed.change {state : Transport × World} (h : IsServed fair calm log state)
    {changed : Transport} (hlink : changed.link = state.1.link)
    (hhost : changed.host = state.1.host) : IsServed fair calm log (changed, state.2) :=
  ⟨hhost ▸ h.host, fun handle hchanged => h.client handle (hlink ▸ hchanged), h.script, h.calm,
    h.told⟩

/-- A direct transport stays served while it is asked for something. -/
theorem meets_directAsk_isServed (hfair : IsFair fits fair) (hcalm : Effect.IsCalm number calm)
    (request : Request) (hrequest : request.queue.isForBinds = true)
    (hfails : ∀ failure, (Outcome.fails failure).IsOrderly request.queue →
      failure.isDirectory = true) :
    Meets (fun start => IsServed fair calm log start ∧ start.1.isDirect = true)
      (Direct.ask request)
      (fun answer ending => (IsServed fair calm log ending ∧ ending.1.isDirect = true) ∧
        (Outcome.gives answer).IsOrderly request.queue) (IsReported fits fair calm log) := by
  intro start hstart
  obtain ⟨hserved, hdirect⟩ := hstart
  obtain ⟨transport, hexec⟩ := exec_directAsk request hdirect
  have hafter : IsServed fair calm log (start.1, ({ start.2 with
      records := start.2.records ++ [.direct transport request] } : World).afterTake
        request.queue) :=
    ⟨hserved.host, hserved.client,
      fun other outcome hmem => hserved.script other outcome (World.mem_script_of_afterTake hmem),
      hcalm.apart start.2 _ _ hserved.calm, hserved.told⟩
  obtain ⟨horderly, hfits⟩ := hserved.next hfair hrequest
  rw [hexec]
  cases houtcome : start.2.next request.queue with
  | fails failure => exact ⟨hfails failure (houtcome ▸ horderly), hfits failure houtcome, hafter⟩
  | gives answer => exact ⟨⟨hafter, hdirect⟩, houtcome ▸ horderly⟩

/-- The calls by which a client is opened, protected and bound. -/
inductive IsApproach : WireRequest → Queue → Prop
  | open_ : IsApproach .open_ (.wire .open_)
  | startTls : IsApproach .startTls (.wire .startTls)
  | bind (username password : Value) : IsApproach (.bind username password) (.wire .bind)

namespace IsApproach

variable {request : WireRequest} {queue : Queue}

theorem queue_eq (h : IsApproach request queue) : request.queue? = some queue := by
  cases h <;> rfl

theorem isForBinds (h : IsApproach request queue) : queue.isForBinds = true := by
  cases h <;> rfl

/-- What fails in an approach is a failure of the wire client, or a report already. -/
theorem of_fails (h : IsApproach request queue) {failure : Failure}
    (horderly : (Outcome.fails failure).IsOrderly queue) : failure.IsReportable := by
  cases h with
  | open_ => exact horderly
  | startTls => exact horderly
  | bind username password => exact horderly

/-- A call that is answered in an orderly way leaves a result that can be read. -/
theorem isPlain_afterCall (h : IsApproach request queue) {handle : Handle}
    (hhandle : handle.IsPlain) {outcome : Outcome} (horderly : outcome.IsOrderly queue) :
    (handle.afterCall request outcome).IsPlain := by
  cases outcome with
  | fails failure => exact hhandle.of_result (by cases request <;> rfl)
  | gives answer =>
      cases h with
      | open_ => exact hhandle.of_result rfl
      | startTls => exact Handle.IsPlain.of_result horderly rfl
      | bind username password => exact Handle.IsPlain.of_result horderly rfl

end IsApproach

theorem told_afterCall (world : World) (request : WireRequest) :
    (world.afterCall request).told = world.told := by
  unfold World.afterCall
  cases request.queue? <;> rfl

/-- A call in an approach leaves the transport served. -/
theorem IsServedByWire.afterCall {state : Transport × World}
    (h : IsServedByWire fair calm log state) (hcalm : Effect.IsCalm number calm)
    {request : WireRequest} {queue : Queue} (hrequest : IsApproach request queue)
    {outcome : Outcome} (horderly : outcome.IsOrderly queue) :
    IsServedByWire fair calm log
      (state.1.afterCall request outcome, state.2.afterCall request) := by
  obtain ⟨handle, hlink⟩ := exists_wire h.wire
  have hplain := h.client handle hlink
  have hafter := link_afterCall hlink request outcome
  have hworld : state.2.afterCall request =
      ({ state.2 with records := state.2.records ++ [.wire request] } : World).afterTake queue := by
    unfold World.afterCall
    rw [hrequest.queue_eq]
    rfl
  refine ⟨⟨h.host, fun other hother => ?_, ?_, ?_, (told_afterCall _ _).trans h.told⟩, ?_⟩
  · rw [hafter] at hother
    cases hother
    cases handle with
    | none => exact hplain
    | some handle => exact hrequest.isPlain_afterCall hplain horderly
  · intro other outcome hmem
    rw [hworld] at hmem
    exact h.script other outcome (World.mem_script_of_afterTake hmem)
  · rw [hworld]
    exact hcalm.apart state.2 _ _ h.calm
  · exact isDirect_of_link hafter

theorem meets_approach (hfair : IsFair fits fair) (hcalm : Effect.IsCalm number calm)
    {request : WireRequest} {queue : Queue} (hrequest : IsApproach request queue) :
    Meets (IsServedByWire fair calm log) (Wire.ask request)
      (fun _ ending => IsServedByWire fair calm log ending) (IsFault fits fair calm log) := by
  intro start hstart
  obtain ⟨horderly, hfits⟩ := hstart.next hfair hrequest.isForBinds
  have hanswer : start.2.answerTo request = start.2.next queue := by
    unfold World.answerTo
    rw [hrequest.queue_eq]
    rfl
  rw [exec_ask, hanswer]
  cases houtcome : start.2.next queue with
  | fails failure =>
      rw [houtcome] at horderly
      exact ⟨hrequest.of_fails horderly, hfits failure houtcome,
        hstart.afterCall hcalm hrequest horderly⟩
  | gives answer =>
      rw [houtcome] at horderly
      exact hstart.afterCall hcalm hrequest horderly

/-! ## Reports -/

/-- What a wire client says about the last operation can be read. -/
theorem IsServedByWire.exists_lastError {state : Transport × World}
    (h : IsServedByWire fair calm log state) :
    ∃ message, state.1.lastError = .ok message ∧ message.IsReadable := by
  obtain ⟨handle, hlink⟩ := exists_wire h.wire
  have hplain := h.client handle hlink
  unfold Transport.lastError
  rw [hlink]
  cases handle with
  | none => exact ⟨.null, rfl, Value.isReadable_null⟩
  | some handle => exact hplain.lastError

/-- The details that a wire client gives for the last operation can be read, and are plain. -/
theorem IsServedByWire.exists_detail {state : Transport × World}
    (h : IsServedByWire fair calm log state) :
    ∃ detail, state.1.detail = .ok detail ∧ ∀ given, detail = some given → given.IsPlain := by
  obtain ⟨handle, hlink⟩ := exists_wire h.wire
  have hplain := h.client handle hlink
  unfold Transport.detail
  rw [hlink]
  cases handle with
  | none => exact ⟨none, rfl, fun _ hgiven => by cases hgiven⟩
  | some handle =>
      obtain ⟨detail, hdetail⟩ := hplain.detail
      refine ⟨detail, hdetail, fun given heq => hplain.isPlain_detail ?_⟩
      exact heq ▸ hdetail

/-- A server that is down is reported. -/
theorem IsServed.isReported_serverDown (hfair : IsFair fits fair) {state : Transport × World}
    (h : IsServed fair calm log state) (text diagnostic : String) (cause : Option Failure) :
    IsReported fits fair calm log (Wire.serverDown text diagnostic cause) state :=
  ⟨rfl, hfair.made _ _ _ _ fun _ heq => Option.some.inj heq ▸ ⟨⟨_, rfl⟩, ⟨_, rfl⟩⟩, h⟩

/-- What fails on a wire client is reported. -/
theorem IsFault.isReported (hfair : IsFair fits fair) {failure : Failure}
    {state : Transport × World} (h : IsFault fits fair calm log failure state) :
    IsReported fits fair calm log (state.1.reported failure)
      (state.1.afterFailure failure, state.2) := by
  have hserved : IsServed fair calm log (state.1.afterFailure failure, state.2) := by
    rw [afterFailure_eq]
    exact h.served.change rfl rfl
  unfold reported
  split
  · exact hserved.isReported_serverDown hfair _ _ _
  split
  · obtain ⟨detail, hdetail, hplain⟩ := h.served.exists_detail
    rw [hdetail]
    exact ⟨rfl, hfair.made _ _ _ _ hplain, hserved⟩
  next hgeneral => exact ⟨h.reportable.resolve_left hgeneral, h.fits, hserved⟩

/-- An operation over a wire client is carried out or it is reported that it failed. -/
theorem meets_guarded_isServed (hfair : IsFair fits fair) {name : String}
    {operation : Action Transport α} {post : α → Transport × World → Prop}
    (h : Meets (IsServedByWire fair calm log) operation post (IsFault fits fair calm log)) :
    Meets (IsServedByWire fair calm log) (Wire.guarded name operation) post
      (IsReported fits fair calm log) :=
  meets_guarded (h.restrict fun _ h => h.1)
    (fun _ hstart _ => hstart.isReported_serverDown hfair _ _ _)
    fun _ _ hending => hending.isReported hfair

/-! ## Protecting and binding -/

theorem meets_check (hfair : IsFair fits fair) (value : Value) (name : String) :
    Meets (IsServedByWire fair calm log) (Wire.check value name)
      (fun _ ending => IsServedByWire fair calm log ending) (IsFault fits fair calm log) := by
  unfold Wire.check
  split
  · exact Meets.pure fun _ h => h
  intro start hstart
  obtain ⟨message, hlast, text, htext⟩ := hstart.exists_lastError
  obtain ⟨detail, hdetail, hplain⟩ := hstart.exists_detail
  unfold Wire.refused
  simp only [exec_bind, exec_state, exec_lift, hlast, htext, hdetail]
  exact ⟨.inr rfl, hfair.made _ _ _ _ hplain, hstart⟩

theorem meets_wireStartTls_isServed (hfair : IsFair fits fair) (hcalm : Effect.IsCalm number calm) :
    Meets (IsServedByWire fair calm log) Wire.startTls
      (fun _ ending => IsServedByWire fair calm log ending) (IsReported fits fair calm log) := by
  have hstart : Meets (IsServedByWire fair calm log) (do
      Wire.check (← Wire.ask .startTls).value "start_tls")
      (fun _ ending => IsServedByWire fair calm log ending) (IsFault fits fair calm log) :=
    Meets.bind (meets_approach hfair hcalm .startTls) fun answer =>
      meets_check hfair answer.value "start_tls"
  have hnote (start : Transport × World) (h : IsServedByWire fair calm log start) :
      Value.note [start.1.host] = .ok () :=
    Value.IsReadable.note h.host
  refine Meets.state_bind fun transport => Meets.lift_bind_ok (fun _ h => h.2 ▸ hnote _ h.1)
    (Meets.restrict (meets_guarded_isServed hfair (Meets.state_bind fun noted => ?_)) fun _ h =>
      h.1)
  refine Meets.restrict ?_ fun _ h => h.1
  dsimp only
  split
  · exact Meets.bind (meets_approach hfair hcalm .open_) fun _ => hstart
  · exact hstart

/-- TLS is started, or it is reported that it cannot be. -/
theorem meets_startTls_isServed (hfair : IsFair fits fair) (hcalm : Effect.IsCalm number calm) :
    Meets (IsServed fair calm log) Transport.startTls
      (fun _ ending => IsServed fair calm log ending) (IsReported fits fair calm log) := by
  have hdirect : Meets (fun start => IsServed fair calm log start ∧ start.1.isDirect = true)
      Direct.startTls (fun _ ending => IsServed fair calm log ending)
      (IsReported fits fair calm log) :=
    Meets.bind (meets_directAsk_isServed hfair hcalm .startTls rfl fun _ h => h) fun _ =>
      Meets.pure fun _ h => h.1.1
  exact meets_choose hdirect
    ((meets_wireStartTls_isServed hfair hcalm).mono (fun _ h => ⟨h.1, h.2⟩)
      (fun _ _ h => h.toIsServed) fun _ _ h => h)

theorem meets_directBind (hfair : IsFair fits fair) (hcalm : Effect.IsCalm number calm)
    (username password : Value) :
    Meets (fun start => IsServed fair calm log start ∧ start.1.isDirect = true)
      (Direct.bind username password)
      (fun response ending => IsAnswered fair calm log response ending)
      (IsReported fits fair calm log) := by
  refine Meets.bind (meets_directAsk_isServed hfair hcalm (.bind username password) rfl
    fun _ h => h) fun answer => Meets.state_bind fun transport => ?_
  intro start hstart
  obtain ⟨⟨⟨hserved, hdirect⟩, hplain⟩, rfl⟩ := hstart
  obtain ⟨isSuccess, hsuccess⟩ := Response.IsPlain.exists_successful hplain
  obtain ⟨number, isOpen, last, hlink⟩ := exists_direct hdirect
  rw [exec_bind, exec_setLink start hlink]
  dsimp only
  rw [exec_bind, exec_lift, hsuccess]
  refine ⟨⟨hserved.host, fun _ hother => ?_, hserved.script, hserved.calm, hserved.told⟩, hplain,
    ⟨_, rfl, ?_⟩, hsuccess⟩
  · cases hother
  · exact ((Value.isReadable_of_exists_str hplain.diagnostic).orElse
      (Value.isReadable_of_exists_str hplain.message)).orElse Value.isReadable_null

theorem meets_wireBind (hfair : IsFair fits fair) (hcalm : Effect.IsCalm number calm)
    {username : Value} (password : Value) (husername : username.IsReadable) :
    Meets (IsServedByWire fair calm log) (Wire.bind username password)
      (fun response ending => IsAnswered fair calm log response ending)
      (IsReported fits fair calm log) := by
  have hnote (start : Transport × World) (h : IsServedByWire fair calm log start) :
      Value.note [start.1.host, username.orElse (.str "")] = .ok () :=
    Value.IsReadable.note_pair h.host (husername.orElse (Value.isReadable_str ""))
  have hsend : Meets (IsServedByWire fair calm log)
      (do let _ ← Wire.ask (.bind username password))
      (fun _ ending => IsServedByWire fair calm log ending) (IsFault fits fair calm log) :=
    Meets.bind (meets_approach hfair hcalm (.bind username password)) fun _ =>
      Meets.pure fun _ h => h
  refine Meets.state_bind fun transport => Meets.lift_bind_ok (fun start h => h.2 ▸ hnote start h.1)
    (Meets.bind ((meets_guarded_isServed hfair hsend).restrict fun _ h => h.1) fun _ => ?_)
  intro start hstart
  obtain ⟨handle, hlink⟩ := exists_wire hstart.wire
  obtain ⟨response, hresponse, hread⟩ := (hstart.client handle hlink).response
  obtain ⟨isSuccess, hsuccess⟩ := hread.exists_successful
  rw [exec_bind, exec_response, handle_of_link hlink, hresponse]
  dsimp only
  rw [exec_bind, exec_lift, hsuccess]
  have hsettled : IsServedByWire fair calm log (start.1.afterBind isSuccess username, start.2) :=
    ⟨hstart.change rfl rfl, hstart.wire⟩
  exact ⟨hsettled.toIsServed, hread, hsettled.exists_lastError, hsuccess⟩

/-- A bind is answered, or it is reported that it failed. -/
theorem meets_bind_isServed (hfair : IsFair fits fair) (hcalm : Effect.IsCalm number calm)
    {username : Value} (password : Value) (husername : username.IsReadable) :
    Meets (IsServed fair calm log) (Transport.bind username password)
      (fun response ending => IsAnswered fair calm log response ending)
      (IsReported fits fair calm log) :=
  meets_choose (meets_directBind hfair hcalm username password)
    ((meets_wireBind hfair hcalm password husername).restrict fun _ h => ⟨h.1, h.2⟩)

/-! ## Open transports -/

/-- An open transport in an orderly world is served. -/
theorem IsOpen.isServed {state : Transport × World} (h : IsOpen calm log state) :
    IsServed Outcome.IsOrderly calm state.2.told state := by
  refine ⟨h.isUsual.host, fun handle hlink => ?_, h.isUsual.world.script, h.isUsual.world.calm,
    rfl⟩
  rcases h with hdirect | hwire
  · obtain ⟨number, isOpen, last, hother⟩ := exists_direct hdirect.direct
    rw [hlink] at hother
    cases hother
  · obtain ⟨held, hother, hplain⟩ := hwire.client
    rw [hlink] at hother
    cases hother
    exact hplain

/-- A transport that is served in an orderly world is as usual. -/
theorem IsServed.isUsual {state : Transport × World}
    (h : IsServed Outcome.IsOrderly calm log state) :
    IsUsual calm (log.filter (·.eventClass.isA .connectionEvent)) state :=
  ⟨h.host, ⟨h.calm, h.script⟩, congrArg (List.filter _) h.told⟩

/-- If it is also connected, it is open. -/
theorem IsServed.isOpen {state : Transport × World}
    (h : IsServed Outcome.IsOrderly calm log state) (hconnected : state.1.isConnected = true) :
    IsOpen calm (log.filter (·.eventClass.isA .connectionEvent)) state := by
  cases hdirect : state.1.isDirect with
  | true => exact .inl ⟨h.isUsual, hdirect, hconnected⟩
  | false =>
      obtain ⟨held, hlink⟩ := exists_handle hdirect hconnected
      exact .inr ⟨h.isUsual, held, hlink, h.client _ hlink⟩

end Transport

end Directory
