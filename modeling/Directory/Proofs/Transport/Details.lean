import Directory.Proofs.Transport.Operations
import Directory.Proofs.Value.Fault

/-!
# What failures say of earlier operations

A wire client keeps the result of the last operation that it answered, and the details of a failure
are read from it. `Abreast` compares two histories on an open handle that differ in the results
alone: the same calls are made, and each has an outcome of the same shape. If the next operation
then meets the same outcomes and fails, its failures cannot be told apart, unless the wire client
itself fails without losing the server: then they carry the details that the operations before left
(`failure_alike_iff`).
-/

namespace Directory

open Directory.Action

/-! ## Readings that fail -/

/-- A failure by the misuse of a value, which is a fault of the caller. -/
def Failure.IsMisuse (failure : Failure) : Prop :=
  failure.IsFault ∧ ∃ kind, failure = Failure.misuse kind

/-- A reading of values fails only where a value does not fit. -/
abbrev FailsByMisuse {α : Type} (result : Except Failure α) : Prop :=
  FailsBy Failure.IsMisuse result

namespace FailsByMisuse

open FailsBy

variable {α β : Type}

theorem misuse (kind : Kind) (h : (Failure.misuse kind).IsFault) :
    FailsByMisuse (.error (Failure.misuse kind) : Except Failure α) :=
  error ⟨h, kind, rfl⟩

theorem get (value : Value) (key : String) (default : Value) :
    FailsByMisuse (value.get key default) := by
  refine bind ?_ fun _ => ok _
  cases value with
  | dict entries => exact ok entries
  | _ => exact misuse .unknownMember ⟨rfl, rfl⟩

theorem toInt (value : Value) : FailsByMisuse value.toInt := by
  cases value with
  | bool b => exact ok _
  | int n => exact ok _
  | float x =>
      simp only [Value.toInt]
      split
      · exact ok _
      · split
        · exact misuse .wrongValue ⟨rfl, rfl⟩
        · exact misuse .overflow ⟨rfl, rfl⟩
  | str s =>
      simp only [Value.toInt]
      cases intOfText? s with
      | none => exact misuse .wrongValue ⟨rfl, rfl⟩
      | some n => exact ok n
  | bytes bs =>
      simp only [Value.toInt]
      cases intOfBytes? bs with
      | none => exact misuse .wrongValue ⟨rfl, rfl⟩
      | some n => exact ok n
  | _ => exact misuse .wrongType ⟨rfl, rfl⟩

theorem response (handle : Handle) : FailsByMisuse handle.response :=
  bind (get _ _ _) fun _ => bind (get _ _ _) fun _ => bind (get _ _ _) fun _ =>
    bind (get _ _ _) fun _ => bind (get _ _ _) fun _ => bind (get _ _ _) fun _ => ok _

theorem successful (response : Response) : FailsByMisuse response.successful := by
  refine bind (toInt _) fun code => ?_
  split
  · exact ok _
  · exact ok _

theorem responseDetail (response : Response) : FailsByMisuse response.detail := by
  refine bind (successful response) fun isSuccess => ?_
  split
  · exact ok _
  · exact bind (toInt _) fun _ => ok _

theorem handleDetail (handle : Handle) : FailsByMisuse handle.detail := by
  refine bind ?_ fun code => ?_
  · unfold Handle.errorCode
    split
    · exact ok _
    · exact get _ _ _
  · split
    · exact ok _
    · exact bind (response handle) fun _ => responseDetail _

end FailsByMisuse

/-! ## Failures that cannot be told apart -/

/-- What can be seen of an outcome before its answer is read. -/
def Outcome.shape : Outcome → Option Failure
  | .fails failure => some failure
  | .gives _ => none

/-- Outcomes of the same shape are the same failure, or both are answers. -/
theorem Outcome.cases_of_shape_eq {outcome outcome' : Outcome}
    (h : outcome.shape = outcome'.shape) :
    (∃ failure, outcome = .fails failure ∧ outcome' = .fails failure) ∨
      ∃ answer answer', outcome = .gives answer ∧ outcome' = .gives answer' := by
  cases outcome with
  | fails failure =>
      cases outcome' with
      | fails failure' =>
          cases h
          exact .inl ⟨failure, rfl, rfl⟩
      | gives answer' => cases h
  | gives answer =>
      cases outcome' with
      | fails failure' => cases h
      | gives answer' => exact .inr ⟨answer, answer', rfl, rfl⟩

/-- A failure without details is as specific as it can be. -/
theorem Classifier.classify_of_no_detail (classifier : Classifier) {failure : Failure}
    (h : failure.detail = none) : classifier.classify failure none = .ok failure := by
  have hself : failure.isA failure.kind = true := Kind.isA_self failure.kind
  unfold classify reclassify? kindFor
  rw [h]
  simp [Bind.bind, Except.bind, Pure.pure, Except.pure, hself]

/-- Failures that cannot be told apart by their details, nor by their kinds once they are
classified. -/
def Failure.Alike (failure failure' : Failure) : Prop :=
  failure.detail = failure'.detail ∧ ∀ classifier : Classifier,
    (classifier.classify failure none).map Failure.kind =
      (classifier.classify failure' none).map Failure.kind

theorem Failure.Alike.refl (failure : Failure) : failure.Alike failure :=
  ⟨rfl, fun _ => rfl⟩

/-- Failures without details are told apart by their kinds. -/
theorem Failure.Alike.kind_eq {failure failure' : Failure} (h : failure.Alike failure')
    (hdetail : failure.detail = none) : failure.kind = failure'.kind := by
  have hkind := h.2 {}
  rw [Classifier.classify_of_no_detail _ hdetail,
    Classifier.classify_of_no_detail _ (h.1.symm.trans hdetail)] at hkind
  exact Except.ok.inj hkind

namespace Transport

variable {α β : Type}

theorem failsByMisuse_detail (transport : Transport) : FailsByMisuse transport.detail := by
  unfold detail
  split
  · exact FailsByMisuse.responseDetail _
  · exact FailsBy.ok _
  · exact FailsByMisuse.handleDetail _

/-! ## Two histories -/

/-- Two open handles on the same host, closed or opened alike, whose calls have outcomes of the same
shape. They may hold different results. -/
structure Abreast (start start' : Transport × World) : Prop where
  host : start.1.host = start'.1.host
  handle : ∃ handle handle', start.1.link = .wire (some handle) ∧
    start'.1.link = .wire (some handle') ∧ handle.isClosed = handle'.isClosed
  script : ∀ call, (start.2.script (.wire call)).map Outcome.shape =
    (start'.2.script (.wire call)).map Outcome.shape

/-- What a call with an outcome leaves of a transport. -/
structure Leaves (start : Transport) (outcome : Outcome) (called : Transport) : Prop where
  history : ∃ request usesTls earlier, called.history = ⟨request, usesTls, outcome⟩ :: earlier ∧
    start.history <:+ earlier
  fails : ∀ failure, outcome = .fails failure → called.detail = start.detail
  gives : ∀ answer, outcome = .gives answer →
    called.link = .wire (some ⟨false, answer.result, answer.found⟩)

theorem shape_next {world world' : World} {queue : Queue}
    (h : (world.script queue).map Outcome.shape = (world'.script queue).map Outcome.shape) :
    (world.next queue).shape = (world'.next queue).shape := by
  unfold World.next
  cases hscript : world.script queue with
  | nil =>
      rw [hscript, List.map_nil] at h
      rw [List.map_eq_nil_iff.1 h.symm]
  | cons outcome outcomes =>
      rw [hscript, List.map_cons] at h
      obtain ⟨outcome', outcomes', hscript', hshape, -⟩ := List.map_eq_cons_iff.1 h.symm
      rw [hscript']
      exact hshape.symm

/-- The shape of an outcome decides whether the client is closed after it. -/
theorem isClosed_congr {handle handle' : Handle} {outcome outcome' : Outcome}
    (request : WireRequest) (hclosed : handle.isClosed = handle'.isClosed)
    (hshape : outcome.shape = outcome'.shape) :
    (handle.afterCall request outcome).isClosed =
      (handle'.afterCall request outcome').isClosed := by
  obtain ⟨failure, rfl, rfl⟩ | ⟨answer, answer', rfl, rfl⟩ := Outcome.cases_of_shape_eq hshape
  · cases request <;> exact hclosed
  · cases request <;> first | exact hclosed | rfl

theorem Abreast.afterCall {start start' : Transport × World} (h : Abreast start start')
    (request : WireRequest) {call : WireCall} (hcall : request.queue? = some (.wire call)) :
    (start.2.answerTo request).shape = (start'.2.answerTo request).shape ∧
      Abreast
        (start.1.afterCall request (start.2.answerTo request), start.2.afterCall request)
        (start'.1.afterCall request (start'.2.answerTo request), start'.2.afterCall request) := by
  have hshape : (start.2.answerTo request).shape = (start'.2.answerTo request).shape := by
    unfold World.answerTo
    rw [hcall]
    exact shape_next (h.script call)
  refine ⟨hshape, h.host, ?_, fun other => ?_⟩
  · obtain ⟨handle, handle', hlink, hlink', hclosed⟩ := h.handle
    exact ⟨_, _, link_afterCall hlink request _, link_afterCall hlink' request _,
      isClosed_congr request hclosed hshape⟩
  · have hother := h.script other
    unfold World.afterCall
    rw [hcall]
    dsimp only [Option.elim, World.afterTake]
    split
    · rw [List.map_tail, List.map_tail, h.script call]
    · exact hother

theorem detail_of_result {transport transport' : Transport} {handle handle' : Handle}
    (hlink : transport.link = .wire (some handle)) (hlink' : transport'.link = .wire (some handle'))
    (h : handle.result = handle'.result) : transport.detail = transport'.detail := by
  have hdetail : handle.detail = handle'.detail := by
    unfold Handle.detail Handle.errorCode Handle.response
    rw [h]
  unfold detail
  rw [hlink, hlink']
  exact hdetail

theorem leaves_afterCall {transport : Transport} {handle : Handle} {request : WireRequest}
    (hlink : transport.link = .wire (some handle)) (huse : IsUse request) (outcome : Outcome) :
    Leaves transport outcome (transport.afterCall request outcome) where
  history := ⟨request, transport.usesTls, transport.history, rfl, List.suffix_rfl⟩
  fails := by
    rintro failure rfl
    exact detail_of_result (link_afterCall hlink request _) hlink (by cases request <;> rfl)
  gives := by
    rintro answer rfl
    obtain ⟨call, hcall, hopen, hunbind⟩ := huse
    rw [link_afterCall hlink]
    cases request <;> first | rfl | cases hcall
    · exact absurd rfl hopen
    · exact absurd rfl hunbind

/-- Opening a client leaves its result alone. -/
theorem detail_afterOpen {transport : Transport} {handle : Handle}
    (hlink : transport.link = .wire (some handle)) (outcome : Outcome) :
    (transport.afterCall .open_ outcome).detail = transport.detail :=
  detail_of_result (link_afterCall hlink .open_ outcome) hlink (by cases outcome <;> rfl)

theorem Leaves.afterOpen {transport called : Transport} {handle : Handle} {answer : Answer}
    {outcome : Outcome} (hlink : transport.link = .wire (some handle))
    (h : Leaves (transport.afterCall .open_ (.gives answer)) outcome called) :
    Leaves transport outcome called where
  history := by
    obtain ⟨request, usesTls, earlier, hhistory, hsuffix⟩ := h.history
    exact ⟨request, usesTls, earlier, hhistory, (List.suffix_cons _ _).trans hsuffix⟩
  fails := fun failure hfails => (h.fails failure hfails).trans (detail_afterOpen hlink _)
  gives := h.gives

/-- Both handles are asked the same, and their calls have outcomes of the same shape. -/
structure Called (request : WireRequest) (start start' : Transport × World)
    (outcome outcome' : Outcome) (called called' : Transport × World) : Prop where
  runs : exec (approach request) start = (outcome.result, called)
  runs' : exec (approach request) start' = (outcome'.result, called')
  shape : outcome.shape = outcome'.shape
  abreast : Abreast called called'
  leaves : Leaves start.1 outcome called.1
  leaves' : Leaves start'.1 outcome' called'.1
  same : (∀ call, start.2.next (.wire call) = start'.2.next (.wire call)) → outcome = outcome'

/-- One call, where the client needs no opening. -/
theorem Abreast.ask {start start' : Transport × World} (h : Abreast start start')
    {request : WireRequest} (huse : IsUse request)
    (hprepare : exec (prepare request) start = (.ok (), start))
    (hprepare' : exec (prepare request) start' = (.ok (), start')) :
    ∃ outcome outcome' called called',
      Called request start start' outcome outcome' called called' := by
  have ⟨call, hcall, _⟩ := huse
  obtain ⟨handle, handle', hlink, hlink', -⟩ := h.handle
  obtain ⟨hshape, habreast⟩ := h.afterCall request hcall
  refine ⟨_, _, _, _, ?_, ?_, hshape, habreast, leaves_afterCall hlink huse _,
    leaves_afterCall hlink' huse _, fun hnext => ?_⟩
  · unfold approach
    rw [exec_bind, hprepare]
    exact exec_ask request start
  · unfold approach
    rw [exec_bind, hprepare']
    exact exec_ask request start'
  · unfold World.answerTo
    rw [hcall]
    exact hnext call

/-- The outcomes of other calls are still to come. -/
theorem next_afterCall (world : World) {request : WireRequest} {queue other : Queue}
    (hqueue : request.queue? = some queue) (hne : other ≠ queue) :
    (world.afterCall request).next other = world.next other := by
  unfold World.next World.afterCall
  rw [hqueue]
  dsimp only [Option.elim, World.afterTake]
  rw [if_neg hne]

/-- A client that is open is not opened again. -/
theorem exec_prepare_opened {start : Transport × World} {handle : Handle}
    (hlink : start.1.link = .wire (some handle)) (hopen : handle.isClosed = false)
    (request : WireRequest) : exec (prepare request) start = (.ok (), start) := by
  cases request with
  | startTls =>
      unfold prepare
      rw [exec_bind, exec_state]
      dsimp only
      rw [handle_of_link hlink, Option.getD_some, hopen]
      rfl
  | _ => rfl

/-- Starting TLS on a closed client begins with opening it. -/
theorem exec_approach_closed {start : Transport × World} {handle : Handle}
    (hlink : start.1.link = .wire (some handle)) (hclosed : handle.isClosed = true) :
    exec (approach .startTls) start = match exec (Wire.ask .open_) start with
      | (.ok _, opened) => exec (Wire.ask .startTls) opened
      | (.error failure, opened) => (.error failure, opened) := by
  unfold approach prepare
  rw [exec_bind, exec_bind, exec_state]
  dsimp only
  rw [handle_of_link hlink, Option.getD_some, hclosed]
  simp only [if_true, exec_bind]
  rcases exec (Wire.ask .open_) start with ⟨failure | answer, opened⟩
  · rfl
  · rfl

theorem leaves_open {transport : Transport} {handle : Handle} {failure : Failure}
    (hlink : transport.link = .wire (some handle)) :
    Leaves transport (.fails failure) (transport.afterCall .open_ (.fails failure)) where
  history := ⟨.open_, transport.usesTls, transport.history, rfl, List.suffix_rfl⟩
  fails := fun _ _ => detail_afterOpen hlink _
  gives := by
    intro answer h
    cases h

/-- Starting TLS on clients that are opened first. -/
theorem Abreast.askOpened {start start' : Transport × World} (h : Abreast start start')
    {handle handle' : Handle} (hlink : start.1.link = .wire (some handle))
    (hlink' : start'.1.link = .wire (some handle')) (hclosed : handle.isClosed = true)
    (hclosed' : handle'.isClosed = true) :
    ∃ outcome outcome' called called',
      Called .startTls start start' outcome outcome' called called' := by
  obtain ⟨hopening, hopened⟩ := h.afterCall .open_ rfl
  have hstart := exec_approach_closed hlink hclosed
  have hstart' := exec_approach_closed hlink' hclosed'
  have hsame : (∀ call, start.2.next (.wire call) = start'.2.next (.wire call)) →
      start.2.answerTo .open_ = start'.2.answerTo .open_ := fun hnext => hnext .open_
  rw [exec_ask] at hstart hstart'
  obtain ⟨failure, houtcome, houtcome'⟩ | ⟨answer, answer', houtcome, houtcome'⟩ :=
    Outcome.cases_of_shape_eq hopening
  · rw [houtcome, houtcome'] at hopened hsame
    rw [houtcome] at hstart
    rw [houtcome'] at hstart'
    exact ⟨.fails failure, .fails failure, _, _, hstart, hstart', rfl, hopened,
      leaves_open hlink, leaves_open hlink', hsame⟩
  · rw [houtcome, houtcome'] at hopened
    rw [houtcome] at hstart
    rw [houtcome'] at hstart'
    obtain ⟨hshape, habreast⟩ := hopened.afterCall .startTls rfl
    have huse : IsUse .startTls := ⟨.startTls, rfl, by decide, by decide⟩
    refine ⟨_, _, _, _, hstart.trans (exec_ask _ _), hstart'.trans (exec_ask _ _), hshape,
      habreast, (leaves_afterCall (link_afterCall hlink _ _) huse _).afterOpen hlink,
      (leaves_afterCall (link_afterCall hlink' _ _) huse _).afterOpen hlink', fun hnext => ?_⟩
    show (start.2.afterCall .open_).next (.wire .startTls) =
      (start'.2.afterCall .open_).next (.wire .startTls)
    rw [next_afterCall start.2 rfl (by decide), next_afterCall start'.2 rfl (by decide)]
    exact hnext .startTls

theorem Abreast.called {start start' : Transport × World} (h : Abreast start start')
    {request : WireRequest} (huse : IsUse request) :
    ∃ outcome outcome' called called',
      Called request start start' outcome outcome' called called' := by
  obtain ⟨handle, handle', hlink, hlink', hclosed⟩ := h.handle
  cases hisClosed : handle.isClosed with
  | false =>
      exact h.ask huse (exec_prepare_opened hlink hisClosed request)
        (exec_prepare_opened hlink' (hclosed ▸ hisClosed) request)
  | true =>
      cases request with
      | startTls => exact h.askOpened hlink hlink' hisClosed (hclosed ▸ hisClosed)
      | _ => exact h.ask huse rfl rfl

theorem Abreast.of_settings {start start' ending ending' : Transport × World}
    (h : Abreast start start') (hkept : settings ending = settings start)
    (hkept' : settings ending' = settings start') : Abreast ending ending' := by
  obtain ⟨hlink, hhost, -, hworld⟩ : ending.1.link = start.1.link ∧ ending.1.host = start.1.host ∧
      ending.1.history = start.1.history ∧ ending.2 = start.2 := by
    simpa [settings] using hkept
  obtain ⟨hlink', hhost', -, hworld'⟩ : ending'.1.link = start'.1.link ∧
      ending'.1.host = start'.1.host ∧ ending'.1.history = start'.1.history ∧
        ending'.2 = start'.2 := by
    simpa [settings] using hkept'
  refine ⟨?_, ?_, ?_⟩
  · rw [hhost, hhost']
    exact h.host
  · rw [hlink, hlink']
    exact h.handle
  · rw [hworld, hworld']
    exact h.script

theorem Abreast.isConnected {start start' : Transport × World} (h : Abreast start start') :
    start.1.isConnected = true ∧ start'.1.isConnected = true := by
  obtain ⟨handle, handle', hlink, hlink', -⟩ := h.handle
  exact ⟨isConnected_of_link hlink, isConnected_of_link hlink'⟩

theorem Abreast.isDirect {start start' : Transport × World} (h : Abreast start start') :
    start.1.isDirect = false ∧ start'.1.isDirect = false := by
  obtain ⟨handle, handle', hlink, hlink', -⟩ := h.handle
  exact ⟨isDirect_of_link hlink, isDirect_of_link hlink'⟩

/-- What an operation does from two starts that are abreast: it cannot put its call together, or
the calls have outcomes of the same shape. A failure of the call is reported, and an answer is
read. -/
theorem Abreast.exec_perform {start start' : Transport × World} (h : Abreast start start')
    (operation : Operation) :
    (∃ failure, exec operation.perform start = (.error failure, start) ∧
      exec operation.perform start' = (.error failure, start')) ∨
    ∃ request outcome outcome' called called',
      Called request start start' outcome outcome' called called' ∧
        ((∃ failure, outcome = .fails failure ∧ outcome' = .fails failure ∧
          exec operation.perform start = (.error (called.1.reported failure),
            (called.1.afterFailure failure, called.2)) ∧
          exec operation.perform start' = (.error (called'.1.reported failure),
            (called'.1.afterFailure failure, called'.2))) ∨
        ∃ (answer answer' : Answer) (read : Answer → Action Transport Unit),
          outcome = .gives answer ∧ outcome' = .gives answer' ∧
            (∀ answer, IsReading (read answer)) ∧
            exec operation.perform start = exec (read answer) called ∧
            exec operation.perform start' = exec (read answer') called') := by
  obtain ⟨α, name, inner, finish, hinner, hfinish, hexec⟩ := operation.calls
  have hstart := hexec start h.isDirect.1
  have hstart' := hexec start' h.isDirect.2
  rw [exec_bind, exec_lift] at hstart hstart'
  rw [← h.host] at hstart'
  cases hrequest : operation.request start.1.host with
  | error failure =>
      rw [hrequest] at hstart hstart'
      exact .inl ⟨failure, hstart, hstart'⟩
  | ok request =>
      rw [hrequest] at hstart hstart'
      dsimp only at hstart hstart'
      rw [exec_callThen h.isConnected.1] at hstart
      rw [exec_callThen h.isConnected.2] at hstart'
      obtain ⟨outcome, outcome', called, called', hcalled⟩ :=
        h.called (Operation.isUse_of_request hrequest)
      rw [hcalled.runs] at hstart
      rw [hcalled.runs'] at hstart'
      refine .inr ⟨request, outcome, outcome', called, called', hcalled, ?_⟩
      obtain ⟨failure, rfl, rfl⟩ | ⟨answer, answer', rfl, rfl⟩ :=
        Outcome.cases_of_shape_eq hcalled.shape
      · exact .inl ⟨failure, rfl, rfl, hstart, hstart'⟩
      · refine .inr ⟨answer, answer', fun answer => do
          let result ← Wire.guarded name (inner answer)
          finish result, rfl, rfl, fun answer => ?_, hstart, hstart'⟩
        exact IsReading.bind (isReading_guarded (hinner answer)) hfinish

theorem settings_afterFailure (called : Transport × World) (failure : Failure) :
    settings (called.1.afterFailure failure, called.2) = settings called := by
  rw [afterFailure_eq]
  rfl

/-- Two histories stay abreast, whatever comes of an operation in each. -/
theorem Abreast.perform {start start' : Transport × World} (h : Abreast start start')
    (operation : Operation) :
    Abreast (exec operation.perform start).2 (exec operation.perform start').2 := by
  obtain ⟨failure, hexec, hexec'⟩ | ⟨request, outcome, outcome', called, called', hcalled, hread⟩ :=
    h.exec_perform operation
  · rw [hexec, hexec']
    exact h
  · obtain ⟨failure, -, -, hexec, hexec'⟩ |
      ⟨answer, answer', read, -, -, hreading, hexec, hexec'⟩ := hread
    · rw [hexec, hexec']
      exact hcalled.abreast.of_settings (settings_afterFailure called failure)
        (settings_afterFailure called' failure)
    · rw [hexec, hexec']
      exact hcalled.abreast.of_settings ((hreading answer).keeps called)
        ((hreading answer').keeps called')

/-- Carry out operations one after the other, whatever comes of each. -/
def Operation.performAll (operations : List Operation) (start : Transport × World) :
    Transport × World :=
  operations.foldl (fun reached operation => (exec operation.perform reached).2) start

theorem Abreast.performAll {start start' : Transport × World} (h : Abreast start start')
    (operations : List Operation) :
    Abreast (Operation.performAll operations start) (Operation.performAll operations start') := by
  induction operations generalizing start start' with
  | nil => exact h
  | cons operation operations ih => exact ih (h.perform operation)

/-! ## Failures of the next operation -/

/-- The last call between two states was not answered: the wire client itself failed, and not
because the server was lost. -/
def StopsUnanswered (before after : Transport) : Prop :=
  ∃ request usesTls failure earlier,
    after.history = ⟨request, usesTls, .fails failure⟩ :: earlier ∧ before.history <:+ earlier ∧
      failure.isA (.wire .general) = true ∧ failure.isA (.wire .communication) = false

theorem stopsUnanswered_iff {before after : Transport} {outcome : Outcome}
    (h : Leaves before outcome after) : StopsUnanswered before after ↔
      ∃ failure, outcome = .fails failure ∧ failure.isA (.wire .general) = true ∧
        failure.isA (.wire .communication) = false := by
  obtain ⟨request, usesTls, earlier, hhistory, hsuffix⟩ := h.history
  constructor
  · intro hstops
    obtain ⟨_, _, failure, _, hfails, -, hgeneral, hlost⟩ := hstops
    rw [hhistory] at hfails
    cases hfails
    exact ⟨failure, rfl, hgeneral, hlost⟩
  · intro hfails
    obtain ⟨failure, rfl, hgeneral, hlost⟩ := hfails
    exact ⟨request, usesTls, failure, earlier, hhistory, hsuffix, hgeneral, hlost⟩

theorem not_stopsUnanswered_self (transport : Transport) :
    ¬ StopsUnanswered transport transport := by
  intro hstops
  obtain ⟨_, _, _, earlier, hhistory, hsuffix, -⟩ := hstops
  have hlength := hsuffix.length_le
  rw [hhistory, List.length_cons] at hlength
  omega

theorem stopsUnanswered_congr {before after after' : Transport}
    (h : after.history = after'.history) :
    StopsUnanswered before after ↔ StopsUnanswered before after' := by
  unfold StopsUnanswered
  rw [h]

/-- The failure of a client that did not lose the server tells the details it was left with. -/
theorem alike_reported_iff (transport transport' : Transport) {failure : Failure}
    (hgeneral : failure.isA (.wire .general) = true)
    (hlost : failure.isA (.wire .communication) = false) :
    (transport.reported failure).Alike (transport'.reported failure) ↔
      transport.detail = transport'.detail := by
  constructor
  · intro halike
    unfold reported at halike
    simp only [hgeneral, hlost, Bool.false_eq_true, if_false, if_true] at halike
    have hmisuse := failsByMisuse_detail transport
    have hmisuse' := failsByMisuse_detail transport'
    cases hdetail : transport.detail with
    | error unreadable =>
        obtain ⟨hfault, kind, rfl⟩ := hmisuse unreadable hdetail
        rw [hdetail] at halike
        cases hdetail' : transport'.detail with
        | error unreadable' =>
            obtain ⟨-, kind', rfl⟩ := hmisuse' unreadable' hdetail'
            rw [hdetail'] at halike
            have heq : kind = kind' := halike.kind_eq rfl
            rw [heq]
        | ok detail' =>
            rw [hdetail'] at halike
            have heq : kind = .directory := halike.kind_eq rfl
            rw [heq] at hfault
            cases hfault.unreported
    | ok detail =>
        rw [hdetail] at halike
        cases hdetail' : transport'.detail with
        | error unreadable' =>
            obtain ⟨hfault', kind', rfl⟩ := hmisuse' unreadable' hdetail'
            rw [hdetail'] at halike
            have heq : Kind.directory = kind' := halike.kind_eq halike.1
            rw [← heq] at hfault'
            cases hfault'.unreported
        | ok detail' =>
            rw [hdetail'] at halike
            have heq : detail = detail' := halike.1
            rw [heq]
  · intro hdetail
    unfold reported
    rw [hdetail]
    exact .refl _

theorem reported_of_answered (transport transport' : Transport) {failure : Failure}
    (h : ¬ (failure.isA (.wire .general) = true ∧ failure.isA (.wire .communication) = false)) :
    transport.reported failure = transport'.reported failure := by
  unfold reported
  cases hlost : failure.isA (.wire .communication) with
  | true => rfl
  | false =>
      cases hgeneral : failure.isA (.wire .general) with
      | true => exact absurd ⟨hgeneral, hlost⟩ h
      | false => rfl

/-- Two histories on an open handle differ in earlier results alone, and then the same outcomes are
met. The failure of the next operation is the same, and so is its kind once it is classified, except
where the client itself fails without losing the server: then it tells the details that the earlier
operations left, and these are to be equal. -/
theorem failure_alike_iff {start start' : Transport × World} (h : Abreast start start')
    (earlier : List Operation) (operation : Operation) {failure : Failure}
    {after : Transport × World} :
    let before := Operation.performAll earlier start
    let before' := Operation.performAll earlier start'
    (∀ call, before.2.next (.wire call) = before'.2.next (.wire call)) →
      exec operation.perform before = (.error failure, after) →
        ∃ failure' after', exec operation.perform before' = (.error failure', after') ∧
          (failure.Alike failure' ↔
            (StopsUnanswered before.1 after.1 → before.1.detail = before'.1.detail)) := by
  intro before before' hnext hfails
  have hbefore : Abreast before before' := h.performAll earlier
  obtain ⟨unmade, hexec, hexec'⟩ | ⟨request, outcome, outcome', called, called', hcalled, hread⟩ :=
    hbefore.exec_perform operation
  · -- the call could not be put together
    obtain ⟨hfailure, hafter⟩ := Prod.mk.inj (hexec.symm.trans hfails)
    cases hfailure
    subst hafter
    refine ⟨failure, before', hexec', iff_of_true (.refl failure) fun hstops => ?_⟩
    exact absurd hstops (not_stopsUnanswered_self before.1)
  · obtain rfl := hcalled.same hnext
    obtain ⟨fault, rfl, -, hexec, hexec'⟩ | ⟨answer, answer', read, rfl, hanswer, hreading, hexec,
      hexec'⟩ := hread
    · -- the call failed: only a failure of the client itself tells what was there before
      obtain ⟨hfailure, hafter⟩ := Prod.mk.inj (hexec.symm.trans hfails)
      cases hfailure
      subst hafter
      have hhistory : (called.1.afterFailure fault).history = called.1.history := by
        rw [afterFailure_eq]
      have hstops : StopsUnanswered before.1 (called.1.afterFailure fault) ↔
          fault.isA (.wire .general) = true ∧ fault.isA (.wire .communication) = false := by
        rw [stopsUnanswered_congr hhistory, stopsUnanswered_iff hcalled.leaves]
        simp
      refine ⟨_, _, hexec', ?_⟩
      by_cases hclient : fault.isA (.wire .general) = true ∧
        fault.isA (.wire .communication) = false
      · rw [alike_reported_iff called.1 called'.1 hclient.1 hclient.2,
          hcalled.leaves.fails fault rfl, hcalled.leaves'.fails fault rfl]
        exact ⟨fun hdetail _ => hdetail, fun hdetail => hdetail (hstops.2 hclient)⟩
      · rw [reported_of_answered called.1 called'.1 hclient]
        exact iff_of_true (.refl _) fun hstopped => absurd (hstops.1 hstopped) hclient
    · -- the call was answered: what is read of the answer is the same
      obtain rfl : answer = answer' := Outcome.gives.inj hanswer
      have hlink : called.1.link = called'.1.link :=
        (hcalled.leaves.gives answer rfl).trans (hcalled.leaves'.gives answer rfl).symm
      have houtcome := (hreading answer).outcome called called' hlink
      have hkept := (hreading answer).keeps called
      rw [← hexec, hfails] at houtcome hkept
      have hhistory : after.1.history = called.1.history := congrArg (·.2.2.1) hkept
      refine ⟨failure, (exec (read answer) called').2, ?_, iff_of_true (.refl _) fun hstops => ?_⟩
      · rw [hexec']
        exact Prod.ext houtcome.symm rfl
      · rw [stopsUnanswered_congr hhistory, stopsUnanswered_iff hcalled.leaves] at hstops
        obtain ⟨_, hgives, -⟩ := hstops
        cases hgives

/-- An open handle, with the outcomes of a deletion and of the creation of an entry. -/
def answering (deletion creation : Outcome) : Transport × World :=
  ({ link := .wire (some {}), host := .str "ldap://foo:389" },
    { script := fun
        | .wire .delete => [deletion]
        | .wire .add => [creation]
        | _ => [] })

/-- The refusal of an operation, with a result code. -/
def refusal (code : Int) (description : String) : Outcome :=
  .gives {
    value := .bool false
    result := .dict [(.str "result", .int code), (.str "description", .str description)] }

/-- The failure of a client that is given a name that is none. -/
def misnamed : Outcome :=
  .fails { kind := .wire .invalidName, text := some "invalid DN" }

/-- The deletion of an entry. -/
def deleting : List Operation :=
  [.delete (.str "cn=a")]

/-- The creation of an entry. -/
def creating : Operation :=
  .add (.str "cn=b") (.dict [])

/-- What becomes of the creation after the deletion. -/
def created (deletion creation : Outcome) : Except Failure Unit × (Transport × World) :=
  exec creating.perform (Operation.performAll deleting (answering deletion creation))

theorem abreast_answering (deletion deletion' creation : Outcome)
    (h : deletion.shape = deletion'.shape) :
    Abreast (answering deletion creation) (answering deletion' creation) where
  host := rfl
  handle := ⟨{}, {}, rfl, rfl, rfl⟩
  script := by
    intro call
    cases call <;> simp [answering, h]

/-- The creation meets the same outcomes, whatever came of the deletion. -/
theorem next_answering {creation : Outcome} (call : WireCall) :
    (Operation.performAll deleting (answering (.gives {}) creation)).2.next (.wire call) =
      (Operation.performAll deleting
        (answering (refusal 50 "insufficientAccessRights") creation)).2.next (.wire call) := by
  cases call <;> with_unfolding_all rfl

/-- A creation that the server refuses tells the same, whether or not the deletion before it was
refused. -/
theorem refusal_tells_itself :
    Abreast (answering (.gives {}) (refusal 68 "entryAlreadyExists"))
        (answering (refusal 50 "insufficientAccessRights") (refusal 68 "entryAlreadyExists")) ∧
      ∃ failure after failure' after',
        created (.gives {}) (refusal 68 "entryAlreadyExists") = (.error failure, after) ∧
          created (refusal 50 "insufficientAccessRights") (refusal 68 "entryAlreadyExists") =
            (.error failure', after') ∧ failure.Alike failure' := by
  have habreast := abreast_answering (.gives {}) (refusal 50 "insufficientAccessRights")
    (refusal 68 "entryAlreadyExists") rfl
  have hfails : (created (.gives {}) (refusal 68 "entryAlreadyExists")).1.isOk = false := by
    decide +kernel
  have hanswered : ((created (.gives {}) (refusal 68 "entryAlreadyExists")).2.1.history.head?.map
      fun exchange => exchange.outcome.shape.isNone) = some true := by
    decide +kernel
  cases hcreated : created (.gives {}) (refusal 68 "entryAlreadyExists") with
  | mk outcome after =>
      rw [hcreated] at hfails hanswered
      cases outcome with
      | ok _ => cases hfails
      | error failure =>
          obtain ⟨failure', after', hcreated', halike⟩ :=
            failure_alike_iff habreast deleting creating next_answering hcreated
          refine ⟨habreast, failure, after, failure', after', rfl, hcreated',
            halike.2 fun hstops => ?_⟩
          obtain ⟨_, _, _, _, hhistory, -⟩ := hstops
          dsimp only at hanswered
          rw [hhistory] at hanswered
          cases hanswered

/-- A creation that the client refuses tells the details of the deletion before it, and is taken for
a failure of another kind where that was refused. -/
theorem misnamed_tells_earlier_refusal :
    Abreast (answering (.gives {}) misnamed)
        (answering (refusal 50 "insufficientAccessRights") misnamed) ∧
      (∀ call,
        (Operation.performAll deleting (answering (.gives {}) misnamed)).2.next (.wire call) =
          (Operation.performAll deleting
            (answering (refusal 50 "insufficientAccessRights") misnamed)).2.next (.wire call)) ∧
      ∃ failure failure', (created (.gives {}) misnamed).1 = .error failure ∧
        (created (refusal 50 "insufficientAccessRights") misnamed).1 = .error failure' ∧
        failure.detail = none ∧
        failure'.detail = some ⟨.int 50, .str "insufficientAccessRights", .str ""⟩ ∧
        ¬ failure.Alike failure' := by
  have hfails : (created (.gives {}) misnamed).1 = .error
      { kind := .directory, text := some "invalid DN"
        cause := some { kind := .wire .invalidName, text := some "invalid DN" } } := by
    unfold created
    with_unfolding_all rfl
  have hfails' : (created (refusal 50 "insufficientAccessRights") misnamed).1 = .error
      { kind := .directory, text := some "invalid DN"
        cause := some { kind := .wire .invalidName, text := some "invalid DN" }
        detail := some ⟨.int 50, .str "insufficientAccessRights", .str ""⟩ } := by
    unfold created
    with_unfolding_all rfl
  refine ⟨abreast_answering _ _ _ rfl, next_answering, _, _, hfails, hfails', rfl, rfl,
    fun halike => ?_⟩
  cases halike.1

end Transport

end Directory
