import Directory.Proofs.Guard.Operations
import Directory.Proofs.Transport.Tls

/-!
# How often TLS is started

A guard starts TLS whenever the transport is not bound, and a bind that is refused leaves it so. On
the client that it works with, the exchanges follow each other in a fixed way: `IsOrderly` says
which request is due after which others. From that it can be read off when TLS is started again on a
client on which it was started before: just when something follows a bind that left the transport
unbound.
-/

namespace Directory

/-- The request is to start TLS. -/
def WireRequest.isStartTls : WireRequest → Bool
  | .startTls => true
  | _ => false

theorem WireRequest.isStartTls_iff {request : WireRequest} :
    request.isStartTls = true ↔ request = .startTls := by
  cases request <;> simp [isStartTls]

namespace Exchange

/-- The transport is bound after an exchange, given whether it was before. A bind settles that if
its answer can be read, and losing the server ends it. -/
def leavesBound (exchange : Exchange) (wasBound : Bool) : Bool :=
  match exchange.outcome with
  | .fails failure => !failure.isA (.wire .communication) && wasBound
  | .gives answer =>
    if exchange.request.isBind then (Transport.acceptance answer).toOption.getD wasBound
    else wasBound

/-- The transport is bound after the exchanges with a client, of which the latest comes first. -/
def leaveBound (exchanges : List Exchange) : Bool :=
  exchanges.foldr leavesBound false

/-- TLS was started in the latest of the exchanges. -/
def justStarted : List Exchange → Bool
  | [] => false
  | exchange :: _ => exchange.startsTls

/-- What a guard asks for after earlier exchanges: a bind, when the transport is bound or TLS was
just started, and otherwise to start TLS, on a client that it may have to open for that. -/
def IsDue (earlier : List Exchange) : WireRequest → Prop
  | .open_ => ¬ HaveTls earlier
  | .startTls => leaveBound earlier = false ∧ justStarted earlier = false
  | .bind .. => leaveBound earlier = true ∨ justStarted earlier = true
  | _ => False

/-- Each of the exchanges was due after those before it. -/
inductive IsOrderly : List Exchange → Prop
  | nil : IsOrderly []
  | cons {exchange : Exchange} {earlier : List Exchange} (hearlier : IsOrderly earlier)
      (hdue : IsDue earlier exchange.request) : IsOrderly (exchange :: earlier)

/-- TLS was started again on a client on which it was started before. -/
def RepeatTls (exchanges : List Exchange) : Prop :=
  ∃ again earlier, again :: earlier <:+ exchanges ∧ again.request.isStartTls = true ∧
    HaveTls earlier

/-- Something was asked for after a bind that left the transport unbound. -/
def GoOnUnbound (exchanges : List Exchange) : Prop :=
  ∃ next bind earlier, next :: bind :: earlier <:+ exchanges ∧ bind.request.isBind = true ∧
    leaveBound (bind :: earlier) = false

variable {exchange : Exchange} {exchanges earlier : List Exchange}

theorem leaveBound_cons (exchange : Exchange) (earlier : List Exchange) :
    leaveBound (exchange :: earlier) = exchange.leavesBound (leaveBound earlier) :=
  rfl

/-- Only a bind binds. -/
theorem leavesBound_of_not_isBind (h : exchange.request.isBind = false) :
    exchange.leavesBound false = false := by
  unfold leavesBound
  cases exchange.outcome with
  | fails failure => exact Bool.and_false _
  | gives answer => simp [h]

theorem haveTls_cons_iff :
    HaveTls (exchange :: earlier) ↔ exchange.startsTls = true ∨ HaveTls earlier := by
  simp [HaveTls]

theorem haveTls_of_justStarted (h : justStarted exchanges = true) : HaveTls exchanges := by
  cases exchanges with
  | nil => cases h
  | cons exchange earlier => exact ⟨exchange, List.mem_cons_self, h⟩

instance (exchanges : List Exchange) : Decidable (HaveTls exchanges) :=
  inferInstanceAs (Decidable (∃ exchange ∈ exchanges, exchange.startsTls = true))

theorem repeatTls_cons_iff : RepeatTls (exchange :: earlier) ↔
    (exchange.request.isStartTls = true ∧ HaveTls earlier) ∨ RepeatTls earlier := by
  constructor
  · intro hrepeats
    obtain ⟨again, others, hsuffix, hrest⟩ := hrepeats
    rcases List.suffix_cons_iff.1 hsuffix with heq | hsuffix
    · obtain ⟨rfl, rfl⟩ := List.cons.inj heq
      exact .inl hrest
    · exact .inr ⟨again, others, hsuffix, hrest⟩
  · rintro (hfirst | ⟨again, others, hsuffix, hrest⟩)
    · exact ⟨exchange, earlier, List.suffix_rfl, hfirst⟩
    · exact ⟨again, others, hsuffix.trans (List.suffix_cons _ _), hrest⟩

instance decidableRepeatTls : (exchanges : List Exchange) → Decidable (RepeatTls exchanges)
  | [] => .isFalse fun ⟨_, _, hsuffix, _⟩ => absurd hsuffix.length_le (Nat.not_succ_le_zero _)
  | _ :: earlier =>
    have := decidableRepeatTls earlier
    decidable_of_iff _ repeatTls_cons_iff.symm

theorem startsTls_of_isBind (h : exchange.request.isBind = true) : exchange.startsTls = false := by
  unfold startsTls
  cases hrequest : exchange.request with
  | startTls =>
      rw [hrequest] at h
      cases h
  | _ => rfl

theorem GoOnUnbound.of_suffix (h : GoOnUnbound earlier) (hsuffix : earlier <:+ exchanges) :
    GoOnUnbound exchanges := by
  obtain ⟨next, bind, others, hothers, hbind⟩ := h
  exact ⟨next, bind, others, hothers.trans hsuffix, hbind⟩

namespace IsOrderly

theorem of_cons (h : IsOrderly (exchange :: earlier)) :
    IsOrderly earlier ∧ IsDue earlier exchange.request := by
  cases h with
  | cons hearlier hdue => exact ⟨hearlier, hdue⟩

theorem of_suffix (h : IsOrderly exchanges) (hsuffix : earlier <:+ exchanges) :
    IsOrderly earlier := by
  induction h with
  | nil =>
      rw [List.suffix_nil.1 hsuffix]
      exact .nil
  | cons hrest hdue ih =>
      rcases List.suffix_cons_iff.1 hsuffix with rfl | hsuffix
      · exact .cons hrest hdue
      · exact ih hsuffix

/-- A bind is asked for when the transport is bound or TLS was just started. -/
theorem due_of_isBind (h : IsOrderly (exchange :: earlier))
    (hbind : exchange.request.isBind = true) :
    leaveBound earlier = true ∨ justStarted earlier = true := by
  have hdue := h.of_cons.2
  cases hrequest : exchange.request with
  | bind username password =>
      rw [hrequest] at hdue
      exact hdue
  | _ =>
      rw [hrequest] at hbind
      cases hbind

/-- A transport becomes bound only on a client on which TLS was started. -/
theorem haveTls_of_leaveBound (h : IsOrderly exchanges) (hbound : leaveBound exchanges = true) :
    HaveTls exchanges := by
  induction h with
  | nil => cases hbound
  | @cons exchange earlier hearlier hdue ih =>
      refine HaveTls.cons ?_ exchange
      cases hbind : exchange.request.isBind with
      | true =>
          rcases (hearlier.cons hdue).due_of_isBind hbind with hwas | hstarted
          · exact ih hwas
          · exact haveTls_of_justStarted hstarted
      | false =>
          cases hwas : leaveBound earlier with
          | true => exact ih hwas
          | false =>
              rw [leaveBound_cons, hwas, leavesBound_of_not_isBind hbind] at hbound
              cases hbound

/-- Where TLS is started again, a bind had left the transport unbound since it was started before.
-/
theorem goOnUnbound_of_haveTls (h : IsOrderly (exchange :: earlier))
    (hrequest : exchange.request = .startTls) (htls : HaveTls earlier) :
    GoOnUnbound (exchange :: earlier) := by
  -- on the earlier exchanges: the latest is the bind, or it tries to start TLS again itself
  induction earlier generalizing exchange with
  | nil =>
      obtain ⟨_, hmem, -⟩ := htls
      cases hmem
  | cons latest others ih =>
      obtain ⟨hearlier, hdue⟩ := h.of_cons
      rw [hrequest] at hdue
      obtain ⟨hunbound, hnotStarted⟩ := hdue
      cases hbind : latest.request.isBind with
      | true => exact ⟨exchange, latest, others, List.suffix_rfl, hbind, hunbound⟩
      | false =>
          have hothers : HaveTls others :=
            (haveTls_cons_iff.1 htls).resolve_left (Bool.eq_false_iff.1 hnotStarted)
          have hlatest := hearlier.of_cons.2
          cases hkind : latest.request with
          | startTls => exact (ih hearlier hkind hothers).of_suffix (List.suffix_cons _ _)
          | open_ =>
              rw [hkind] at hlatest
              exact absurd hothers hlatest
          | bind username password =>
              rw [hkind] at hbind
              cases hbind
          | _ =>
              rw [hkind] at hlatest
              cases hlatest

/-- TLS is started again just when something follows a bind that left the transport unbound. -/
theorem repeatTls_iff (h : IsOrderly exchanges) : RepeatTls exchanges ↔ GoOnUnbound exchanges := by
  constructor
  · intro hrepeats
    obtain ⟨again, earlier, hsuffix, hrequest, htls⟩ := hrepeats
    have hgoes := (h.of_suffix hsuffix).goOnUnbound_of_haveTls
      (WireRequest.isStartTls_iff.1 hrequest) htls
    exact hgoes.of_suffix hsuffix
  · intro hgoes
    obtain ⟨next, bind, earlier, hsuffix, hbind, hunbound⟩ := hgoes
    obtain ⟨hbinds, hdue⟩ := (h.of_suffix hsuffix).of_cons
    have htls : HaveTls earlier := by
      rcases hbinds.due_of_isBind hbind with hwas | hstarted
      · exact hbinds.of_cons.1.haveTls_of_leaveBound hwas
      · exact haveTls_of_justStarted hstarted
    cases hkind : next.request with
    | startTls =>
        exact ⟨next, bind :: earlier, hsuffix, WireRequest.isStartTls_iff.2 hkind, htls.cons bind⟩
    | open_ =>
        rw [hkind] at hdue
        exact absurd (htls.cons bind) hdue
    | bind username password =>
        rw [hkind] at hdue
        rcases hdue with hwas | hstarted
        · rw [hunbound] at hwas
          cases hwas
        · rw [show justStarted (bind :: earlier) = bind.startsTls from rfl,
            startsTls_of_isBind hbind] at hstarted
          cases hstarted
    | _ =>
        rw [hkind] at hdue
        cases hdue

end IsOrderly

end Exchange

namespace Transport

open Directory.Action Exchange

variable {transport : Transport}

/-- A transport under TLS, on a client that only guards have used since it was made. -/
structure IsGuarded (transport : Transport) : Prop where
  client : ∃ handle, transport.link = .wire (some handle) ∧
    (HaveTls transport.calls → handle.isClosed = false)
  host : transport.host.IsReadable
  tls : transport.usesTls.isTrue = true
  bound : transport.isBound = leaveBound transport.calls
  orderly : IsOrderly transport.calls

/-- A transport on which no guard has just started TLS, so that no bind is due unless it is bound.
-/
structure IsSettled (transport : Transport) : Prop extends transport.IsGuarded where
  settled : justStarted transport.calls = false

/-- What is due is to open the client, to start TLS, or to bind. -/
theorem due_cases {earlier : List Exchange} {request : WireRequest} (h : IsDue earlier request) :
    request = .open_ ∨ request = .startTls ∨
      ∃ username password, request = .bind username password := by
  cases request with
  | open_ => exact .inl rfl
  | startTls => exact .inr (.inl rfl)
  | bind username password => exact .inr (.inr ⟨username, password, rfl⟩)
  | _ => cases h

/-- A client on which TLS was started stays open through the calls of guards. -/
theorem isClosed_afterCall {earlier : List Exchange} {request : WireRequest} {handle : Handle}
    (hdue : IsDue earlier request) (hopen : HaveTls earlier → handle.isClosed = false)
    (usesTls : Value) (outcome : Outcome)
    (htls : HaveTls (⟨request, usesTls, outcome⟩ :: earlier)) :
    (handle.afterCall request outcome).isClosed = false := by
  cases outcome with
  | gives answer =>
      rcases due_cases hdue with rfl | rfl | ⟨username, password, rfl⟩
      · rfl
      · rfl
      · rfl
  | fails failure =>
      rcases haveTls_cons_iff.1 htls with hstarts | hearlier
      · exact absurd hstarts (by cases request <;> simp [startsTls])
      · exact hopen hearlier

namespace IsGuarded

/-- What is due is asked for, and who is bound afterwards is what comes of it. -/
theorem afterCall (h : transport.IsGuarded) {request : WireRequest}
    (hdue : IsDue transport.calls request) (outcome : Outcome) {ended : Transport}
    (hlink : ended.link = (transport.afterCall request outcome).link)
    (hhost : ended.host = transport.host) (htls : ended.usesTls = transport.usesTls)
    (hhistory : ended.history = (transport.afterCall request outcome).history)
    (hbound : ended.isBound =
      leavesBound ⟨request, transport.usesTls, outcome⟩ transport.isBound) :
    ended.IsGuarded := by
  have hclient : request.makesClient = false := by
    rcases due_cases hdue with rfl | rfl | ⟨username, password, rfl⟩
    · rfl
    · rfl
    · rfl
  have hcalls : ended.calls = ⟨request, transport.usesTls, outcome⟩ :: transport.calls := by
    rw [← calls_afterCall hclient outcome]
    unfold calls
    rw [hhistory]
  obtain ⟨handle, hhandle, hopen⟩ := h.client
  refine ⟨⟨handle.afterCall request outcome, ?_, ?_⟩, ?_, ?_, ?_, ?_⟩
  · rw [hlink, link_afterCall hhandle]
    rfl
  · rw [hcalls]
    exact isClosed_afterCall hdue hopen transport.usesTls outcome
  · rw [hhost]
    exact h.host
  · rw [htls]
    exact h.tls
  · rw [hbound, hcalls, leaveBound_cons, h.bound]
  · rw [hcalls]
    exact h.orderly.cons hdue

/-- Where no one is bound, a call other than a bind leaves it so. -/
theorem afterCall_of_not_isBound (h : transport.IsGuarded) (hunbound : transport.isBound = false)
    (request : WireRequest) (hdue : IsDue transport.calls request) (hbind : request.isBind = false)
    (outcome : Outcome) : (transport.afterCall request outcome).IsGuarded := by
  refine h.afterCall hdue outcome rfl rfl rfl rfl ?_
  rw [hunbound, leavesBound_of_not_isBind hbind]
  exact hunbound

end IsGuarded

theorem afterFailure_of_not_isBound (h : transport.isBound = false) (failure : Failure) :
    transport.afterFailure failure = transport := by
  rw [afterFailure_eq, h, Bool.and_false, ← h]

/-- Nothing is bound and nothing was begun, so TLS is to be started. -/
def AwaitsTls (transport : Transport) : Prop :=
  transport.IsSettled ∧ transport.isBound = false

/-- A client that is closed is opened, which starts no TLS. -/
theorem AwaitsTls.afterOpen (h : transport.AwaitsTls) (hnot : ¬ HaveTls transport.calls)
    (outcome : Outcome) : (transport.afterCall .open_ outcome).AwaitsTls := by
  refine ⟨⟨h.1.afterCall_of_not_isBound h.2 .open_ hnot rfl outcome, ?_⟩, h.2⟩
  rw [calls_afterCall rfl]
  rfl

theorem AwaitsTls.afterStart (h : transport.AwaitsTls) (outcome : Outcome) :
    (transport.afterCall .startTls outcome).IsGuarded :=
  h.1.afterCall_of_not_isBound h.2 .startTls ⟨h.1.bound.symm.trans h.2, h.1.settled⟩ rfl outcome

/-- TLS is started where it is due, or all is as before. -/
theorem meets_start : Meets (fun start => start.1.AwaitsTls) (do
    let answer ← Wire.ask .startTls
    Wire.check answer.value "start_tls")
    (fun _ ending => ending.1.IsGuarded ∧ justStarted ending.1.calls = true)
    (fun _ ending => ending.1.AwaitsTls) := by
  have hask : Meets (fun start => start.1.AwaitsTls) (Wire.ask .startTls)
      (fun answer ending => ending.1.IsGuarded ∧ ending.1.isBound = false ∧
        justStarted ending.1.calls = answer.value.isTrue)
      (fun _ ending => ending.1.AwaitsTls) := by
    refine meets_ask (fun start answer h => ⟨h.afterStart _, h.2, ?_⟩)
      fun start failure h => ⟨⟨h.afterStart _, ?_⟩, h.2⟩
    · rw [calls_afterCall rfl]
      rfl
    · rw [calls_afterCall rfl]
      rfl
  refine Meets.bind hask fun answer => ?_
  intro start hstart
  obtain ⟨hguarded, hunbound, hstarted⟩ := hstart
  rw [exec_check]
  by_cases hvalue : answer.value.isTrue = true
  · rw [if_pos hvalue]
    exact ⟨hguarded, hstarted.trans hvalue⟩
  · rw [if_neg hvalue]
    obtain ⟨failure, hexec⟩ := exec_refused (α := Value) "start_tls" start
    rw [hexec]
    exact ⟨⟨hguarded, hstarted.trans (Bool.eq_false_iff.2 hvalue)⟩, hunbound⟩

theorem meets_startTls_of_awaitsTls : Meets (fun start => start.1.AwaitsTls) Wire.startTls
    (fun _ ending => ending.1.IsGuarded ∧ justStarted ending.1.calls = true)
    (fun _ ending => ending.1.IsSettled) := by
  have hread {β : Type} {action : Action Transport β} (h : Preserves AwaitsTls action) :=
    Meets.of_preserves_imp h fun _ h => h.1
  refine Meets.bind (hread Preserves.state) fun _ =>
    Meets.bind (hread (Preserves.lift _)) fun _ => ?_
  have hguarded : Meets (fun start => start.1.AwaitsTls) (do
      if (((← Action.state).handle?).getD {}).isClosed then
        let _ ← Wire.ask .open_
      Wire.check (← Wire.ask .startTls).value "start_tls")
      (fun _ ending => ending.1.IsGuarded ∧ justStarted ending.1.calls = true)
      (fun _ ending => ending.1.AwaitsTls) := by
    refine Meets.state_bind fun transport => ?_
    dsimp only
    split
    next hclosed =>
      have hopen : Meets (fun start => start.1.AwaitsTls ∧ start.1 = transport)
          (Wire.ask .open_) (fun _ ending => ending.1.AwaitsTls)
          (fun _ ending => ending.1.AwaitsTls) := by
        have hnot (h : transport.AwaitsTls) : ¬ HaveTls transport.calls := by
          intro htls
          obtain ⟨handle, hlink, hopen⟩ := h.1.client
          unfold handle? at hclosed
          rw [hlink] at hclosed
          exact absurd hclosed (Bool.eq_false_iff.1 (hopen htls))
        refine meets_ask (fun start answer h => ?_) fun start failure h => ?_
        all_goals
          obtain ⟨hawaits, rfl⟩ := h
          exact hawaits.afterOpen (hnot hawaits) _
      exact Meets.bind hopen fun _ => meets_start
    next => exact meets_start.restrict (fun _ h => h.1)
  refine meets_guarded (hguarded.restrict (fun _ h => h.1))
    (fun _ h _ => h.1) fun failure ending h => ?_
  rw [afterFailure_of_not_isBound h.2]
  exact h.1

/-- What comes of a bind that was due. -/
theorem IsGuarded.afterBind (h : transport.IsGuarded) {username password : Value}
    (hdue : IsDue transport.calls (.bind username password)) (outcome : Outcome) {ended : Transport}
    (hlink : ended.link = (transport.afterCall (.bind username password) outcome).link)
    (hhost : ended.host = transport.host) (htls : ended.usesTls = transport.usesTls)
    (hhistory : ended.history = (transport.afterCall (.bind username password) outcome).history)
    (hbound : ended.isBound =
      leavesBound ⟨.bind username password, transport.usesTls, outcome⟩ transport.isBound) :
    ended.IsSettled := by
  refine ⟨h.afterCall hdue outcome hlink hhost htls hhistory hbound, ?_⟩
  unfold calls
  rw [hhistory]
  rfl

/-- A bind is sent where it is due. -/
theorem meets_wireBind_of_isGuarded {username : Value} (password : Value)
    (husername : username.IsReadable) :
    Meets (fun start => start.1.IsGuarded ∧
        (start.1.isBound = true ∨ justStarted start.1.calls = true))
      (Wire.bind username password) (fun _ ending => ending.1.IsSettled)
      (fun _ ending => ending.1.IsSettled) := by
  refine Meets.of_ends fun start hstart => ?_
  obtain ⟨hguarded, hbound⟩ := hstart
  obtain ⟨handle, hlink, -⟩ := hguarded.client
  have hnote : Value.note [start.1.host, username.orElse (.str "")] = .ok () :=
    hguarded.host.note_pair (husername.orElse (Value.isReadable_str ""))
  have hdue : IsDue start.1.calls (.bind username password) := by
    show leaveBound start.1.calls = true ∨ _
    rw [← hguarded.bound]
    exact hbound
  rw [exec_wireBind hlink hnote]
  cases start.2.answerTo (.bind username password) with
  | fails failure =>
      show (afterFailure _ failure).IsSettled
      rw [afterFailure_eq]
      exact hguarded.afterBind hdue (.fails failure) rfl rfl rfl rfl rfl
  | gives answer =>
      have hleaves : leavesBound ⟨.bind username password, start.1.usesTls, .gives answer⟩
          start.1.isBound = (acceptance answer).toOption.getD start.1.isBound := rfl
      show (afterAnswer _ username answer).IsSettled
      unfold afterAnswer
      cases hacceptance : acceptance answer with
      | error unreadable =>
          rw [hacceptance] at hleaves
          exact hguarded.afterBind hdue (.gives answer) rfl rfl rfl rfl hleaves.symm
      | ok isAccepted =>
          rw [hacceptance] at hleaves
          exact hguarded.afterBind hdue (.gives answer) rfl rfl rfl rfl hleaves.symm

/-- A guard sends binds where they are due, after it started TLS where that is due. -/
theorem preserves_sendBind_isSettled {username : Value} (password : Value)
    (husername : username.IsReadable) :
    Preserves IsSettled (Guard.sendBind username password) := by
  have hwire (start : Transport × World) (h : start.1.IsGuarded) :
      ∃ handle, start.1.link = .wire handle := by
    obtain ⟨handle, hlink, -⟩ := h.client
    exact ⟨some handle, hlink⟩
  have hbind : Meets (fun start => start.1.IsGuarded ∧
        (start.1.isBound = true ∨ justStarted start.1.calls = true))
      (Transport.bind username password) (fun _ ending => ending.1.IsSettled)
      (fun _ ending => ending.1.IsSettled) :=
    meets_choose_of_wire (fun start h => hwire start h.1)
      (meets_wireBind_of_isGuarded password husername)
  have hstart : Meets (fun start => start.1.AwaitsTls) Transport.startTls
      (fun _ ending => ending.1.IsGuarded ∧ justStarted ending.1.calls = true)
      (fun _ ending => ending.1.IsSettled) :=
    meets_choose_of_wire (fun start h => hwire start h.1.toIsGuarded) meets_startTls_of_awaitsTls
  refine Meets.preserves (Meets.state_bind fun transport => ?_)
  cases hbound : transport.isBound with
  | true =>
      rw [Bool.not_true, Bool.and_false]
      refine hbind.restrict ?_
      intro start h
      obtain ⟨hsettled, rfl⟩ := h
      exact ⟨hsettled.toIsGuarded, .inl hbound⟩
  | false =>
      cases htls : transport.usesTls.isTrue with
      | true =>
          refine Meets.bind (hstart.restrict ?_) fun _ =>
            hbind.mono (fun _ h => ⟨h.1, .inr h.2⟩) (fun _ _ h => h) fun _ _ h => h
          intro start h
          obtain ⟨hsettled, rfl⟩ := h
          exact ⟨hsettled, hbound⟩
      | false =>
          intro start h
          obtain ⟨hsettled, rfl⟩ := h
          rw [hsettled.tls] at htls
          cases htls

/-! ## Sessions of guards -/

/-- A transport over wire clients that is to use TLS. -/
def WantsTls (transport : Transport) : Prop :=
  (∃ handle, transport.link = .wire handle) ∧ transport.usesTls.isTrue = true

/-- A transport that is to use TLS, as which no one is bound. -/
def AwaitsClient (transport : Transport) : Prop :=
  transport.WantsTls ∧ transport.isBound = false

/-- On a client that was just made nothing was begun. -/
theorem meets_connect_isSettled (host port : Value) : Meets (fun start => start.1.WantsTls)
    (Wire.connect host port) (fun _ ending => ending.1.IsSettled) (fun _ _ => True) := by
  -- closing keeps what is wanted, and no one is bound before a client is made
  have hafter (transport : Transport) (request : WireRequest) (outcome : Outcome)
      (h : transport.WantsTls) : (transport.afterCall request outcome).WantsTls := by
    obtain ⟨⟨handle, hlink⟩, htls⟩ := h
    exact ⟨⟨_, link_afterCall hlink request outcome⟩, htls⟩
  have hask : Preserves WantsTls (Wire.ask .unbind) := by
    intro start hstart
    rw [exec_ask]
    exact hafter start.1 _ _ hstart
  have hclose : Meets (fun start => start.1.WantsTls) Wire.close
      (fun _ ending => ending.1.AwaitsClient) (fun _ ending => ending.1.WantsTls) :=
    meets_close hask fun transport h => ⟨⟨⟨none, rfl⟩, h.2⟩, rfl⟩
  refine (meets_connect hclose (fun _ h => h.1) ?_ ?_ ?_).mono (fun _ h => h) (fun _ _ h => h)
    fun _ _ _ => trivial
  · exact fun transport address h => h
  · exact fun transport uri usesSsl timeout h => ⟨hafter transport _ _ h.1, h.2⟩
  · intro transport version timeout follows h hhost
    exact ⟨⟨⟨{}, rfl, fun htls => by obtain ⟨_, hmem, -⟩ := htls; cases hmem⟩, hhost, h.1.2, h.2,
      .nil⟩, rfl⟩

end Transport

namespace Guard

open Directory.Action Exchange

variable {α : Type}

/-- On a client under TLS that was just made, guards start TLS again after it was started just when
they go on after a bind that left the transport unbound. -/
theorem session_repeats_tls_iff {session : Action Transport α}
    (h : IsSession Value.IsReadable session) {before start : Transport × World}
    {host port opened : Value} (hwants : before.1.WantsTls)
    (hopen : exec (Transport.connect host port) before = (.ok opened, start)) :
    RepeatTls (exec session start).2.1.calls ↔ GoOnUnbound (exec session start).2.1.calls := by
  have hconnect : Meets (fun start => start.1.WantsTls) (Transport.connect host port)
      (fun _ ending => ending.1.IsSettled) (fun _ _ => True) :=
    Transport.meets_choose_of_wire (fun _ hstart => hstart.1)
      (Transport.meets_connect_isSettled host port)
  have hsettled := hconnect before hwants
  rw [hopen] at hsettled
  have hended := h.preserves (fun username password husername =>
    Transport.preserves_sendBind_isSettled password husername) start hsettled
  exact hended.orderly.repeatTls_iff

/-- A guard with an account. -/
def ofAccount : Guard :=
  { configuration := ⟨fun
      | .username => .str "cn=admin"
      | .password => .str "secret"
      | name => name.default⟩ }

/-- A transport over wire clients that is to use TLS. -/
def wantingTls : Transport :=
  { Transport.wire with usesTls := .bool true }

theorem wantsTls_wantingTls : wantingTls.WantsTls :=
  ⟨⟨none, rfl⟩, rfl⟩

theorem isSession_attempt_ofAccount (username password : String) (staysBound : Bool) :
    IsSession Value.IsReadable (ofAccount.attempt (.str username) (.str password) staysBound) :=
  .attempt ofAccount _ _ (Value.isReadable_str _) (Value.isReadable_str _)

/-- A server that refuses the first bind. -/
def refusingOnce : World :=
  { script := fun
      | .wire .bind =>
        [.gives { value := .bool false, result := .dict [(.str "result", .int 49)] }]
      | _ => [] }

/-- Where both binds of an authentication are accepted, TLS is not started again. -/
theorem attempt_keeps_tls :
    let session := ofAccount.attempt (.str "jdoe") (.str "secret") false
    let start := (exec (Transport.connect (.str "foo") (.int 389)) (wantingTls, {})).2
    IsSession Value.IsReadable session ∧ wantingTls.WantsTls ∧
      exec (Transport.connect (.str "foo") (.int 389)) (wantingTls, {}) =
        (.ok (.bool true), start) ∧
      ¬ RepeatTls (exec session start).2.1.calls ∧
      ¬ GoOnUnbound (exec session start).2.1.calls := by
  have hopen : exec (Transport.connect (.str "foo") (.int 389)) (wantingTls, {}) =
      (.ok (.bool true),
        (exec (Transport.connect (.str "foo") (.int 389)) (wantingTls, {})).2) := by
    rfl
  have hnot : ¬ RepeatTls (exec (ofAccount.attempt (.str "jdoe") (.str "secret") false)
      (exec (Transport.connect (.str "foo") (.int 389)) (wantingTls, {})).2).2.1.calls := by
    decide +kernel
  have hsession := isSession_attempt_ofAccount "jdoe" "secret" false
  exact ⟨hsession, wantsTls_wantingTls, hopen, hnot,
    fun hgoes => hnot ((session_repeats_tls_iff hsession wantsTls_wantingTls hopen).2 hgoes)⟩

/-- A wrong password makes the guard start TLS again, on the client on which it was started. -/
theorem refusedAttempt_repeats_tls :
    let session := ofAccount.attempt (.str "jdoe") (.str "wrong") false
    let start := (exec (Transport.connect (.str "foo") (.int 389)) (wantingTls, refusingOnce)).2
    IsSession Value.IsReadable session ∧ wantingTls.WantsTls ∧
      exec (Transport.connect (.str "foo") (.int 389)) (wantingTls, refusingOnce) =
        (.ok (.bool true), start) ∧
      RepeatTls (exec session start).2.1.calls :=
  ⟨isSession_attempt_ofAccount "jdoe" "wrong" false, wantsTls_wantingTls, by rfl, by decide +kernel⟩

end Guard

end Directory
