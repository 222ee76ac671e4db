import Directory.Guard
import Directory.Proofs.Transport.Call

/-!
# TLS on wire clients

The exchanges with a wire client show whether TLS was started on it. A transport is secure if it
cannot be bound under TLS on a client without TLS, and has never sent a bind there; that is what
every operation of the transport and of its guards keeps. A bind on its own does not keep it: a
guard sees to it that TLS was started before.
-/

namespace Directory

/-- The request makes a new client. Those after it are for that client. -/
def WireRequest.makesClient : WireRequest → Bool
  | .client .. => true
  | _ => false

/-- The request is a bind. -/
def WireRequest.isBind : WireRequest → Bool
  | .bind .. => true
  | _ => false

namespace Exchange

/-- The client was asked to start TLS, and reported that it did. -/
def startsTls (exchange : Exchange) : Bool :=
  match exchange.request, exchange.outcome with
  | .startTls, .gives answer => answer.value.isTrue
  | _, _ => false

/-- The exchanges with the client that was made last. -/
def withLastClient (history : List Exchange) : List Exchange :=
  history.takeWhile (!·.request.makesClient)

/-- TLS was started in one of the exchanges. -/
def HaveTls (exchanges : List Exchange) : Prop :=
  ∃ exchange ∈ exchanges, exchange.startsTls = true

/-- Whenever a client was asked to bind while TLS was wanted, TLS had been started on that client
before. -/
def BindsAreProtected (history : List Exchange) : Prop :=
  ∀ bind earlier, bind :: earlier <:+ history → bind.request.isBind = true →
    bind.usesTls.isTrue = true → HaveTls (withLastClient earlier)

theorem HaveTls.cons {exchanges : List Exchange} (h : HaveTls exchanges) (exchange : Exchange) :
    HaveTls (exchange :: exchanges) := by
  obtain ⟨started, hmem, hstarts⟩ := h
  exact ⟨started, List.mem_cons_of_mem _ hmem, hstarts⟩

theorem BindsAreProtected.nil : BindsAreProtected [] := by
  intro bind earlier hsuffix
  exact absurd hsuffix.length_le (Nat.not_succ_le_zero _)

/-- A further exchange is none that asks to bind without protection. -/
theorem BindsAreProtected.cons {history : List Exchange} (h : BindsAreProtected history)
    {exchange : Exchange} (hexchange : exchange.request.isBind = true →
      exchange.usesTls.isTrue = true → HaveTls (withLastClient history)) :
    BindsAreProtected (exchange :: history) := by
  intro bind earlier hsuffix hbind htls
  rcases List.suffix_cons_iff.1 hsuffix with heq | hsuffix
  · obtain ⟨rfl, rfl⟩ := List.cons.inj heq
    exact hexchange hbind htls
  · exact h bind earlier hsuffix hbind htls

end Exchange

namespace Transport

open Directory.Action Exchange

variable {transport : Transport} {α : Type}

/-- The exchanges with the client in use. -/
def calls (transport : Transport) : List Exchange :=
  withLastClient transport.history

/-- A transport over wire clients that is bound under TLS only on a client on which TLS was started,
and that never sent a bind anywhere else. Without a client it is not bound. -/
structure IsSecure (transport : Transport) : Prop where
  wire : ∃ handle, transport.link = .wire handle
  closed : transport.isConnected = false → transport.isBound = false
  started : transport.isBound = true → transport.usesTls.isTrue = true → HaveTls transport.calls
  binds : BindsAreProtected transport.history

theorem isSecure_wire : wire.IsSecure where
  wire := ⟨none, rfl⟩
  closed := fun _ => rfl
  started := fun hbound => nomatch hbound
  binds := BindsAreProtected.nil

/-! ## The exchanges after a call -/

theorem history_afterCall (request : WireRequest) (outcome : Outcome) :
    (transport.afterCall request outcome).history =
      ⟨request, transport.usesTls, outcome⟩ :: transport.history :=
  rfl

/-- A call goes to the client in use, unless it makes a new one. -/
theorem calls_afterCall {request : WireRequest} (h : request.makesClient = false)
    (outcome : Outcome) :
    (transport.afterCall request outcome).calls =
      ⟨request, transport.usesTls, outcome⟩ :: transport.calls := by
  unfold calls withLastClient
  rw [history_afterCall, List.takeWhile_cons]
  simp only [h, Bool.not_false, if_true]

namespace IsSecure

/-- A transport that is not bound may change its client and its settings. -/
theorem of_not_isBound {history : List Exchange} (hwire : ∃ handle, transport.link = .wire handle)
    (hunbound : transport.isBound = false) (hhistory : transport.history = history)
    (hprotected : BindsAreProtected history) : transport.IsSecure where
  wire := hwire
  closed := fun _ => hunbound
  started := fun hbound => absurd hbound (by simp [hunbound])
  binds := hhistory ▸ hprotected

theorem unbound (h : transport.IsSecure) :
    ({ transport with isBound := false } : Transport).IsSecure :=
  of_not_isBound h.wire rfl rfl h.binds

/-- Who is bound may change while TLS is started on the client where it is wanted. -/
theorem afterBind (h : transport.IsSecure) (hconnected : transport.isConnected = true)
    (htls : transport.usesTls.isTrue = true → HaveTls transport.calls) (isSuccess : Bool)
    (username : Value) : (transport.afterBind isSuccess username).IsSecure where
  wire := h.wire
  closed := by
    intro hclosed
    have hsame : transport.isConnected = false := hclosed
    rw [hconnected] at hsame
    cases hsame
  started := fun _ => htls
  binds := h.binds

/-- A call keeps a transport secure, unless it makes a new client or is a bind without TLS. -/
theorem afterCall (h : transport.IsSecure) {request : WireRequest}
    (hclient : request.makesClient = false)
    (hbind : request.isBind = true → transport.usesTls.isTrue = true → HaveTls transport.calls)
    (outcome : Outcome) : (transport.afterCall request outcome).IsSecure where
  wire := by
    obtain ⟨handle, hlink⟩ := h.wire
    exact ⟨_, link_afterCall hlink request outcome⟩
  closed := by
    rw [isConnected_afterCall]
    exact h.closed
  started := by
    intro hbound htls
    rw [calls_afterCall hclient]
    exact (h.started hbound htls).cons _
  binds := h.binds.cons hbind

end IsSecure

/-! ## Operations -/

theorem preserves_ask {request : WireRequest} (hclient : request.makesClient = false)
    (hbind : request.isBind = false) : Preserves IsSecure (Wire.ask request) := by
  intro start hstart
  rw [exec_ask]
  exact hstart.afterCall hclient (fun h => absurd h (Bool.eq_false_iff.1 hbind)) _

/-- An operation that neither binds nor makes a client keeps a transport secure. -/
theorem preserves_perform {name : String} {request : WireRequest}
    (hclient : request.makesClient = false) (hbind : request.isBind = false) :
    Preserves IsSecure (Wire.perform name request) :=
  preserves_perform_of (fun _ h => h.unbound) (preserves_ask hclient hbind)

theorem preserves_search (scope : Scope) (base filter attrs limit : Value)
    (controls : Option (List Control)) :
    Preserves IsSecure (Wire.search scope base filter attrs limit controls) :=
  preserves_search_of (fun _ h => h.unbound) scope base filter attrs limit controls
    fun _ _ => preserves_ask rfl rfl

/-- A transport without a client may take on any settings. -/
def IsReleased (transport : Transport) : Prop :=
  transport.IsSecure ∧ transport.isConnected = false

theorem IsReleased.change {f : Transport → Transport} (h : transport.IsReleased)
    (hlink : (f transport).link = transport.link)
    (hbound : (f transport).isBound = transport.isBound)
    (hhistory : (f transport).history = transport.history) : (f transport).IsReleased := by
  have hunbound : (f transport).isBound = false := hbound.trans (h.1.closed h.2)
  refine ⟨IsSecure.of_not_isBound ?_ hunbound hhistory h.1.binds, ?_⟩
  · rw [hlink]
    exact h.1.wire
  · unfold isConnected
    rw [hlink]
    exact h.2

/-- A transport that was closed holds no client, and one that could not be closed is secure. -/
theorem meets_close_isSecure : Meets (fun start => start.1.IsSecure) Wire.close
    (fun _ ending => ending.1.IsReleased) (fun _ ending => ending.1.IsSecure) :=
  meets_close (preserves_ask rfl rfl) fun _ h =>
    ⟨IsSecure.of_not_isBound ⟨none, rfl⟩ rfl rfl h.binds, rfl⟩

/-- A client that is made in the place of another one is not bound. -/
theorem preserves_connect (host port : Value) : Preserves IsSecure (Wire.connect host port) := by
  refine Meets.preserves (meets_connect meets_close_isSecure (fun _ h => h.1) ?_ ?_ ?_)
  · exact fun transport address h =>
      h.change (f := ({ · with host := address })) rfl rfl rfl
  · intro transport uri usesSsl timeout h
    exact ⟨h.1.afterCall rfl (fun hbind => by cases hbind) _,
      (isConnected_afterCall _ _ _).trans h.2⟩
  · intro transport version timeout follows h _
    exact IsSecure.of_not_isBound ⟨some {}, rfl⟩ (h.1.closed h.2) rfl
      (h.1.binds.cons fun hbind => by cases hbind)

/-- TLS was started on the client in use if it is wanted, so that a bind can be sent. -/
def IsReady (transport : Transport) : Prop :=
  transport.IsSecure ∧ (transport.usesTls.isTrue = true → HaveTls transport.calls)

theorem IsReady.unbound (h : transport.IsReady) :
    ({ transport with isBound := false } : Transport).IsReady :=
  ⟨h.1.unbound, h.2⟩

/-- A call keeps a client ready, unless it makes a new one. -/
theorem IsReady.afterCall (h : transport.IsReady) {request : WireRequest}
    (hclient : request.makesClient = false) (outcome : Outcome) :
    (transport.afterCall request outcome).IsReady := by
  refine ⟨h.1.afterCall hclient (fun _ => h.2) outcome, fun htls => ?_⟩
  rw [calls_afterCall hclient]
  exact (h.2 htls).cons _

theorem IsReady.afterBind (h : transport.IsReady) (hconnected : transport.isConnected = true)
    (isSuccess : Bool) (username : Value) : (transport.afterBind isSuccess username).IsSecure :=
  h.1.afterBind hconnected h.2 isSuccess username

/-- A call that starts TLS and succeeds leaves the client ready for a bind. -/
theorem meets_askStartTls : Meets (fun start => start.1.IsSecure) (do
    let answer ← Wire.ask .startTls
    Wire.check answer.value "start_tls") (fun _ ending => ending.1.IsReady)
    (fun _ ending => ending.1.IsSecure) := by
  have hafter (transport : Transport) (h : transport.IsSecure) (outcome : Outcome) :
      (transport.afterCall .startTls outcome).IsSecure :=
    h.afterCall rfl (fun hbind => by cases hbind) outcome
  have hask : Meets (fun start => start.1.IsSecure) (Wire.ask .startTls)
      (fun answer ending => ending.1.IsSecure ∧
        (answer.value.isTrue = true → HaveTls ending.1.calls))
      (fun _ ending => ending.1.IsSecure) := by
    refine meets_ask (fun start answer h => ⟨hafter start.1 h _, fun hvalue => ?_⟩)
      fun start failure h => hafter start.1 h _
    rw [calls_afterCall rfl]
    exact ⟨_, List.mem_cons_self, hvalue⟩
  refine Meets.bind hask fun answer => ?_
  intro start hstart
  obtain ⟨hsecure, htls⟩ := hstart
  rw [exec_check]
  by_cases hvalue : answer.value.isTrue = true
  · rw [if_pos hvalue]
    exact ⟨hsecure, fun _ => htls hvalue⟩
  · rw [if_neg hvalue]
    obtain ⟨failure, hexec⟩ := exec_refused (α := Value) "start_tls" start
    rw [hexec]
    exact hsecure

/-- A transport on which TLS was started is ready for a bind. -/
theorem meets_startTls : Meets (fun start => start.1.IsSecure) Wire.startTls
    (fun _ ending => ending.1.IsReady) (fun _ ending => ending.1.IsSecure) := by
  refine Meets.bind (Meets.of_preserves Preserves.state) fun _ => ?_
  refine Meets.bind (Meets.of_preserves (Preserves.lift _)) fun _ => ?_
  refine meets_guarded ?_ (fun _ h _ => h)
    fun failure _ h => afterFailure_of (fun _ h => h.unbound) h failure
  refine Meets.mono ?_ (fun _ h => h.1) (fun _ _ h => h) fun _ _ h => h
  refine Meets.bind (Meets.of_preserves Preserves.state) fun _ => ?_
  dsimp only
  split
  · exact Meets.bind (Meets.of_preserves (preserves_ask rfl rfl)) fun _ => meets_askStartTls
  · exact meets_askStartTls

/-- A bind on a client that is ready for it keeps the transport secure. -/
theorem meets_bind (username password : Value) : Meets (fun start => start.1.IsReady)
    (Wire.bind username password) (fun _ ending => ending.1.IsSecure)
    (fun _ ending => ending.1.IsSecure) := by
  -- TLS stays started while the bind is sent, and the client stays in use
  have hsend : Meets (fun start => start.1.IsReady ∧ start.1.isConnected = true)
      (do let _ ← Wire.ask (.bind username password))
      (fun _ ending => ending.1.IsReady ∧ ending.1.isConnected = true)
      (fun _ ending => ending.1.IsReady) := by
    refine Meets.bind (meets_ask (fun start answer h => ?_) fun start failure h => ?_) fun _ =>
      Meets.pure fun _ h => h
    · exact ⟨h.1.afterCall rfl _, (isConnected_afterCall _ _ _).trans h.2⟩
    · exact h.1.afterCall rfl _
  have hready {β : Type} {action : Action Transport β} (h : Preserves IsReady action) :=
    Meets.of_preserves_imp h fun _ h => h.1
  have hsent {β : Type} {action : Action Transport β}
      (h : Preserves (fun transport => transport.IsReady ∧ transport.isConnected = true) action) :=
    Meets.of_preserves_imp h fun _ h => h.1.1
  refine Meets.bind (hready Preserves.state) fun _ => ?_
  refine Meets.bind (hready (Preserves.lift _)) fun _ => ?_
  refine Meets.bind (meets_guarded hsend (fun _ h _ => h.1)
    fun failure _ h => (afterFailure_of (fun _ h => h.unbound) h failure).1) fun _ => ?_
  refine Meets.bind (hsent (Preserves.bind Preserves.state fun _ => Preserves.lift _))
    fun response => ?_
  refine Meets.bind (hsent (Preserves.lift _)) fun isSuccess => ?_
  exact Meets.change_bind _ (fun _ h => h.1.afterBind h.2 isSuccess username)
    (Meets.pure fun _ h => h)

end Transport

end Directory
