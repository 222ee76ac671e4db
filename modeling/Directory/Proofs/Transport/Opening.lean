import Directory.Proofs.Transport.Call

/-!
# Opening and closing transports

Connecting opens a transport and closing closes it. Nothing else does: starting TLS and binding
leave it as open as it is, and so do a request that fails and a closing that fails.
-/

namespace Directory.Transport

open Directory.Action

variable {α : Type} {inv : Transport → Prop} {isOpen : Bool}

/-! ## What leaves a transport open or closed -/

theorem preserves_either {directly overWire : Action Transport α} (hdirect : Preserves inv directly)
    (hwire : Preserves inv overWire) : Preserves inv (choose directly overWire) :=
  Meets.preserves (meets_choose ((Meets.of_preserves hdirect).restrict fun _ h => h.1)
    ((Meets.of_preserves hwire).restrict fun _ h => h.1))

section Wire

variable (hcall : ∀ (transport : Transport) request outcome, inv transport →
    inv (transport.afterCall request outcome))
include hcall

theorem preserves_wireAsk (request : WireRequest) : Preserves inv (Wire.ask request) := by
  intro start hstart
  rw [exec_ask]
  exact hcall _ _ _ hstart

variable (hunbound : ∀ transport, inv transport → inv { transport with isBound := false })
include hunbound

/-- Starting TLS keeps what calls on a wire client and the loss of the server keep. -/
theorem preserves_startTls_of : Preserves inv startTls := by
  have hstart : Preserves inv (do Wire.check (← Wire.ask .startTls).value "start_tls") :=
    Preserves.bind (preserves_wireAsk hcall _) fun answer => preserves_check _ answer.value _
  refine preserves_either ?_ ?_
  · exact Preserves.bind ((keeps_directAsk id _).preserves inv) fun _ => Preserves.pure _
  · refine Preserves.bind Preserves.state fun _ => Preserves.bind (Preserves.lift _) fun _ =>
      preserves_guarded hunbound (Preserves.bind Preserves.state fun transport => ?_)
    dsimp only
    split
    · exact Preserves.bind (preserves_wireAsk hcall _) fun _ => hstart
    · exact hstart

/-- A bind keeps what these keep, if it does not depend on the last response or on who is bound. -/
theorem preserves_bind_of
    (hlast : ∀ (transport : Transport) number isOpen before last,
      transport.link = .direct number isOpen before → inv transport →
        inv { transport with link := .direct number isOpen last })
    (hsettled : ∀ (transport : Transport) isAccepted username, inv transport →
      inv (transport.afterBind isAccepted username)) (username password : Value) :
    Preserves inv (bind username password) := by
  have hsettle (response : Response) : Preserves inv ((do
      let isSuccess ← response.successful
      Action.change (·.afterBind isSuccess username)
      return response) : Action Transport Response) :=
    Preserves.bind (Preserves.lift _) fun isSuccess =>
      Preserves.bind (Preserves.change fun _ h => hsettled _ _ _ h) fun _ => Preserves.pure _
  refine preserves_either ?_ ?_
  · refine Preserves.bind ((keeps_directAsk id _).preserves inv) fun answer => ?_
    -- the link stays as open as it is
    intro start hstart
    unfold Direct.setLink
    rw [exec_bind, exec_state]
    dsimp only
    rw [exec_bind, exec_change]
    refine hsettle answer.response _ ?_
    dsimp only
    split
    next number wasOpen before hlink =>
      have hopen : start.1.isConnected = wasOpen := by
        unfold isConnected
        rw [hlink]
      rw [hopen]
      exact hlast _ _ _ _ _ hlink hstart
    next => exact hstart
  · refine Preserves.bind Preserves.state fun _ => Preserves.bind (Preserves.lift _) fun _ =>
      Preserves.bind (preserves_guarded hunbound ?_) fun _ =>
      Preserves.bind ?_ fun response => hsettle response
    · exact Preserves.bind (preserves_wireAsk hcall _) fun _ => Preserves.pure _
    · exact Preserves.bind Preserves.state fun _ => Preserves.lift _

end Wire

theorem preserves_isConnected_wireAsk (request : WireRequest) :
    Preserves (·.isConnected = isOpen) (Wire.ask request) :=
  preserves_wireAsk (fun _ _ _ h => (isConnected_afterCall _ _ _).trans h) request

theorem preserves_isConnected_startTls : Preserves (·.isConnected = isOpen) startTls :=
  preserves_startTls_of (fun _ _ _ h => (isConnected_afterCall _ _ _).trans h) fun _ h => h

theorem preserves_isConnected_bind (username password : Value) :
    Preserves (·.isConnected = isOpen) (bind username password) := by
  refine preserves_bind_of ?_ (fun _ h => h) ?_ (fun _ _ _ h => h) username password
  · exact fun _ _ _ h => (isConnected_afterCall _ _ _).trans h
  · intro transport number wasOpen before last hlink h
    unfold isConnected at h
    rw [hlink] at h
    exact h

/-- A direct transport is opened for a host, and is otherwise as it was. -/
theorem meets_directConnect_isConnected (host port : Value)
    (hhost : ∀ transport host, inv transport → inv { transport with host }) :
    Meets (fun start => inv start.1 ∧ start.1.isDirect = true) (Direct.connect host port)
      (fun _ ending => ending.1.isConnected = true ∧
        ∃ before, inv before ∧ ending.1.isBound = before.isBound)
      (fun _ ending => inv ending.1) := by
  have hkept {β : Type} {action : Action Transport β}
      (h : Preserves (fun transport => inv transport ∧ transport.isDirect = true) action) :=
    Meets.of_preserves_imp h fun _ h => h.1
  refine Meets.bind (hkept Preserves.state) fun _ =>
    Meets.bind (hkept ((keeps_directAsk id _).preserves fun transport =>
      inv transport ∧ transport.isDirect = true)) fun _ =>
    Meets.bind (hkept Preserves.state) fun _ => Meets.bind (hkept (Preserves.lift _)) fun _ =>
    Meets.bind (hkept (Preserves.change fun _ h => ⟨hhost _ _ h.1, h.2⟩)) fun _ => ?_
  intro start hstart
  obtain ⟨number, wasOpen, last, hlink⟩ := exists_direct hstart.2
  rw [exec_bind, exec_setLink start hlink]
  exact ⟨rfl, start.1, hstart.1, rfl⟩

/-- A transport that was connected holds a handle. -/
theorem meets_connect_isConnected (host port : Value) :
    Meets (fun _ => True) (connect host port) (fun _ ending => ending.1.isConnected = true)
      (fun _ _ => True) := by
  refine meets_choose ?_ ?_
  · exact (@meets_directConnect_isConnected (fun _ => True) host port fun _ _ h => h).mono
      (fun _ h => h) (fun _ _ h => h.1) fun _ _ h => h
  · exact (@Transport.meets_connect host port (fun _ => True) (fun _ => True)
      (·.isConnected = true) (fun _ => True) (Meets.anything _) (fun _ h => h) (fun _ _ h => h)
      (fun _ _ _ _ h => h) fun _ _ _ _ _ _ => rfl).restrict fun _ _ => trivial

/-! ## Closing -/

/-- Whether the transport is open, and whether it is bound. -/
def flags (transport : Transport) : Bool × Bool :=
  (transport.isConnected, transport.isBound)

theorem keeps_flags_wireAsk (request : WireRequest) : Keeps flags (Wire.ask request) := by
  intro start
  rw [exec_ask]
  exact Prod.ext (isConnected_afterCall _ _ _) rfl

/-- A transport that was closed is not open, and one that could not be closed is as it was. -/
theorem meets_close_flags (before : Bool × Bool) :
    Meets (fun start => start.1.flags = before) close
      (fun _ ending => ending.1.isConnected = false) (fun _ ending => ending.1.flags = before) := by
  refine meets_choose ?_ ?_
  · have hask : Meets (fun start => start.1.flags = before ∧ start.1.isDirect = true)
        (Direct.ask .close) (fun _ ending => ending.1.isDirect = true)
        (fun _ ending => ending.1.flags = before) :=
      (Meets.of_preserves ((keeps_directAsk id .close).preserves fun transport =>
        transport.flags = before ∧ transport.isDirect = true)).mono (fun _ h => h)
          (fun _ _ h => h.2) fun _ _ h => h.1
    refine Meets.bind hask fun _ => ?_
    intro start hdirect
    obtain ⟨number, wasOpen, last, hlink⟩ := exists_direct hdirect
    rw [exec_bind, exec_state]
    dsimp only
    rw [exec_bind, exec_setLink start hlink]
    rfl
  · have hclose : Meets (fun start => start.1.flags = before) Wire.close
        (fun _ ending => ending.1.isConnected = false) (fun _ ending => ending.1.flags = before) :=
      @Transport.meets_close (·.flags = before) (·.isConnected = false)
        ((keeps_flags_wireAsk .unbind).preserves (· = before)) fun _ _ => rfl
    exact hclose.restrict fun _ h => h.1

/-! ## Connecting -/

/-- Connecting opens a transport that is not open, and a failure leaves it closed. Only a direct
transport may be marked as bound before, and it still is afterwards. -/
theorem meets_connect_closed (host port : Value) (wasBound : Bool) :
    Meets (fun start => start.1.isConnected = false ∧
        (start.1.isDirect && start.1.isBound) = wasBound) (connect host port)
      (fun _ ending => ending.1.isConnected = true ∧ ending.1.isBound = wasBound)
      (fun _ ending => ending.1.isConnected = false) := by
  refine meets_choose ?_ ?_
  · let closed (transport : Transport) : Prop :=
      transport.isConnected = false ∧ transport.isBound = wasBound
    refine (@meets_directConnect_isConnected closed host port fun _ _ h => h).mono
      (fun start hparts => ?_) (fun _ _ hending => ?_) fun _ _ h => h.1
    · obtain ⟨⟨hopen, hbound⟩, hdirect⟩ := hparts
      rw [hdirect, Bool.true_and] at hbound
      exact ⟨⟨hopen, hbound⟩, hdirect⟩
    · obtain ⟨hopen, before, hbefore, hsame⟩ := hending
      exact ⟨hopen, hsame.trans hbefore.2⟩
  · let dropped (transport : Transport) : Prop :=
      transport.isConnected = false ∧ transport.isBound = false
    have hclose : Meets (fun start => start.1.isConnected = false) Wire.close
        (fun _ ending => dropped ending.1) (fun _ ending => ending.1.isConnected = false) :=
      Transport.meets_close (preserves_isConnected_wireAsk .unbind) fun _ _ => ⟨rfl, rfl⟩
    have hconnect := @Transport.meets_connect host port (·.isConnected = false) dropped
      (fun transport => transport.isConnected = true ∧ transport.isBound = false)
      (·.isConnected = false) hclose (fun _ h => h.1) (fun _ _ h => h)
      (fun _ _ _ _ h => ⟨(isConnected_afterCall _ _ _).trans h.1, h.2⟩)
      fun _ _ _ _ h _ => ⟨rfl, h.2⟩
    intro start hparts
    obtain ⟨⟨hopen, hbound⟩, hwire⟩ := hparts
    rw [hwire, Bool.false_and] at hbound
    rw [← hbound]
    exact hconnect start hopen

end Directory.Transport
