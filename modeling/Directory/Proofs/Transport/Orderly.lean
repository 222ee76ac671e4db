import Directory.Proofs.Orderly

/-!
# Transports in an orderly world

In an orderly world the operations that open a transport and bind to it either succeed or report
what failed, and closing does not fail.
-/

namespace Directory

open Directory.Action

namespace Transport

variable {calm : World → Prop} {number : Option Nat} {log : List Happening} {α : Type}

/-- The host of the transport can be written into a log, the world is orderly, and certain events of
connections were announced. -/
structure IsUsual (calm : World → Prop) (log : List Happening) (state : Transport × World) :
    Prop where
  host : state.1.host.IsReadable
  world : state.2.IsOrderly calm
  log : state.2.happenings = log

/-- The transport is open over a wire client, whose result can be read. -/
structure IsOnWire (calm : World → Prop) (log : List Happening) (state : Transport × World) : Prop
    extends IsUsual calm log state where
  client : ∃ handle, state.1.link = .wire (some handle) ∧ handle.IsPlain

/-- The transport is open directly. -/
structure IsOnDirect (calm : World → Prop) (log : List Happening) (state : Transport × World) : Prop
    extends IsUsual calm log state where
  direct : state.1.isDirect = true
  connected : state.1.isConnected = true

/-- A failure that reports a failed directory operation, and leaves all as usual. -/
def IsReport (calm : World → Prop) (log : List Happening) (failure : Failure)
    (state : Transport × World) : Prop :=
  failure.isDirectory = true ∧ IsUsual calm log state

/-! ## Requests -/

/-- A request is recorded, and has the outcome that the script has for it. -/
theorem exec_directAsk (request : Request) {start : Transport × World}
    (hdirect : start.1.isDirect = true) :
    ∃ transport, exec (Direct.ask request) start =
      ((start.2.next request.queue).result, (start.1,
        ({ start.2 with
          records := start.2.records ++ [.direct transport request] } : World).afterTake
            request.queue)) := by
  obtain ⟨number, isOpen, last, hlink⟩ := exists_direct hdirect
  refine ⟨number, ?_⟩
  have hrecord : (Effect.record (.direct number request)).run.run start.2 =
    (.ok (), { start.2 with records := start.2.records ++ [.direct number request] }) := rfl
  unfold Direct.ask
  rw [exec_bind, exec_state]
  dsimp only
  rw [hlink]
  dsimp only
  rw [exec_outside, Effect.run_bind, hrecord]
  dsimp only
  rw [Effect.run_take]
  rfl

/-- A request to a direct transport has an orderly outcome, and leaves all as usual. -/
theorem meets_directAsk (inv : Transport → Prop) (hcalm : Effect.IsCalm number calm)
    (hinv : ∀ transport, inv transport → transport.isDirect = true) (request : Request) :
    Meets (fun start => IsUsual calm log start ∧ inv start.1) (Direct.ask request)
      (fun answer ending => IsUsual calm log ending ∧ inv ending.1 ∧
        (Outcome.gives answer).IsOrderly request.queue)
      (fun failure ending => IsUsual calm log ending ∧
        (Outcome.fails failure).IsOrderly request.queue) := by
  intro start hstart
  obtain ⟨husual, hstart⟩ := hstart
  obtain ⟨transport, hexec⟩ := exec_directAsk request (hinv start.1 hstart)
  have hafter : IsUsual calm log (start.1, ({ start.2 with
      records := start.2.records ++ [.direct transport request] } : World).afterTake
        request.queue) :=
    ⟨husual.host, husual.world.afterTake hcalm _ request.queue, husual.log⟩
  have horderly := husual.world.next request.queue
  rw [hexec]
  cases houtcome : start.2.next request.queue with
  | fails failure => exact ⟨hafter, houtcome ▸ horderly⟩
  | gives answer => exact ⟨hafter, hstart, houtcome ▸ horderly⟩

theorem IsUsual.afterCall {start : Transport × World} (h : IsUsual calm log start)
    (hcalm : Effect.IsCalm number calm) (request : WireRequest) (outcome : Outcome) :
    IsUsual calm log (start.1.afterCall request outcome, start.2.afterCall request) := by
  refine ⟨h.host, h.world.afterCall hcalm request, ?_⟩
  rw [← h.log]
  unfold World.afterCall
  cases request.queue? <;> rfl

/-! ## Opening and closing -/

/-- What was usual stays so under another link and other settings. -/
theorem IsUsual.change {start : Transport × World} (h : IsUsual calm log start)
    {changed : Transport} (hhost : changed.host.IsReadable) : IsUsual calm log (changed, start.2) :=
  ⟨hhost, h.world, h.log⟩

/-- The host of a transport as usual can be noted. -/
theorem IsUsual.note {state : Transport × World} (h : IsUsual calm log state) :
    Value.note [state.1.host] = .ok () :=
  Value.IsReadable.note h.host

theorem meets_directClose (hcalm : Effect.IsCalm number calm) :
    Meets (fun start => IsUsual calm log start ∧ start.1.isDirect = true) Direct.close
      (fun _ ending => IsUsual calm log ending ∧ ending.1.isConnected = false)
      (fun _ _ => False) := by
  refine Meets.bind ((meets_directAsk _ hcalm (fun _ h => h) .close).mono (fun _ h => h)
    (fun _ _ h => h) fun _ _ h => h.2) fun answer => ?_
  intro start hstart
  obtain ⟨husual, hdirect, -⟩ := hstart
  obtain ⟨number, isOpen, last, hlink⟩ := exists_direct hdirect
  rw [exec_bind, exec_state]
  dsimp only
  rw [exec_bind, exec_setLink start hlink]
  exact ⟨husual.change Value.isReadable_null, rfl⟩

theorem meets_unbind (hcalm : Effect.IsCalm number calm) :
    Meets (IsUsual calm log) (Wire.ask .unbind) (fun _ ending => IsUsual calm log ending)
      (fun failure ending => IsUsual calm log ending ∧ failure.isA (.wire .general) = true) := by
  intro start husual
  have horderly : (start.2.answerTo .unbind).IsOrderly (.wire .unbind) :=
    husual.world.next _
  rw [exec_ask]
  cases houtcome : start.2.answerTo .unbind with
  | fails failure =>
      rw [houtcome] at horderly
      exact ⟨husual.afterCall hcalm .unbind _, horderly⟩
  | gives answer => exact husual.afterCall hcalm .unbind _

/-- A client that cannot unbind is dropped all the same. -/
theorem meets_wireClose (hcalm : Effect.IsCalm number calm) :
    Meets (IsUsual calm log) Wire.close
      (fun _ ending => IsUsual calm log ending ∧ ending.1.isConnected = false)
      (fun _ _ => False) := by
  have hdrop (wasClosed : Bool) : Meets (IsUsual calm log) (do
      Action.change fun transport => { transport with link := .wire none }
      Action.change released
      return Value.bool wasClosed)
      (fun _ ending => IsUsual calm log ending ∧ ending.1.isConnected = false)
      (fun _ _ => False) :=
    fun start h => ⟨h.change Value.isReadable_null, rfl⟩
  refine Meets.state_bind fun transport => ?_
  dsimp only
  split
  · refine Meets.state_bind fun transport => Meets.lift_bind_ok (fun _ h => h.2 ▸ h.1.1.note) <|
      Meets.observe_bind ((meets_unbind hcalm).restrict fun _ h => h.1.1)
        (fun answer => Meets.pure_bind (hdrop true)) fun failure => ?_
    dsimp only
    split
    · exact Meets.pure_bind ((hdrop false).restrict fun _ h => h.1)
    next hgeneral => exact Meets.throw_bind fun _ h => hgeneral h.2
  · exact Meets.pure_bind ((hdrop false).restrict fun _ h => h.1)

/-- Closing does not fail, and leaves the transport closed. -/
theorem meets_close_isUsual (hcalm : Effect.IsCalm number calm) :
    Meets (IsUsual calm log) Transport.close
      (fun _ ending => IsUsual calm log ending ∧ ending.1.isConnected = false)
      (fun _ _ => False) :=
  meets_choose (meets_directClose hcalm) ((meets_wireClose hcalm).restrict fun _ h => h.1)

/-- The address of a host with a text can be made, and has a text. -/
theorem exists_address (transport : Transport) (name : String) {n : Int}
    (hport : (Value.int n).IsReadable) :
    ∃ address, transport.address (.str name) (.int n) = .ok address ∧ address.IsReadable := by
  obtain ⟨port, hport⟩ := hport
  have hssl : (Value.int sslPort).text = .ok "636" := by
    unfold Value.text Value.shown
    rfl
  have hname : (Value.str name).text = .ok name := by
    unfold Value.text
    rfl
  unfold address
  cases hholds : (Value.str name).holds (.str "://") with
  | error failure => cases hholds
  | ok holds =>
      cases holds with
      | true => exact ⟨.str name, rfl, Value.isReadable_str name⟩
      | false =>
          cases transport.usesSsl.isTrue with
          | false =>
              refine ⟨.str ("ldap" ++ "://" ++ name ++ ":" ++ port), ?_, Value.isReadable_str _⟩
              simp [Bind.bind, Except.bind, Pure.pure, Except.pure, hname, hport]
          | true =>
              by_cases hplain : n = plainPort
              · refine ⟨.str ("ldaps" ++ "://" ++ name ++ ":" ++ "636"), ?_,
                  Value.isReadable_str _⟩
                simp [Bind.bind, Except.bind, Pure.pure, Except.pure, Value.toInt, hplain, hname,
                  hssl]
              · refine ⟨.str ("ldaps" ++ "://" ++ name ++ ":" ++ port), ?_,
                  Value.isReadable_str _⟩
                simp [Bind.bind, Except.bind, Pure.pure, Except.pure, Value.toInt, hplain, hname,
                  hport]

theorem meets_directConnect (hcalm : Effect.IsCalm number calm) (name : String) {n : Int}
    (hport : (Value.int n).IsReadable) :
    Meets (fun start => IsUsual calm log start ∧ start.1.isDirect = true)
      (Direct.connect (.str name) (.int n)) (fun _ ending => IsOnDirect calm log ending)
      (IsReport calm log) := by
  refine Meets.state_bind fun transport => Meets.bind (Meets.mono
    (meets_directAsk _ hcalm (fun _ h => h) (.connect (.str name) (.int n) transport.options))
    (fun _ h => h.1) (fun _ _ h => h) fun failure _ h => ⟨h.2, h.1⟩) fun answer => ?_
  refine Meets.state_bind fun asked => ?_
  obtain ⟨address, haddress, hreadable⟩ := exists_address asked name hport
  refine Meets.lift_bind_ok (fun _ _ => haddress) ?_
  intro start hstart
  obtain ⟨⟨husual, hdirect, -⟩, -⟩ := hstart
  obtain ⟨number, isOpen, last, hlink⟩ := exists_direct hdirect
  rw [exec_bind, exec_change]
  dsimp only
  rw [exec_bind, exec_setLink ({ start.1 with host := address }, start.2) hlink]
  exact ⟨husual.change hreadable, rfl, rfl⟩

theorem meets_make (hcalm : Effect.IsCalm number calm) (request : WireRequest)
    (hrequest : request.queue? = none) :
    Meets (IsUsual calm log) (Wire.ask request) (fun _ ending => IsUsual calm log ending)
      (fun _ _ => False) := by
  intro start husual
  have hanswer : start.2.answerTo request = .gives {} := by
    unfold World.answerTo
    rw [hrequest]
    rfl
  rw [exec_ask, hanswer]
  exact husual.afterCall hcalm request _

theorem meets_wireConnect (hcalm : Effect.IsCalm number calm) (name : String) {n : Int}
    (hport : (Value.int n).IsReadable) :
    Meets (IsUsual calm log) (Wire.connect (.str name) (.int n))
      (fun _ ending => IsOnWire calm log ending) (fun _ _ => False) := by
  refine Meets.bind ((meets_wireClose hcalm).mono (fun _ h => h) (fun _ _ h => h.1)
    fun _ _ h => h) fun _ => Meets.state_bind fun closed => ?_
  obtain ⟨address, haddress, hreadable⟩ := exists_address closed name hport
  refine Meets.lift_bind_ok (fun _ _ => haddress) (Meets.change_bind (IsUsual calm log)
    (fun _ h => h.1.change hreadable) (Meets.lift_bind_ok (fun _ _ => hreadable.note) ?_))
  -- making a new client cannot fail, and its result is empty
  refine Meets.state_bind fun named => Meets.lift_bind_ok (fun _ _ => rfl) <|
    Meets.bind ((meets_make hcalm _ rfl).restrict fun _ h => h.1) fun _ =>
    Meets.lift_bind_ok (fun _ _ => rfl) <| Meets.lift_bind_ok (fun _ _ => rfl) <|
    Meets.bind (meets_make hcalm _ rfl) fun _ => ?_
  exact fun start husual => ⟨husual.change husual.host, {}, rfl, Handle.isPlain_new⟩

/-- The transport is open in an orderly world. -/
def IsOpen (calm : World → Prop) (log : List Happening) (state : Transport × World) : Prop :=
  IsOnDirect calm log state ∨ IsOnWire calm log state

theorem IsOpen.isUsual {state : Transport × World} (h : IsOpen calm log state) :
    IsUsual calm log state :=
  h.elim (fun h => h.toIsUsual) fun h => h.toIsUsual

theorem IsOpen.isConnected {state : Transport × World} (h : IsOpen calm log state) :
    state.1.isConnected = true := by
  rcases h with hdirect | hwire
  · exact hdirect.connected
  · obtain ⟨handle, hlink, -⟩ := hwire.client
    exact isConnected_of_link hlink

/-- A transport is opened for a host with a text, or it is reported that it cannot be. -/
theorem meets_connect_isUsual (hcalm : Effect.IsCalm number calm) (name : String) {n : Int}
    (hport : (Value.int n).IsReadable) :
    Meets (IsUsual calm log) (Transport.connect (.str name) (.int n))
      (fun _ ending => IsOpen calm log ending) (IsReport calm log) :=
  meets_choose
    ((meets_directConnect hcalm name hport).mono (fun _ h => h) (fun _ _ h => .inl h)
      fun _ _ h => h)
    ((meets_wireConnect hcalm name hport).mono (fun _ h => h.1) (fun _ _ h => .inr h)
      fun _ _ h => h.elim)

end Transport

end Directory
