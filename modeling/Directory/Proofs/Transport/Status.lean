import Directory.Proofs.Transport.Endings
import Directory.Proofs.Value.Plain

/-!
# What a transport says of itself

A transport over a wire client says whether it is connected, to which host, and as whom it is bound.
However it is used, it is bound only if it is connected, and it has a host just when it is connected
(`IsConsistent`). When its server is lost it is bound no more, but goes on to say as whom it was;
nothing else makes it name who is not bound (`names_only_bound_iff`).
-/

namespace Directory.Transport

open Directory.Action

/-! ## Uses of a transport -/

/-- What is done with a transport over a wire client. -/
inductive Use where
  | configure (usesSsl usesTls : Value) (options : List (Value × Value))
  | connect (host : String) (port : Value)
  | ask (operation : Operation)
  | close

/-- Use a transport, whatever it gives. -/
def Use.perform : Use → Action Transport Unit
  | .configure usesSsl usesTls options => Action.change ({ · with usesSsl, usesTls, options })
  | .connect host port => do let _ ← Transport.connect (.str host) port
  | .ask operation => operation.perform
  | .close => do let _ ← Transport.close

/-- Use a transport again and again, whatever comes of it. -/
def Use.performAll (uses : List Use) (start : Transport × World) : Transport × World :=
  uses.foldl (fun reached use => (exec use.perform reached).2) start

/-- A transport over a wire client that is bound only if it is connected, has a host just if it is
connected, one with a text, and is bound as no one if it is not connected. -/
structure IsConsistent (transport : Transport) : Prop where
  wire : transport.isDirect = false
  connected : transport.isBound = true → transport.isConnected = true
  host : transport.host = .null ↔ transport.isConnected = false
  readable : transport.host.IsReadable
  nobody : transport.isConnected = false → transport.boundAs = .null

/-- A transport says as whom it is bound only if it is bound. -/
def NamesOnlyBound (transport : Transport) : Prop :=
  transport.boundAs ≠ .null → transport.isBound = true

theorem IsConsistent.of_standing {transport transport' : Transport}
    (h : transport'.standing = transport.standing) (htransport : transport.IsConsistent) :
    transport'.IsConsistent := by
  obtain ⟨hdirect, hconnected, hhost, hbound, hboundAs⟩ := standing_eq_iff.1 h
  constructor
  · rw [hdirect]
    exact htransport.wire
  · rw [hbound, hconnected]
    exact htransport.connected
  · rw [hhost, hconnected]
    exact htransport.host
  · rw [hhost]
    exact htransport.readable
  · rw [hconnected, hboundAs]
    exact htransport.nobody

theorem NamesOnlyBound.of_standing {transport transport' : Transport}
    (h : transport'.standing = transport.standing) (htransport : transport.NamesOnlyBound) :
    transport'.NamesOnlyBound := by
  obtain ⟨-, -, -, hbound, hboundAs⟩ := standing_eq_iff.1 h
  unfold NamesOnlyBound
  rw [hbound, hboundAs]
  exact htransport

/-! ## Closing and connecting -/

/-- A transport over a wire client that holds no handle and says nothing of itself. -/
structure IsDropped (transport : Transport) : Prop where
  link : transport.link = .wire none
  host : transport.host = .null
  unbound : transport.isBound = false
  nobody : transport.boundAs = .null

theorem IsDropped.isConsistent {transport : Transport} (h : transport.IsDropped) :
    transport.IsConsistent := by
  have hconnected : transport.isConnected = false := isConnected_of_link h.link
  constructor
  · exact isDirect_of_link h.link
  · intro hbound
    cases h.unbound.symm.trans hbound
  · exact iff_of_true h.host hconnected
  · rw [h.host]
    exact Value.isReadable_null
  · exact fun _ => h.nobody

theorem IsDropped.namesOnlyBound {transport : Transport} (h : transport.IsDropped) :
    transport.NamesOnlyBound :=
  fun hnamed => absurd h.nobody hnamed

/-- A transport for which a client was just made. -/
structure IsFresh (transport : Transport) : Prop where
  link : transport.link = .wire (some {})
  host : ∃ address, transport.host = .str address
  unbound : transport.isBound = false
  nobody : transport.boundAs = .null

theorem IsFresh.isConsistent {transport : Transport} (h : transport.IsFresh) :
    transport.IsConsistent := by
  have hconnected : transport.isConnected = true := isConnected_of_link h.link
  obtain ⟨address, hhost⟩ := h.host
  constructor
  · exact isDirect_of_link h.link
  · exact fun _ => hconnected
  · rw [hhost, hconnected]
    simp
  · rw [hhost]
    exact Value.isReadable_str address
  · intro hclosed
    cases hclosed.symm.trans hconnected

theorem IsFresh.namesOnlyBound {transport : Transport} (h : transport.IsFresh) :
    transport.NamesOnlyBound :=
  fun hnamed => absurd h.nobody hnamed

/-- The address of a host that is a text is a text. -/
theorem exists_str_of_address {transport : Transport} {host : String} {port made : Value}
    (h : transport.address (.str host) port = .ok made) : ∃ address, made = .str address := by
  have hmade (scheme : String) (port : Value) (h : (do
      return Value.str (scheme ++ "://" ++ (← (Value.str host).text) ++ ":" ++ (← port.text))) =
        (.ok made : Except Failure Value)) : ∃ address, made = .str address := by
    obtain ⟨_, -, h⟩ := exists_of_bind_eq_ok h
    obtain ⟨_, -, h⟩ := exists_of_bind_eq_ok h
    cases h
    exact ⟨_, rfl⟩
  unfold address at h
  obtain ⟨isAddress, -, h⟩ := exists_of_bind_eq_ok h
  split at h
  · cases h
    exact ⟨host, rfl⟩
  · dsimp only at h
    split at h
    · obtain ⟨_, -, h⟩ := exists_of_bind_eq_ok h
      split at h
      · exact hmade _ _ h
      · exact hmade _ _ h
    · exact hmade _ _ h

/-- A client is made for a host that is a text, unless there is no address for it. -/
theorem meets_connect_text (host : String) (port : Value) {inv : Transport → Prop}
    (hclose : Meets (fun start => inv start.1) Wire.close (fun _ ending => ending.1.IsDropped)
      fun _ ending => inv ending.1) :
    Meets (fun start => inv start.1) (Wire.connect (.str host) port)
      (fun _ ending => ending.1.IsFresh)
      (fun _ ending => inv ending.1 ∨ ending.1.IsDropped) := by
  refine Meets.bind (hclose.mono (fun _ h => h) (fun _ _ h => h) fun _ _ => .inl) fun _ => ?_
  intro start hstart
  rw [exec_bind, exec_state]
  dsimp only
  rw [exec_bind, exec_lift]
  cases haddress : start.1.address (.str host) port with
  | error failure => exact .inr hstart
  | ok made =>
      obtain ⟨address, rfl⟩ := exists_str_of_address haddress
      dsimp only
      rw [exec_bind, exec_change]
      dsimp only
      rw [exec_bind, exec_lift, (Value.isReadable_str address).note]
      exact ⟨rfl, ⟨address, rfl⟩, hstart.unbound, hstart.nobody⟩

section Standing

variable {inv : Transport → Prop}
  (hinv : ∀ transport transport' : Transport, transport'.standing = transport.standing →
    inv transport → inv transport')
  (hdropped : ∀ transport : Transport, transport.IsDropped → inv transport)
include hinv

theorem meets_close_of_standing :
    Meets (fun start => inv start.1) Wire.close (fun _ ending => ending.1.IsDropped)
      fun _ ending => inv ending.1 :=
  meets_close (fun start hstart => hinv _ _ (keeps_standing_ask .unbind start) hstart)
    fun _ _ => ⟨rfl, rfl, rfl, rfl⟩

include hdropped

/-- Closing preserves what can be told from what a transport says of itself, if it holds of one that
says nothing. -/
theorem preserves_close_of_standing {start : Transport × World} (hwire : start.1.isDirect = false)
    (hstart : inv start.1) : inv (exec Transport.close start).2.1 := by
  have hended := meets_close_of_standing hinv start hstart
  unfold Transport.close
  rw [exec_choose_of_not_isDirect hwire]
  generalize exec Wire.close start = ended at hended ⊢
  obtain ⟨failure | wasClosed, ending⟩ := ended
  · exact hended
  · exact hdropped ending.1 hended

/-- Connecting preserves it, if it holds of a transport for which a client was just made, too. -/
theorem preserves_connect_of_standing
    (hfresh : ∀ transport : Transport, transport.IsFresh → inv transport) (host : String)
    (port : Value) {start : Transport × World} (hwire : start.1.isDirect = false)
    (hstart : inv start.1) : inv (exec (Transport.connect (.str host) port) start).2.1 := by
  have hended := meets_connect_text host port (meets_close_of_standing hinv) start hstart
  unfold Transport.connect
  rw [exec_choose_of_not_isDirect hwire]
  generalize exec (Wire.connect (.str host) port) start = ended at hended ⊢
  obtain ⟨failure | made, ending⟩ := ended
  · exact hended.elim id (hdropped ending.1)
  · exact hfresh ending.1 hended

end Standing

/-! ## Operations -/

/-- What the answer to a call settles is who is bound, on an open handle. -/
theorem Operation.standing_settled (operation : Operation) (answer : Answer)
    (called : Transport) :
    ∃ isBound boundAs, operation.settled answer called = { called with isBound, boundAs } ∧
      (called.NamesOnlyBound → ({ called with isBound, boundAs } : Transport).NamesOnlyBound) := by
  cases operation with
  | bind username password =>
      show ∃ isBound boundAs, called.afterAnswer username answer = _ ∧ _
      unfold afterAnswer
      cases acceptance answer with
      | error failure => exact ⟨called.isBound, called.boundAs, rfl, id⟩
      | ok isAccepted =>
          refine ⟨isAccepted, if isAccepted then username else .null, rfl, fun _ hnamed => ?_⟩
          cases isAccepted with
          | true => rfl
          | false => exact absurd rfl hnamed
  | _ => exact ⟨called.isBound, called.boundAs, rfl, id⟩

theorem IsConsistent.rebound {transport : Transport} (h : transport.IsConsistent)
    (hconnected : transport.isConnected = true) (isBound : Bool) (boundAs : Value) :
    ({ transport with isBound, boundAs } : Transport).IsConsistent where
  wire := h.wire
  connected := fun _ => hconnected
  host := h.host
  readable := h.readable
  nobody := fun hclosed => by cases hclosed.symm.trans hconnected

/-- What an operation does to a consistent transport. It stays consistent, and if it named only who
was bound, it still does unless it was bound as someone and the server is lost. -/
theorem IsConsistent.perform {start : Transport × World} (h : start.1.IsConsistent)
    (operation : Operation) :
    (exec operation.perform start).2.1.IsConsistent ∧
      (start.1.NamesOnlyBound → ((exec operation.perform start).2.1.NamesOnlyBound ↔
        (start.1.boundAs ≠ .null → ¬ operation.LosesServer start))) := by
  have hends := operation.ends h.wire
  generalize exec operation.perform start = ended at hends ⊢
  cases hends with
  | unmade hrequest =>
      refine ⟨h, fun hnamed => iff_of_true hnamed fun _ hloses => ?_⟩
      obtain ⟨-, ⟨-, _, hmade⟩ | ⟨_, ⟨_, hmade, -⟩, -⟩⟩ := hloses
      · cases hmade.symm.trans hrequest
      · cases hmade.symm.trans hrequest
  | closed name hrequest hconnected =>
      have hnobody := h.nobody hconnected
      exact ⟨h, fun hnamed => iff_of_true hnamed fun hsomeone => absurd hnobody hsomeone⟩
  | @failed request failure called hrequest hconnected hcall hleaves =>
      have hkept := (keeps_standing_approach request).view_eq hcall
      have hcalled := h.of_standing hkept
      obtain ⟨-, hopen, -, hbound, hboundAs⟩ := standing_eq_iff.1 hkept
      rw [afterFailure_eq]
      refine ⟨hcalled.rebound (hopen.trans hconnected) _ called.1.boundAs, fun hnamed => ?_⟩
      rw [Operation.losesServer_iff h.wire hrequest hconnected hcall]
      unfold NamesOnlyBound at hnamed ⊢
      dsimp only
      rw [hbound, hboundAs]
      cases hlost : failure.isA (.wire .communication) with
      | false => simpa [hlost] using hnamed
      | true => simp [hlost]
  | @answered request answer called outcome hrequest hconnected hcall hleaves houtcome =>
      have hkept := (keeps_standing_approach request).view_eq hcall
      have hcalled := h.of_standing hkept
      obtain ⟨-, hopen, -, hbound, hboundAs⟩ := standing_eq_iff.1 hkept
      obtain ⟨isBound, boundAs, hsettled, hnames⟩ := operation.standing_settled answer called.1
      dsimp only
      rw [hsettled]
      refine ⟨hcalled.rebound (hopen.trans hconnected) _ _, fun hnamed => ?_⟩
      -- a call that was answered did not lose the server
      refine iff_of_true (hnames ?_) fun _ hloses => ?_
      · unfold NamesOnlyBound
        rw [hbound, hboundAs]
        exact hnamed
      · obtain ⟨_, hfails, -⟩ :=
          (Operation.losesServer_iff h.wire hrequest hconnected hcall).1 hloses
        cases hfails

/-! ## Runs -/

/-- What one use does to a consistent transport. Only an operation that loses the server makes it
name who is not bound. -/
theorem IsConsistent.use {start : Transport × World} (h : start.1.IsConsistent) (use : Use) :
    (exec use.perform start).2.1.IsConsistent ∧
      (start.1.NamesOnlyBound → ((exec use.perform start).2.1.NamesOnlyBound ↔
        ∀ operation, use = .ask operation → start.1.boundAs ≠ .null →
          ¬ operation.LosesServer start)) := by
  have hconsistent (transport transport' : Transport) (h : transport'.standing = transport.standing)
      (htransport : transport.IsConsistent) : transport'.IsConsistent :=
    htransport.of_standing h
  have hnames (transport transport' : Transport) (h : transport'.standing = transport.standing)
      (htransport : transport.IsConsistent ∧ transport.NamesOnlyBound) :
      transport'.IsConsistent ∧ transport'.NamesOnlyBound :=
    ⟨htransport.1.of_standing h, htransport.2.of_standing h⟩
  cases use with
  | configure usesSsl usesTls options =>
      have hkept : (exec (Use.configure usesSsl usesTls options).perform start).2.1.standing =
        start.1.standing := rfl
      refine ⟨h.of_standing hkept, fun hnamed => iff_of_true (hnamed.of_standing hkept) ?_⟩
      exact fun _ hask => nomatch hask
  | connect host port =>
      have hended : (exec (Use.connect host port).perform start).2 =
          (exec (Transport.connect (.str host) port) start).2 :=
        exec_bind_pure_snd _ (fun _ => ()) start
      rw [hended]
      refine ⟨preserves_connect_of_standing hconsistent (fun _ => IsDropped.isConsistent)
        (fun _ => IsFresh.isConsistent) host port h.wire h, fun hnamed => iff_of_true ?_ ?_⟩
      · exact (preserves_connect_of_standing hnames
          (fun _ hdropped => ⟨hdropped.isConsistent, hdropped.namesOnlyBound⟩)
          (fun _ hfresh => ⟨hfresh.isConsistent, hfresh.namesOnlyBound⟩) host port h.wire
          ⟨h, hnamed⟩).2
      · exact fun _ hask => nomatch hask
  | ask operation =>
      obtain ⟨hafter, hloses⟩ := h.perform operation
      refine ⟨hafter, fun hnamed => (hloses hnamed).trans ?_⟩
      simp
  | close =>
      have hended : (exec Use.close.perform start).2 = (exec Transport.close start).2 :=
        exec_bind_pure_snd _ (fun _ => ()) start
      rw [hended]
      refine ⟨preserves_close_of_standing hconsistent (fun _ => IsDropped.isConsistent) h.wire h,
        fun hnamed => iff_of_true ?_ ?_⟩
      · exact (preserves_close_of_standing hnames
          (fun _ hdropped => ⟨hdropped.isConsistent, hdropped.namesOnlyBound⟩) h.wire
          ⟨h, hnamed⟩).2
      · exact fun _ hask => nomatch hask

/-- However a transport over a wire client was used, it is consistent. -/
theorem isConsistent_performAll (uses : List Use) {start : Transport × World}
    (h : start.1.IsConsistent) : (Use.performAll uses start).1.IsConsistent := by
  induction uses generalizing start with
  | nil => exact h
  | cons use uses ih => exact ih (h.use use).1

theorem isConsistent_wire : Transport.wire.IsConsistent :=
  IsDropped.isConsistent ⟨rfl, rfl, rfl, rfl⟩

/-- However a transport over a wire client is used, it is bound only if it is connected, and it has
a host just when it is connected. It says as whom it is bound only if it is bound, as long as no
operation loses the server while it is bound as someone. -/
theorem names_only_bound_iff (uses : List Use) (world : World) :
    let reached (n : Nat) := Use.performAll (uses.take n) (Transport.wire, world)
    (∀ n, ((reached n).1.isBound = true → (reached n).1.isConnected = true) ∧
      ((reached n).1.host = .null ↔ (reached n).1.isConnected = false)) ∧
    ((∀ n, (reached n).1.boundAs ≠ .null → (reached n).1.isBound = true) ↔
      ∀ n operation, uses[n]? = some (.ask operation) → (reached n).1.boundAs ≠ .null →
        ¬ operation.LosesServer (reached n)) := by
  intro reached
  have hnone {n : Nat} (h : uses[n]? = none) : reached (n + 1) = reached n := by
    have hlength := List.getElem?_eq_none_iff.1 h
    show Use.performAll (uses.take (n + 1)) _ = Use.performAll (uses.take n) _
    rw [List.take_of_length_le hlength, List.take_of_length_le (by omega)]
  have hsome {n : Nat} {use : Use} (h : uses[n]? = some use) :
      reached (n + 1) = (exec use.perform (reached n)).2 := by
    show Use.performAll (uses.take (n + 1)) _ =
      (exec use.perform (Use.performAll (uses.take n) _)).2
    unfold Use.performAll
    rw [List.take_add_one, h, List.foldl_append]
    rfl
  have hconsistent (n : Nat) : (reached n).1.IsConsistent :=
    isConsistent_performAll _ isConsistent_wire
  refine ⟨fun n => ⟨(hconsistent n).connected, (hconsistent n).host⟩, ?_, ?_⟩
  · intro hnamed n operation huse
    have hafter : (exec (Use.ask operation).perform (reached n)).2.1.NamesOnlyBound :=
      hsome huse ▸ hnamed (n + 1)
    exact (((hconsistent n).use (.ask operation)).2 (hnamed n)).1 hafter operation rfl
  · intro hloses n
    induction n with
    | zero => exact IsDropped.namesOnlyBound ⟨rfl, rfl, rfl, rfl⟩
    | succ n ih =>
        cases huse : uses[n]? with
        | none => exact (hnone huse).symm ▸ ih
        | some use =>
            rw [hsome huse]
            refine (((hconsistent n).use use).2 ih).2 fun operation hask => ?_
            exact hloses n operation (hask ▸ huse)

/-- A world in which the server is lost when something is searched for. -/
def losingSearches : World :=
  { script := fun
      | .wire .search => [.fails { kind := .wire .socketReceive, text := some "connection reset" }]
      | _ => [] }

/-- A search for an entry. -/
def searching : Operation :=
  .search .subtree (.str "") (.str "(cn=a)") .null (.int 0) none

/-- Connecting and binding as a user. -/
def bindingUser : List Use :=
  [.connect "foo" (.int plainPort), .ask (.bind (.str "jdoe") (.str "pw"))]

/-- A transport goes on to name the user who was bound when its server was lost. -/
theorem names_user_after_loss :
    let uses := bindingUser ++ [.ask searching]
    let ended := (Use.performAll uses (Transport.wire, losingSearches)).1
    ended.isConnected = true ∧ ended.boundAs = .str "jdoe" ∧ ended.isBound = false := by
  exact ⟨by decide +kernel, Value.eq_of_isPlainly (by decide +kernel), by decide +kernel⟩

end Directory.Transport
