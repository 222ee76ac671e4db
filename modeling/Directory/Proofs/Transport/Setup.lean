import Directory.Proofs.Guard.Operations
import Directory.Proofs.Transport.Operations
import Directory.Proofs.Value.Key

/-!
# How transports are set up

The setup of a transport is whether it uses SSL and TLS, and its options by their keys. It can only
be added to: a setup is laid over the one before, which leaves what is asked for just if the one
before has nothing that goes beyond that (`Setup.overlay_eq_iff`). The operations of a transport
leave its setup alone.
-/

namespace Directory

/-- A value that can be a key. -/
def Key : Type :=
  {value : Value // value.checkKey = .ok ()}

/-- How a transport is set up: whether it uses SSL and TLS, and the values of its options. -/
@[ext]
structure Setup where
  usesSsl : Bool
  usesTls : Bool
  option : Key → Option Value

namespace Setup

variable {setup before later other : Setup}

/-- A setup after another one was laid over it. Nothing is switched off, and an option that the
later setup does not have stays. -/
def overlay (before later : Setup) : Setup where
  usesSsl := before.usesSsl || later.usesSsl
  usesTls := before.usesTls || later.usesTls
  option := fun key => (later.option key).or (before.option key)

/-- A setup has nothing that another one lacks. Their options may have different values. -/
structure Within (setup other : Setup) : Prop where
  ssl : setup.usesSsl = true → other.usesSsl = true
  tls : setup.usesTls = true → other.usesTls = true
  option : ∀ key, (setup.option key).isSome = true → (other.option key).isSome = true

/-- Laying a setup over another one gives it just if the other one has nothing beyond it. -/
theorem overlay_eq_iff : before.overlay later = later ↔ before.Within later := by
  have hswitch (b c : Bool) : (b || c) = c ↔ (b = true → c = true) := by
    cases b <;> cases c <;> decide
  have hvalue (x y : Option Value) : y.or x = y ↔ (x.isSome = true → y.isSome = true) := by
    cases x <;> cases y <;> simp
  rw [Setup.ext_iff, funext_iff]
  simp only [overlay, hswitch, hvalue]
  exact ⟨fun h => ⟨h.1, h.2.1, h.2.2⟩, fun h => ⟨h.ssl, h.tls, h.option⟩⟩

theorem Within.trans (h : setup.Within before) (hbefore : before.Within other) :
    setup.Within other where
  ssl := fun hssl => hbefore.ssl (h.ssl hssl)
  tls := fun htls => hbefore.tls (h.tls htls)
  option := fun key hkey => hbefore.option key (h.option key hkey)

theorem before_within_overlay (before later : Setup) : before.Within (before.overlay later) where
  ssl := fun hssl => by simp [overlay, hssl]
  tls := fun htls => by simp [overlay, htls]
  option := fun key hkey => by simp [overlay, hkey]

theorem later_within_overlay (before later : Setup) : later.Within (before.overlay later) where
  ssl := fun hssl => by simp [overlay, hssl]
  tls := fun htls => by simp [overlay, htls]
  option := fun key hkey => by simp [overlay, hkey]

/-- A setup that was laid over another one goes beyond what one of the two goes beyond. -/
theorem overlay_within_iff :
    (before.overlay later).Within other ↔ before.Within other ∧ later.Within other := by
  constructor
  · exact fun h => ⟨(before_within_overlay _ _).trans h, (later_within_overlay _ _).trans h⟩
  · rintro ⟨hbefore, hlater⟩
    refine ⟨fun hssl => ?_, fun htls => ?_, fun key hkey => ?_⟩
    · exact (Bool.or_eq_true_iff.1 hssl).elim hbefore.ssl hlater.ssl
    · exact (Bool.or_eq_true_iff.1 htls).elim hbefore.tls hlater.tls
    · rw [overlay, Option.isSome_or, Bool.or_eq_true] at hkey
      exact hkey.elim (hlater.option key) (hbefore.option key)

/-- A setup that was laid over another one once is there. -/
theorem overlay_overlay : (before.overlay later).overlay later = before.overlay later := by
  ext key
  · simp [overlay]
  · simp [overlay]
  · simp [overlay, ← Option.or_assoc]

end Setup

namespace Transport

open Directory.Action

variable {α : Type}

/-- The setup of a transport. -/
def setup (transport : Transport) : Setup where
  usesSsl := transport.usesSsl.isTrue
  usesTls := transport.usesTls.isTrue
  option := fun key => Value.lookup? transport.options key.1

/-- What a transport was given to set it up. -/
def given (transport : Transport) : Value × Value × List (Value × Value) :=
  (transport.usesSsl, transport.usesTls, transport.options)

theorem setup_eq_of_given {transport other : Transport} (h : transport.given = other.given) :
    transport.setup = other.setup := by
  simp only [given, Prod.mk.injEq] at h
  unfold setup
  rw [h.1, h.2.1, h.2.2]

/-- Nothing was asked of a transport so far. -/
def IsBare (transport : Transport) : Prop :=
  transport.given = (.bool false, .bool false, [])

theorem isBare_direct (number : Nat) : (direct number).IsBare :=
  rfl

theorem isBare_wire : wire.IsBare :=
  rfl

theorem IsBare.options_eq {transport : Transport} (h : transport.IsBare) :
    transport.options = [] :=
  congrArg (fun given => given.2.2) h

/-- A transport of which nothing was asked has nothing that any setup lacks. -/
theorem IsBare.within {transport : Transport} (h : transport.IsBare) (other : Setup) :
    transport.setup.Within other := by
  have hsetup : transport.setup = wire.setup := setup_eq_of_given (h.trans isBare_wire.symm)
  rw [hsetup]
  exact ⟨nofun, nofun, nofun⟩

/-! ## What leaves the setup alone -/

theorem keeps_given_wireAsk (request : WireRequest) : Keeps given (Wire.ask request) := by
  intro start
  rw [exec_ask]
  rfl

theorem keeps_given_setLink (isOpen : Bool) (last : Response) :
    Keeps given (Direct.setLink isOpen last) := by
  refine Keeps.change fun transport => ?_
  split <;> rfl

theorem keeps_given_choose {directly overWire : Action Transport α} (hdirect : Keeps given directly)
    (hwire : Keeps given overWire) : Keeps given (choose directly overWire) := by
  refine Keeps.bind Keeps.state fun transport => ?_
  split
  · exact hdirect
  · exact hwire

theorem keeps_given_wireClose : Keeps given Wire.close := by
  have hend (wasClosed : Bool) : Keeps given (do
      Action.change fun transport => { transport with link := .wire none }
      Action.change released
      return Value.bool wasClosed : Action Transport Value) :=
    fun _ => rfl
  refine Keeps.bind Keeps.state fun transport => ?_
  split
  · refine Keeps.bind Keeps.state fun _ => Keeps.bind (Keeps.lift _) fun _ =>
      Keeps.bind (keeps_given_wireAsk .unbind).observe fun outcome => ?_
    split
    · exact Keeps.bind (Keeps.pure _) hend
    · split
      · exact Keeps.bind (Keeps.pure _) hend
      · exact Keeps.bind (Keeps.throw _) hend
  · exact Keeps.bind (Keeps.pure _) hend

theorem keeps_given_close : Keeps given close := by
  refine keeps_given_choose ?_ keeps_given_wireClose
  exact Keeps.bind (keeps_directAsk given _) fun _ => Keeps.bind Keeps.state fun _ =>
    Keeps.bind (keeps_given_setLink _ _) fun _ => fun _ => rfl

theorem keeps_given_connect (host port : Value) : Keeps given (connect host port) := by
  refine keeps_given_choose ?_ ?_
  · exact Keeps.bind Keeps.state fun _ => Keeps.bind (keeps_directAsk given _) fun _ =>
      Keeps.bind Keeps.state fun _ => Keeps.bind (Keeps.lift _) fun _ =>
      Keeps.bind (Keeps.change fun _ => rfl) fun _ => Keeps.bind (keeps_given_setLink _ _) fun _ =>
      Keeps.pure _
  · refine Keeps.bind keeps_given_wireClose fun _ => Keeps.bind Keeps.state fun _ =>
      Keeps.bind (Keeps.lift _) fun _ => Keeps.bind (Keeps.change fun _ => rfl) fun _ =>
      Keeps.bind (Keeps.lift _) fun _ => Keeps.bind Keeps.state fun _ =>
      Keeps.bind (Keeps.lift _) fun _ => Keeps.bind (keeps_given_wireAsk _) fun _ =>
      Keeps.bind (Keeps.lift _) fun _ => Keeps.bind (Keeps.lift _) fun _ =>
      Keeps.bind (keeps_given_wireAsk _) fun _ => fun _ => rfl

theorem keeps_given_startTls : Keeps given startTls :=
  Keeps.of_preserves fun _ => preserves_startTls_of (fun _ _ _ h => h) fun _ h => h

theorem keeps_given_bind (username password : Value) : Keeps given (bind username password) :=
  Keeps.of_preserves fun _ => preserves_bind_of (fun _ _ _ h => h) (fun _ h => h)
    (fun _ _ _ _ _ _ h => h) (fun _ _ _ h => h) username password

theorem keeps_given_sendBind (username password : Value) :
    Keeps given (Guard.sendBind username password) := by
  refine Keeps.bind Keeps.state fun transport => ?_
  dsimp only
  split
  · exact Keeps.bind keeps_given_startTls fun _ => keeps_given_bind username password
  · exact keeps_given_bind username password

/-- Whatever is done with guards leaves the setup alone. -/
theorem keeps_given_guards {action : Action Transport α}
    (h : Guard.IsSession (fun _ => True) action) : Keeps given action :=
  Keeps.of_preserves fun shown => h.preserves fun username password _ =>
    (keeps_given_sendBind username password).preserves (· = shown)

theorem keeps_given_search (scope : Scope) (base filter attrs limit : Value)
    (controls : Option (List Control)) :
    Keeps given (search scope base filter attrs limit controls) := by
  refine keeps_given_choose ?_ ?_
  · refine Keeps.bind (keeps_directAsk given _) fun answer => ?_
    dsimp only
    split <;> exact Keeps.pure _
  · exact Keeps.of_preserves fun shown => preserves_search_of (fun _ h => h) scope base filter attrs
      limit controls fun _ _ => (keeps_given_wireAsk _).preserves (· = shown)

theorem keeps_given_change (request : Request) (name : String) (wireRequest : WireRequest) :
    Keeps given (choose (Direct.perform request) (Wire.perform name wireRequest)) := by
  refine keeps_given_choose ?_ ?_
  · exact Keeps.bind (keeps_directAsk given _) fun _ => Keeps.pure _
  · exact Keeps.of_preserves fun shown => preserves_perform_of (fun _ h => h)
      ((keeps_given_wireAsk _).preserves (· = shown))

/-- Every operation on an open handle leaves the setup alone. -/
theorem keeps_given_perform (operation : Operation) : Keeps given operation.perform := by
  cases operation with
  | startTls => exact Keeps.bind keeps_given_startTls fun _ => Keeps.pure _
  | bind username password =>
      exact Keeps.bind (keeps_given_bind username password) fun _ => Keeps.pure _
  | search scope base filter attrs limit controls =>
      exact Keeps.bind (keeps_given_search scope base filter attrs limit controls) fun _ =>
        Keeps.pure _
  | add | modify | delete | rename =>
      exact Keeps.bind (keeps_given_change _ _ _) fun _ => Keeps.pure _
  | modifyEach =>
      exact Keeps.bind (Keeps.bind (Keeps.lift _) fun _ => keeps_given_change _ _ _) fun _ =>
        Keeps.pure _

end Transport

end Directory
