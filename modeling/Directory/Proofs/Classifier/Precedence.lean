import Directory.Proofs.Legible

/-!
# The precedence of registrations

A classifier looks for the latest code that occurs in the diagnostic text, then for the latest text
that occurs in the error message, and then for what was last registered for the result code.
`Prescribes` says so of the registrations in the order in which they were made, and
`kindFor_follows_precedence` that this is the kind which is found, so that a registration changes
nothing where a table above its own has a match.
-/

namespace Directory

/-- A text, or null in the place of one that is missing. -/
def Value.ofText : Option String → Value
  | none => .null
  | some text => .str text

/-- Details with the number of a result and two texts, each of which may be missing. -/
def Detail.ofTexts (code : Int) (message diagnostic : Option String) : Detail :=
  ⟨.int code, .ofText message, .ofText diagnostic⟩

namespace Classifier

/-- A registration of a kind: for a code in the diagnostic text, for a text in the error message, or
for a result code. -/
inductive Registration where
  | code (text : String) (kind : Kind)
  | message (text : String) (kind : Kind)
  | result (code : Value) (kind : Kind)

namespace Registration

/-- The kind that is registered. -/
def kind : Registration → Kind
  | .code _ kind | .message _ kind | .result _ kind => kind

/-- The entry for the diagnostic text. -/
def code? : Registration → Option (Value × Kind)
  | .code text kind => some (.str text, kind)
  | _ => none

/-- The entry for the error message. -/
def message? : Registration → Option (Value × Kind)
  | .message text kind => some (.str text, kind)
  | _ => none

/-- The entry for the result code. A value that stands for no integer is refused. -/
def result? : Registration → Option (Int × Kind)
  | .result number kind => number.toInt.toOption.map (·, kind)
  | _ => none

end Registration

/-- The classifier after a registration. One that is refused changes nothing. -/
def register (classifier : Classifier) : Registration → Classifier
  | .code text kind => classifier.registerCode (.str text) kind
  | .message text kind => classifier.registerMessage (.str text) kind
  | .result code kind =>
    match classifier.registerResultCode code kind with
    | .ok changed => changed
    | .error _ => classifier

/-- A new classifier after registrations, in their order. -/
def ofRegistrations (registrations : List Registration) : Classifier :=
  registrations.foldl register {}

/-! ## What registrations prescribe -/

/-- A key is a text that occurs in another one, letter for letter. -/
def OccursIn (text : String) (key : Value) : Prop :=
  ∃ part, key = .str part ∧ part.toList <:+: text.toList

variable {α : Type}

/-- The key of an entry passes. -/
def HasMatch (passes : α → Prop) (table : List (α × Kind)) : Prop :=
  ∃ entry ∈ table, passes entry.1

/-- The kind is that of the last entry whose key passes. -/
def IsLatest (passes : α → Prop) (table : List (α × Kind)) (kind : Kind) : Prop :=
  ∃ older key newer, table = older ++ (key, kind) :: newer ∧ passes key ∧ ¬ HasMatch passes newer

/-- The entries for the diagnostic text, the latest last. What a new classifier knows is older than
all registrations, and comes in the opposite order because what is listed first goes first. -/
def codeEntries (registrations : List Registration) : List (Value × Kind) :=
  ({} : Classifier).codes.reverse ++ registrations.filterMap Registration.code?

/-- The entries for the error message, in the same way. -/
def messageEntries (registrations : List Registration) : List (Value × Kind) :=
  ({} : Classifier).messages.reverse ++ registrations.filterMap Registration.message?

/-- The entries for result codes, in the same way. -/
def resultEntries (registrations : List Registration) : List (Int × Kind) :=
  ({} : Classifier).resultCodes.reverse ++ registrations.filterMap Registration.result?

/-- The kind that registrations prescribe for a result code, an error message and a diagnostic text:
that of the latest entry in the first table that has a match, and else the default. -/
inductive Prescribes (registrations : List Registration) (code : Int) (message diagnostic : String)
    (default : Kind) : Kind → Prop
  | code {kind : Kind} (h : IsLatest (OccursIn diagnostic) (codeEntries registrations) kind) :
      Prescribes registrations code message diagnostic default kind
  | message {kind : Kind} (hcode : ¬ HasMatch (OccursIn diagnostic) (codeEntries registrations))
      (h : IsLatest (OccursIn message) (messageEntries registrations) kind) :
      Prescribes registrations code message diagnostic default kind
  | result {kind : Kind} (hcode : ¬ HasMatch (OccursIn diagnostic) (codeEntries registrations))
      (hmessage : ¬ HasMatch (OccursIn message) (messageEntries registrations))
      (h : IsLatest (· = code) (resultEntries registrations) kind) :
      Prescribes registrations code message diagnostic default kind
  | default (hcode : ¬ HasMatch (OccursIn diagnostic) (codeEntries registrations))
      (hmessage : ¬ HasMatch (OccursIn message) (messageEntries registrations))
      (hresult : ¬ HasMatch (· = code) (resultEntries registrations)) :
      Prescribes registrations code message diagnostic default default

/-- A table above that of a registration has a match. -/
def IsMatchedAbove (registrations : List Registration) (message diagnostic : String) :
    Registration → Prop
  | .code .. => False
  | .message .. => HasMatch (OccursIn diagnostic) (codeEntries registrations)
  | .result .. => HasMatch (OccursIn diagnostic) (codeEntries registrations) ∨
      HasMatch (OccursIn message) (messageEntries registrations)

/-! ## Tables -/

/-- The kind of the first entry whose key passes a test. -/
def firstKind? (test : α → Bool) (table : List (α × Kind)) : Option Kind :=
  table.findSome? fun entry => if test entry.1 then some entry.2 else none

section Tables

variable {passes : α → Prop} {test : α → Bool} {table : List (α × Kind)} {kind : Kind}

theorem firstKind?_cons (test : α → Bool) (entry : α × Kind) (table : List (α × Kind)) :
    firstKind? test (entry :: table) =
      if test entry.1 then some entry.2 else firstKind? test table := by
  unfold firstKind?
  rw [List.findSome?_cons]
  split <;> simp_all

theorem not_hasMatch_iff (h : ∀ key, test key = true ↔ passes key) :
    ¬ HasMatch passes table ↔ firstKind? test table.reverse = none := by
  simp [HasMatch, firstKind?, h]

/-- The latest entry is the first that is met from the end. -/
theorem isLatest_iff (h : ∀ key, test key = true ↔ passes key) :
    IsLatest passes table kind ↔ firstKind? test table.reverse = some kind := by
  unfold IsLatest HasMatch firstKind?
  rw [List.findSome?_eq_some_iff]
  constructor
  · rintro ⟨older, key, newer, rfl, hkey, hnone⟩
    refine ⟨newer.reverse, (key, kind), older.reverse, by simp, by simp [h, hkey], ?_⟩
    intro entry hmem
    simp only [ite_eq_right_iff, reduceCtorEq, imp_false, h]
    exact fun hpasses => hnone ⟨entry, List.mem_reverse.1 hmem, hpasses⟩
  · rintro ⟨later, ⟨key, found⟩, earlier, heq, hfound, hnone⟩
    obtain ⟨hkey, rfl⟩ : test key = true ∧ found = kind := by simpa using hfound
    refine ⟨earlier.reverse, key, later.reverse, ?_, (h key).1 hkey, ?_⟩
    · rw [← table.reverse_reverse, heq]
      simp
    · rintro ⟨entry, hmem, hpasses⟩
      have hskipped := hnone entry (List.mem_reverse.1 hmem)
      simp [(h entry.1).2 hpasses] at hskipped

end Tables

/-! ## Looking up a kind -/

/-- Whether a key is a text that occurs in another one. -/
def occurs (text : String) : Value → Bool
  | .str part => Value.occursIn part.toList text.toList
  | _ => false

theorem occurs_iff (text : String) (key : Value) : occurs text key = true ↔ OccursIn text key := by
  cases key with
  | str part => simp [occurs, OccursIn, Value.occursIn_iff]
  | _ => simp [occurs, OccursIn]

/-- A table of texts is searched for one that occurs in a text. -/
theorem firstMatch?_eq {test : Value → Except Failure Bool} {text : String}
    {table : List (Value × Kind)}
    (h : ∀ entry ∈ table, test entry.1 = .ok (occurs text entry.1)) :
    firstMatch? test table = .ok (firstKind? (occurs text) table) := by
  induction table with
  | nil => rfl
  | cons entry table ih =>
      obtain ⟨hentry, htable⟩ := List.forall_mem_cons.1 h
      obtain ⟨key, kind⟩ := entry
      unfold firstMatch?
      rw [hentry, ih htable, firstKind?_cons]
      cases occurs text key <;> rfl

theorem resultKind?_eq (classifier : Classifier) (code : Int) :
    classifier.resultKind? code = firstKind? (code == ·) classifier.resultCodes :=
  List.lookup_eq_findSome?

theorem orElse_ofText (text : Option String) :
    (Value.ofText text).orElse (.str "") = .str (text.getD "") := by
  cases text with
  | none => rfl
  | some text =>
      by_cases hempty : text = "" <;> simp [Value.ofText, Value.orElse, Value.isTrue, hempty]

/-- A text that is missing is looked through as if it were empty. -/
theorem holds_ofText (text : Option String) {key : Value} (h : ∃ part, key = .str part) :
    ((Value.ofText text).orElse (.str "")).holds key = .ok (occurs (text.getD "") key) := by
  obtain ⟨part, rfl⟩ := h
  rw [orElse_ofText]
  rfl

/-- The kind for details is that of the first table that has one. -/
theorem IsPlain.kindFor_ofTexts {classifier : Classifier} (h : classifier.IsPlain) (code : Int)
    (message diagnostic : Option String) (default : Kind) :
    classifier.kindFor (some (.ofTexts code message diagnostic)) default =
      .ok (((firstKind? (occurs (diagnostic.getD "")) classifier.codes).or
        ((firstKind? (occurs (message.getD "")) classifier.messages).or
          (firstKind? (code == ·) classifier.resultCodes))).getD default) := by
  have hcodes : firstMatch? (Detail.ofTexts code message diagnostic).diagnosticHolds
      classifier.codes = .ok (firstKind? (occurs (diagnostic.getD "")) classifier.codes) :=
    firstMatch?_eq fun entry hentry => holds_ofText diagnostic (h.codes entry hentry)
  have hmessages : firstMatch? (Detail.ofTexts code message diagnostic).messageHolds
      classifier.messages = .ok (firstKind? (occurs (message.getD "")) classifier.messages) :=
    firstMatch?_eq fun entry hentry => holds_ofText message (h.messages entry hentry)
  unfold kindFor
  dsimp only
  rw [hcodes]
  cases firstKind? (occurs (diagnostic.getD "")) classifier.codes with
  | some kind => rfl
  | none =>
      simp only [bind, Except.bind]
      rw [hmessages]
      cases firstKind? (occurs (message.getD "")) classifier.messages with
      | some kind => rfl
      | none =>
          rw [← resultKind?_eq]
          rfl

/-! ## Registering -/

section Registering

variable (classifier : Classifier) (registration : Registration)
  (registrations : List Registration)

theorem register_result (number : Value) (kind : Kind) :
    classifier.register (.result number kind) =
      number.toInt.toOption.elim classifier fun code =>
        { classifier with
          resultCodes := (code, kind) :: classifier.resultCodes.filter (·.1 != code) } := by
  have hregister : classifier.register (.result number kind) =
      match classifier.registerResultCode number kind with
      | .ok changed => changed
      | .error _ => classifier := rfl
  rw [hregister]
  unfold registerResultCode
  cases number.toInt <;> rfl

theorem codes_register :
    (classifier.register registration).codes = registration.code?.toList ++ classifier.codes := by
  cases registration with
  | result number kind =>
      rw [register_result]
      cases number.toInt.toOption <;> rfl
  | _ => rfl

theorem messages_register :
    (classifier.register registration).messages =
      registration.message?.toList ++ classifier.messages := by
  cases registration with
  | result number kind =>
      rw [register_result]
      cases number.toInt.toOption <;> rfl
  | _ => rfl

/-- Nothing else is found for a code when the entries of another one are dropped. -/
theorem firstKind?_filter {code other : Int} (h : code ≠ other) (table : List (Int × Kind)) :
    firstKind? (code == ·) (table.filter (·.1 != other)) = firstKind? (code == ·) table := by
  induction table with
  | nil => rfl
  | cons entry table ih =>
      rw [List.filter_cons, firstKind?_cons]
      by_cases hentry : entry.1 = other
      · simp [hentry, ih, h]
      · simp [hentry, ih, firstKind?_cons]

/-- What is registered for a result code is found before all that was known for it. -/
theorem firstKind?_resultCodes_register (code : Int) :
    firstKind? (code == ·) (classifier.register registration).resultCodes =
      firstKind? (code == ·) (registration.result?.toList ++ classifier.resultCodes) := by
  cases registration with
  | result number kind =>
      rw [register_result, Registration.result?]
      cases number.toInt.toOption with
      | none => rfl
      | some other =>
          dsimp only [Option.elim, Option.map, Option.toList, List.cons_append, List.nil_append]
          rw [firstKind?_cons, firstKind?_cons]
          by_cases hcode : code = other
          · simp [hcode]
          · simp [hcode, firstKind?_filter hcode]
  | _ => rfl

/-- Entries that every registration puts at the front of a table are there in the opposite order. -/
theorem table_foldl_register {α : Type} {table : Classifier → List α}
    {added? : Registration → Option α}
    (h : ∀ (classifier : Classifier) (registration : Registration),
      table (classifier.register registration) = (added? registration).toList ++ table classifier) :
    table (registrations.foldl register classifier) =
      (registrations.filterMap added?).reverse ++ table classifier := by
  induction registrations generalizing classifier with
  | nil => rfl
  | cons registration registrations ih =>
      rw [List.foldl_cons, ih, h, List.filterMap_cons]
      cases added? registration <;> simp

theorem firstKind?_append {α : Type} (test : α → Bool) (newer older : List (α × Kind)) :
    firstKind? test (newer ++ older) = (firstKind? test newer).or (firstKind? test older) :=
  List.findSome?_append

theorem firstKind?_resultCodes_foldl_register (code : Int) :
    firstKind? (code == ·) (registrations.foldl register classifier).resultCodes =
      firstKind? (code == ·)
        ((registrations.filterMap Registration.result?).reverse ++ classifier.resultCodes) := by
  induction registrations generalizing classifier with
  | nil => rfl
  | cons registration registrations ih =>
      rw [List.foldl_cons, ih, firstKind?_append, firstKind?_resultCodes_register,
        ← firstKind?_append, List.filterMap_cons]
      cases registration.result? <;> simp

/-- The tables of a new classifier after registrations, from the end. -/
theorem codes_ofRegistrations :
    (ofRegistrations registrations).codes = (codeEntries registrations).reverse := by
  rw [ofRegistrations, table_foldl_register {} registrations codes_register, codeEntries,
    List.reverse_append, List.reverse_reverse]

theorem messages_ofRegistrations :
    (ofRegistrations registrations).messages = (messageEntries registrations).reverse := by
  rw [ofRegistrations, table_foldl_register {} registrations messages_register, messageEntries,
    List.reverse_append, List.reverse_reverse]

theorem firstKind?_resultCodes_ofRegistrations (code : Int) :
    firstKind? (code == ·) (ofRegistrations registrations).resultCodes =
      firstKind? (code == ·) (resultEntries registrations).reverse := by
  rw [ofRegistrations, firstKind?_resultCodes_foldl_register, resultEntries, List.reverse_append,
    List.reverse_reverse]

variable {classifier registrations}

theorem IsPlain.register (h : classifier.IsPlain) : (classifier.register registration).IsPlain where
  codes entry hentry := by
    rw [codes_register, List.mem_append] at hentry
    rcases hentry with hnew | hknown
    · cases registration with
      | code text kind => exact ⟨text, congrArg Prod.fst (List.mem_singleton.1 hnew)⟩
      | _ => cases hnew
    · exact h.codes entry hknown
  messages entry hentry := by
    rw [messages_register, List.mem_append] at hentry
    rcases hentry with hnew | hknown
    · cases registration with
      | message text kind => exact ⟨text, congrArg Prod.fst (List.mem_singleton.1 hnew)⟩
      | _ => cases hnew
    · exact h.messages entry hknown

theorem isPlain_new : ({} : Classifier).IsPlain where
  codes := by simp
  messages := by simp

theorem isPlain_ofRegistrations (registrations : List Registration) :
    (ofRegistrations registrations).IsPlain :=
  List.foldlRecOn registrations Classifier.register isPlain_new
    fun _ hplain registration _ => hplain.register registration

end Registering

/-! ## Precedence -/

section Precedence

variable {registrations earlier later : List Registration} {registration : Registration}
  {code : Int} {message diagnostic : String} {default kind : Kind}

/-- The prescribed kind is that of the first table that has one, searched from the end. -/
theorem prescribes_iff :
    Prescribes registrations code message diagnostic default kind ↔
      ((firstKind? (occurs diagnostic) (codeEntries registrations).reverse).or
        ((firstKind? (occurs message) (messageEntries registrations).reverse).or
          (firstKind? (code == ·) (resultEntries registrations).reverse))).getD default = kind := by
  have hsame (other : Int) : (code == other) = true ↔ other = code := by
    rw [beq_iff_eq, eq_comm]
  constructor
  · intro h
    cases h with
    | code h =>
        rw [isLatest_iff (occurs_iff _)] at h
        simp [h]
    | message hcode h =>
        rw [not_hasMatch_iff (occurs_iff _)] at hcode
        rw [isLatest_iff (occurs_iff _)] at h
        simp [hcode, h]
    | result hcode hmessage h =>
        rw [not_hasMatch_iff (occurs_iff _)] at hcode hmessage
        rw [isLatest_iff hsame] at h
        simp [hcode, hmessage, h]
    | default hcode hmessage hresult =>
        rw [not_hasMatch_iff (occurs_iff _)] at hcode hmessage
        rw [not_hasMatch_iff hsame] at hresult
        simp [hcode, hmessage, hresult]
  · rintro rfl
    cases hcode : firstKind? (occurs diagnostic) (codeEntries registrations).reverse with
    | some kind => exact .code ((isLatest_iff (occurs_iff _)).2 hcode)
    | none =>
        have hcode' := (not_hasMatch_iff (occurs_iff _)).2 hcode
        cases hmessage : firstKind? (occurs message) (messageEntries registrations).reverse with
        | some kind => exact .message hcode' ((isLatest_iff (occurs_iff _)).2 hmessage)
        | none =>
            have hmessage' := (not_hasMatch_iff (occurs_iff _)).2 hmessage
            cases hresult : firstKind? (code == ·) (resultEntries registrations).reverse with
            | some kind => exact .result hcode' hmessage' ((isLatest_iff hsame).2 hresult)
            | none =>
                exact .default hcode' hmessage' ((not_hasMatch_iff hsame).2 hresult)

/-- A registration leaves what is prescribed by a table above its own. -/
theorem Prescribes.insert (h : Prescribes (earlier ++ later) code message diagnostic default kind)
    (habove : IsMatchedAbove (earlier ++ later) message diagnostic registration) :
    Prescribes (earlier ++ registration :: later) code message diagnostic default kind := by
  have hcodes (hregistration : registration.code? = none) :
      codeEntries (earlier ++ registration :: later) = codeEntries (earlier ++ later) := by
    simp [codeEntries, hregistration]
  have hmessages (hregistration : registration.message? = none) :
      messageEntries (earlier ++ registration :: later) = messageEntries (earlier ++ later) := by
    simp [messageEntries, hregistration]
  cases registration with
  | code => exact habove.elim
  | message text other =>
      cases h with
      | code h => exact .code (hcodes rfl ▸ h)
      | message hcode | result hcode | default hcode => exact absurd habove hcode
  | result number other =>
      cases h with
      | code h => exact .code (hcodes rfl ▸ h)
      | message hcode h => exact .message (hcodes rfl ▸ hcode) (hmessages rfl ▸ h)
      | result hcode hmessage | default hcode hmessage =>
          exact (habove.elim hcode hmessage).elim

end Precedence

/-- There is a kind for details with a number and two texts, and it is the one that the
registrations prescribe. A further registration, made at any time, leaves it as it is where a table
above its own has a match. -/
theorem kindFor_follows_precedence (registrations : List Registration) (code : Int)
    (message diagnostic : Option String) (default : Kind) :
    (∃ kind, (ofRegistrations registrations).kindFor (some (.ofTexts code message diagnostic))
        default = .ok kind ∧
      ∀ other, Prescribes registrations code (message.getD "") (diagnostic.getD "") default other ↔
        other = kind) ∧
    ∀ earlier registration later, registrations = earlier ++ later →
      IsMatchedAbove registrations (message.getD "") (diagnostic.getD "") registration →
      (ofRegistrations (earlier ++ registration :: later)).kindFor
          (some (.ofTexts code message diagnostic)) default =
        (ofRegistrations registrations).kindFor (some (.ofTexts code message diagnostic))
          default := by
  have hprescribed (registrations : List Registration) :
      ∃ kind, (ofRegistrations registrations).kindFor (some (.ofTexts code message diagnostic))
          default = .ok kind ∧
        ∀ other, Prescribes registrations code (message.getD "") (diagnostic.getD "") default
          other ↔ other = kind := by
    refine ⟨_, (isPlain_ofRegistrations registrations).kindFor_ofTexts code message diagnostic
      default, fun other => ?_⟩
    rw [prescribes_iff, codes_ofRegistrations, messages_ofRegistrations,
      firstKind?_resultCodes_ofRegistrations, eq_comm]
  refine ⟨hprescribed registrations, ?_⟩
  rintro earlier registration later rfl habove
  obtain ⟨kind, hkind, honly⟩ := hprescribed (earlier ++ later)
  obtain ⟨kind', hkind', honly'⟩ := hprescribed (earlier ++ registration :: later)
  rw [hkind, hkind', (honly' kind).1 (((honly kind).2 rfl).insert habove)]

/-- A code that was registered first is found before the message and the result code that were
registered later. -/
theorem kindFor_follows_precedence_code :
    IsMatchedAbove [.code "775" .bind] "Busy" "data 775" (.message "Busy" .connection) ∧
      (ofRegistrations [.code "775" .bind, .message "Busy" .connection]).kindFor
          (some (.ofTexts 51 (some "Busy") (some "data 775"))) .operational =
        (ofRegistrations [.code "775" .bind]).kindFor
          (some (.ofTexts 51 (some "Busy") (some "data 775"))) .operational := by
  have habove : IsMatchedAbove [.code "775" .bind] "Busy" "data 775"
      (.message "Busy" .connection) :=
    ⟨(.str "775", .bind), by simp [codeEntries, Registration.code?], "775", rfl, "data ".toList, [],
      rfl⟩
  exact ⟨habove, (kindFor_follows_precedence [.code "775" .bind] 51 (some "Busy")
    (some "data 775") .operational).2 [.code "775" .bind] (.message "Busy" .connection) [] rfl
      habove⟩

end Classifier

end Directory
