import Directory.Proofs.Classifier.Precedence

/-!
# Classified failures

A failure that is classified keeps its text and its details, is of the kind that they call for, and
is not classified any further. It is the failure itself if that was of the kind already, and has it
as its cause otherwise. The failure of a bind is also of the kind that its details call for
(`classify_settles`).
-/

namespace Directory

namespace Kind

/-- The kinds of reports of failed directory operations. -/
def reports : List Kind :=
  [.directory, .connection, .noServer, .operational, .bind, .constraint, .insufficientAccess,
    .alreadyExists, .noSuchObject]

/-- The kind is that of a report, alone or joined with that of a failed bind. -/
def isReport : Kind → Bool
  | .bindAnd other => reports.contains other
  | kind => reports.contains kind

variable {kind : Kind}

/-- What holds of the kinds of reports, alone and joined with that of a failed bind, holds of every
kind of report. -/
theorem forall_isReport {p : Kind → Prop} (hplain : ∀ kind ∈ reports, p kind)
    (hjoined : ∀ kind ∈ reports, p (.bindAnd kind)) (h : kind.isReport = true) : p kind := by
  unfold isReport at h
  split at h
  next other => exact hjoined other (List.contains_iff_mem.1 h)
  next => exact hplain kind (List.contains_iff_mem.1 h)

theorem isDirectory_of_isReport (h : kind.isReport = true) : kind.isDirectory = true :=
  forall_isReport (p := fun kind => kind.isDirectory = true) (by decide) (by decide) h

/-- A report is no failed look-up, so that its text is not quoted. -/
theorem not_isA_missingKey_of_isReport (h : kind.isReport = true) :
    kind.isA .missingKey = false :=
  forall_isReport (p := fun kind => kind.isA .missingKey = false) (by decide) (by decide) h

theorem isReport_withBind (h : kind.isReport = true) : kind.withBind.isReport = true :=
  forall_isReport (p := fun kind => kind.withBind.isReport = true) (by decide) (by decide) h

theorem isA_bind_withBind (kind : Kind) : kind.withBind.isA .bind = true := by
  unfold withBind
  split
  next h => exact h
  next => exact isA_bindAnd_iff.2 (.inr (.inl (by simp)))

theorem isA_withBind (kind : Kind) : kind.withBind.isA kind = true := by
  unfold withBind
  split
  · exact kind.isA_self
  · exact isA_bindAnd_iff.2 (.inr (.inr kind.isA_self))

end Kind

namespace Failure

variable {kind : Kind} {message : String} {detail : Option Detail}

theorem make_of_isReport (h : kind.isReport = true) :
    make kind message detail = .ok { kind, text := some message, detail } := by
  unfold make
  rw [Kind.isDirectory_of_isReport h]
  rfl

theorem report_of_isReport {failure : Failure} (h : failure.kind.isReport = true) :
    failure.report = failure.text.getD "" := by
  unfold report isA
  rw [Kind.not_isA_missingKey_of_isReport h]
  rfl

end Failure

/-- Details, if there are any, have a number and two texts, each of which may be missing. -/
def Detail.AreTexts (detail : Option Detail) : Prop :=
  ∀ own ∈ detail, ∃ code message diagnostic, own = .ofTexts code message diagnostic

/-- A report of a failed directory operation. -/
structure Failure.IsReport (failure : Failure) : Prop where
  kind : failure.kind.isReport = true
  detail : Detail.AreTexts failure.detail

namespace Classifier

variable {classifier : Classifier} {failure classified : Failure} {detail : Option Detail}
  {registration : Registration} {registrations : List Registration} {kind : Kind}

/-! ## What classifying comes to -/

/-- The failure is classified as another one with its text and its details, of the kind that they
call for. It is the failure itself if that is of the kind, and has it as its cause otherwise; and it
is left as it is when it is classified again. -/
structure Classifies (classifier : Classifier) (failure classified : Failure) : Prop where
  classify : classifier.classify failure none = .ok classified
  report : classified.report = failure.report
  details : classified.detail = failure.detail
  kind : ∃ kind, classifier.kindFor failure.detail failure.kind = .ok kind ∧
    classified.isA kind = true ∧
    if failure.isA kind then classifier.reclassify? failure none = .ok none
    else classifier.reclassify? failure none = .ok (some classified) ∧
      classified.cause = some failure
  again : classifier.reclassify? classified none = .ok none

/-- The failure is that of a bind with a message and details: it has them as they are, is also of
the kind that the details call for, and is left as it is when it is classified. -/
structure FailsBind (classifier : Classifier) (message : String) (detail : Option Detail)
    (failure : Failure) : Prop where
  made : classifier.bindFailure message detail = .ok failure
  report : failure.report = message
  details : failure.detail = detail
  bind : failure.isA .bind = true
  kind : ∃ kind, classifier.kindFor detail .bind = .ok kind ∧ failure.isA kind = true
  again : classifier.reclassify? failure none = .ok none

/-! ## Registered kinds -/

/-- All kinds in the tables are kinds of reports. -/
structure HasReports (classifier : Classifier) : Prop where
  codes : ∀ entry ∈ classifier.codes, entry.2.isReport = true
  messages : ∀ entry ∈ classifier.messages, entry.2.isReport = true
  results : ∀ entry ∈ classifier.resultCodes, entry.2.isReport = true

theorem hasReports_new : ({} : Classifier).HasReports where
  codes := by decide
  messages := by decide
  results := by decide

theorem HasReports.register (h : classifier.HasReports)
    (hkind : registration.kind.isReport = true) :
    (classifier.register registration).HasReports := by
  cases registration with
  | code text kind => exact ⟨List.forall_mem_cons.2 ⟨hkind, h.codes⟩, h.messages, h.results⟩
  | message text kind => exact ⟨h.codes, List.forall_mem_cons.2 ⟨hkind, h.messages⟩, h.results⟩
  | result number kind =>
      rw [register_result]
      cases number.toInt.toOption with
      | none => exact h
      | some code =>
          refine ⟨h.codes, h.messages, List.forall_mem_cons.2 ⟨hkind, fun entry hentry => ?_⟩⟩
          exact h.results entry (List.mem_filter.1 hentry).1

theorem hasReports_ofRegistrations
    (h : ∀ registration ∈ registrations, registration.kind.isReport = true) :
    (ofRegistrations registrations).HasReports :=
  List.foldlRecOn registrations Classifier.register hasReports_new
    fun _ hreports registration hregistration =>
      HasReports.register hreports (h registration hregistration)

/-- What is found in a table is the kind of one of its entries. -/
theorem isReport_of_firstKind? {α : Type} {test : α → Bool} {table : List (α × Kind)}
    (h : ∀ entry ∈ table, entry.2.isReport = true) (hkind : firstKind? test table = some kind) :
    kind.isReport = true := by
  obtain ⟨entry, hentry, hfound⟩ := List.exists_of_findSome?_eq_some hkind
  obtain ⟨-, rfl⟩ : test entry.1 = true ∧ entry.2 = kind := by simpa using hfound
  exact h entry hentry

/-- Details call for a kind of report of their own, or for the default. -/
theorem HasReports.exists_kindFor (h : classifier.HasReports) (hplain : classifier.IsPlain)
    (hdetail : Detail.AreTexts detail) :
    ∃ own : Option Kind, (∀ kind ∈ own, kind.isReport = true) ∧
      ∀ default, classifier.kindFor detail default = .ok (own.getD default) := by
  cases detail with
  | none => exact ⟨none, nofun, fun _ => rfl⟩
  | some detail =>
      obtain ⟨code, message, diagnostic, rfl⟩ := hdetail detail rfl
      refine ⟨_, fun kind hkind => ?_, hplain.kindFor_ofTexts code message diagnostic⟩
      rw [Option.mem_def, Option.or_eq_some_iff, Option.or_eq_some_iff] at hkind
      rcases hkind with hcode | ⟨-, hmessage | ⟨-, hresult⟩⟩
      · exact isReport_of_firstKind? h.codes hcode
      · exact isReport_of_firstKind? h.messages hmessage
      · exact isReport_of_firstKind? h.results hresult

/-! ## Classifying -/

theorem reclassify?_of_isA (hkind : classifier.kindFor failure.detail failure.kind = .ok kind)
    (h : failure.isA kind = true) : classifier.reclassify? failure none = .ok none := by
  unfold reclassify?
  simp only [Option.getD_none, hkind, bind, Except.bind, h, if_true]
  rfl

theorem reclassify?_of_not_isA (hkind : classifier.kindFor failure.detail failure.kind = .ok kind)
    (hreport : kind.isReport = true) (h : failure.isA kind = false) :
    classifier.reclassify? failure none =
      .ok (some { kind, text := some failure.report, detail := failure.detail,
                  cause := some failure }) := by
  unfold reclassify?
  simp only [Option.getD_none, hkind, bind, Except.bind, h, Failure.make_of_isReport hreport]
  rfl

theorem classify_eq_of_reclassify? {made : Option Failure}
    (h : classifier.reclassify? failure none = .ok made) :
    classifier.classify failure none = .ok (made.getD failure) := by
  unfold classify
  rw [h]
  rfl

theorem HasReports.exists_classifies (h : classifier.HasReports) (hplain : classifier.IsPlain)
    (hfailure : failure.IsReport) : ∃ classified, classifier.Classifies failure classified := by
  obtain ⟨own, hown, hkind⟩ := h.exists_kindFor hplain hfailure.detail
  have hfirst := hkind failure.kind
  by_cases hisA : failure.isA (own.getD failure.kind) = true
  · have hnone := reclassify?_of_isA hfirst hisA
    exact ⟨failure, classify_eq_of_reclassify? hnone, rfl, rfl,
      ⟨_, hfirst, hisA, by rw [if_pos hisA]; exact hnone⟩, hnone⟩
  · -- a kind that the failure is not of is no default, and it stays the kind for the details
    cases own with
    | none => exact absurd failure.kind.isA_self hisA
    | some kind =>
        have hreport : kind.isReport = true := hown kind rfl
        have hmade := reclassify?_of_not_isA hfirst hreport (Bool.eq_false_iff.2 hisA)
        refine ⟨_, classify_eq_of_reclassify? hmade, Failure.report_of_isReport hreport, rfl,
          ⟨kind, hfirst, kind.isA_self, ?_⟩, reclassify?_of_isA (hkind kind) kind.isA_self⟩
        rw [if_neg (show ¬ failure.isA kind = true from hisA)]
        exact ⟨hmade, rfl⟩

theorem HasReports.exists_failsBind (h : classifier.HasReports) (hplain : classifier.IsPlain)
    (message : String) (hdetail : Detail.AreTexts detail) :
    ∃ failure, classifier.FailsBind message detail failure := by
  obtain ⟨own, hown, hkind⟩ := h.exists_kindFor hplain hdetail
  have hreport : (own.getD .bind).withBind.isReport = true := by
    refine Kind.isReport_withBind ?_
    cases own with
    | none => rfl
    | some kind => exact hown kind rfl
  have hmade : classifier.bindFailure message detail =
      .ok { kind := (own.getD .bind).withBind, text := some message, detail } := by
    unfold bindFailure
    rw [hkind]
    exact Failure.make_of_isReport hreport
  refine ⟨_, hmade, Failure.report_of_isReport hreport, rfl, Kind.isA_bind_withBind _,
    ⟨_, hkind .bind, Kind.isA_withBind _⟩, reclassify?_of_isA (hkind _) ?_⟩
  cases own with
  | none => exact Kind.isA_self _
  | some kind => exact kind.isA_withBind

/-- Reports are classified once and for all, and so are the failures of binds, whatever kinds of
reports were registered. -/
theorem classify_settles
    (hregistrations : ∀ registration ∈ registrations, registration.kind.isReport = true)
    (hfailure : failure.IsReport) (message : String) (hdetail : Detail.AreTexts detail) :
    (∃ classified, (ofRegistrations registrations).Classifies failure classified) ∧
      ∃ bound, (ofRegistrations registrations).FailsBind message detail bound :=
  have hreports := hasReports_ofRegistrations hregistrations
  have hplain := isPlain_ofRegistrations registrations
  ⟨hreports.exists_classifies hplain hfailure, hreports.exists_failsBind hplain message hdetail⟩

/-- A failed operation for which a code is registered becomes the failure of a bind, and a failed
bind is one of a connection too. -/
theorem classify_settles_registered :
    (∃ classified, (ofRegistrations [.code "775" .bind, .result (.int 51) .connection]).Classifies
      { kind := .operational, text := some "failed",
        detail := some (.ofTexts 49 (some "Invalid credentials") (some "data 775")) } classified) ∧
    ∃ bound, (ofRegistrations [.code "775" .bind, .result (.int 51) .connection]).FailsBind
      "failed" (some (.ofTexts 51 (some "Busy") none)) bound := by
  have htexts (code : Int) (message diagnostic : Option String) :
      Detail.AreTexts (some (.ofTexts code message diagnostic)) :=
    fun own hown => ⟨code, message, diagnostic, (Option.some.inj hown).symm⟩
  exact classify_settles (by decide) ⟨by decide, htexts 49 _ _⟩ "failed" (htexts 51 _ _)

end Classifier

end Directory
