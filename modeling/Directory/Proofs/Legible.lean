import Directory.Classifier
import Directory.Event
import Directory.Response

/-!
# What can be read

The values that have a text, the events that can be written into a log, and the responses from which
the failure of a bind can be made. A response is plain if its code is a number and its texts are
texts, and a classifier if it looks for texts.
-/

namespace Directory

/-- Every item gives something, and so all of them do. -/
theorem exists_mapM_ok {α β : Type} {f : α → Except Failure β} {items : List α}
    (h : ∀ item ∈ items, ∃ b, f item = .ok b) : ∃ results, items.mapM f = .ok results := by
  induction items with
  | nil => exact ⟨[], rfl⟩
  | cons item items ih =>
      obtain ⟨b, hb⟩ := h item List.mem_cons_self
      obtain ⟨results, hresults⟩ := ih fun other hother => h other (List.mem_cons_of_mem _ hother)
      refine ⟨b :: results, ?_⟩
      rw [List.mapM_cons, hb, hresults]
      rfl

/-- What fails for a row fails for one of its items. -/
theorem exists_mem_of_mapM_error {α β ε : Type} {f : α → Except ε β} {items : List α} {failure : ε}
    (h : items.mapM f = .error failure) : ∃ item ∈ items, f item = .error failure := by
  induction items with
  | nil => cases h
  | cons item items ih =>
      rw [List.mapM_cons] at h
      cases hitem : f item with
      | error first =>
          rw [hitem] at h
          cases h
          exact ⟨item, List.mem_cons_self, hitem⟩
      | ok result =>
          rw [hitem] at h
          cases hrest : items.mapM f with
          | error later =>
              simp only [hrest, bind, Except.bind] at h
              cases h
              obtain ⟨other, hmem, hother⟩ := ih hrest
              exact ⟨other, List.mem_cons_of_mem _ hmem, hother⟩
          | ok results =>
              simp only [hrest, bind, Except.bind] at h
              cases h

namespace Value

/-- The value has a text, so that it can be written into a note. -/
def IsReadable (value : Value) : Prop :=
  ∃ text, value.text = .ok text

theorem isReadable_str (s : String) : (Value.str s).IsReadable :=
  ⟨s, by unfold Value.text; rfl⟩

theorem isReadable_of_exists_str {value : Value} (h : ∃ s, value = .str s) : value.IsReadable := by
  obtain ⟨s, rfl⟩ := h
  exact isReadable_str s

theorem isReadable_null : Value.null.IsReadable :=
  ⟨"None", by unfold Value.text Value.shown; rfl⟩

theorem same_str (s t : String) : (Value.str s).same (.str t) = (s == t) := by
  simp [same, alike]

theorem eq_of_isStr {value : Value} {s : String} (h : value.isStr s = true) : value = .str s := by
  unfold isStr at h
  split at h
  next t => exact congrArg Value.str (eq_of_beq h)
  next => cases h

theorem occursIn_iff {α : Type} [BEq α] [LawfulBEq α] (needle row : List α) :
    occursIn needle row = true ↔ needle <:+: row := by
  induction row with
  | nil => simp [occursIn]
  | cons c cs ih =>
      rw [occursIn, Bool.or_eq_true, ih, List.isPrefixOf_iff_prefix, List.infix_cons_iff]

theorem IsReadable.orElse {value other : Value} (h : value.IsReadable) (hother : other.IsReadable) :
    (value.orElse other).IsReadable := by
  unfold Value.orElse
  split
  · exact h
  · exact hother

/-- A note can be written if each of its values can be. -/
theorem note_of_isReadable {values : List Value} (h : ∀ value ∈ values, value.IsReadable) :
    Value.note values = .ok () := by
  induction values with
  | nil => rfl
  | cons value values ih =>
      obtain ⟨text, htext⟩ := h value List.mem_cons_self
      have hrest := ih fun other hother => h other (List.mem_cons_of_mem _ hother)
      unfold Value.note at hrest ⊢
      rw [List.forIn_cons, htext]
      exact hrest

theorem IsReadable.note {value : Value} (h : value.IsReadable) : Value.note [value] = .ok () :=
  note_of_isReadable fun _ hmem => List.mem_singleton.1 hmem ▸ h

theorem IsReadable.note_pair {first second : Value} (hfirst : first.IsReadable)
    (hsecond : second.IsReadable) : Value.note [first, second] = .ok () := by
  refine note_of_isReadable fun value hmem => ?_
  obtain rfl | hmem := List.mem_cons.1 hmem
  · exact hfirst
  · exact List.mem_singleton.1 hmem ▸ hsecond

theorem isReadable_of_note {values : List Value} {value : Value}
    (h : Value.note values = .ok ()) (hmem : value ∈ values) : value.IsReadable := by
  induction values with
  | nil => cases hmem
  | cons first values ih =>
      unfold Value.note at h ih
      rw [List.forIn_cons] at h
      cases hfirst : first.text with
      | error failure =>
          rw [hfirst] at h
          cases h
      | ok text =>
          rw [hfirst] at h
          rcases List.mem_cons.1 hmem with rfl | hmem
          · exact ⟨text, hfirst⟩
          · exact ih h hmem

end Value

namespace Event

/-- An event can be written into a log if its host and the values that it shows have a text. -/
theorem exists_text {event : Event} (hhost : event.host.IsReadable)
    (h : ∀ part ∈ shownParts event.happening, part.2.1.IsReadable) :
    ∃ text, event.text = .ok text := by
  obtain ⟨host, hhost⟩ := hhost.orElse (Value.isReadable_str "")
  have hpart : ∀ part ∈ shownParts event.happening, ∃ shown : String,
      (do return part.1 ++ (← part.2.1.text) ++ part.2.2 : Except Failure String) = .ok shown := by
    intro part hmem
    obtain ⟨text, htext⟩ := h part hmem
    exact ⟨part.1 ++ text ++ part.2.2, by rw [htext]; rfl⟩
  obtain ⟨texts, htexts⟩ := exists_mapM_ok hpart
  unfold text
  rw [hhost]
  exact ⟨_, by simp only [bind, Except.bind] at htexts ⊢; rw [htexts]; rfl⟩

end Event

namespace Kind

theorem isDirectory_bindAnd (kind : Kind) : (bindAnd kind).isDirectory = true :=
  isA_bindAnd_iff.2 (.inr (.inl (by simp)))

/-- A failed bind is a failed directory operation, whatever else it is. -/
theorem isDirectory_withBind (kind : Kind) : kind.withBind.isDirectory = true := by
  unfold withBind
  split
  next hbind =>
    cases kind with
    | bindAnd other => exact isDirectory_bindAnd other
    | bind => rfl
    | wire fault =>
        revert hbind
        cases fault <;> decide
    | _ => exact absurd hbind (by decide)
  next => exact isDirectory_bindAnd kind

end Kind

/-- The texts of details are texts. -/
structure Detail.IsPlain (detail : Detail) : Prop where
  message : ∃ s, detail.message = .str s
  diagnostic : ∃ s, detail.diagnostic = .str s

namespace Response

/-- The code of a response is a number, and its texts are texts. -/
structure IsPlain (response : Response) : Prop where
  code : ∃ n, response.code = .int n
  message : ∃ s, response.message = .str s
  diagnostic : ∃ s, response.diagnostic = .str s

theorem exists_orElse_str {value : Value} (h : ∃ s, value = .str s) (other : String) :
    ∃ s, value.orElse (.str other) = .str s := by
  obtain ⟨s, rfl⟩ := h
  unfold Value.orElse
  split
  · exact ⟨s, rfl⟩
  · exact ⟨other, rfl⟩

theorem IsPlain.exists_codeNumber {response : Response} (h : response.IsPlain) :
    ∃ n, response.codeNumber = .ok n := by
  obtain ⟨n, hcode⟩ := h.code
  unfold codeNumber Value.orElse
  rw [hcode]
  split
  · exact ⟨n, rfl⟩
  · exact ⟨0, rfl⟩

theorem IsPlain.exists_successful {response : Response} (h : response.IsPlain) :
    ∃ isSuccess, response.successful = .ok isSuccess := by
  obtain ⟨n, hcode⟩ := h.exists_codeNumber
  unfold successful
  rw [hcode]
  by_cases hzero : n = 0
  · exact ⟨!response.diagnostic.isTrue, by simp [hzero, bind, Except.bind, pure, Except.pure]⟩
  · exact ⟨false, by simp [hzero, bind, Except.bind, pure, Except.pure]⟩

/-- The details of a plain response are plain. -/
theorem IsPlain.isPlain_detail {response : Response} (h : response.IsPlain) {detail : Detail}
    (hdetail : response.detail = .ok (some detail)) : detail.IsPlain := by
  obtain ⟨n, hcode⟩ := h.exists_codeNumber
  obtain ⟨isSuccess, hsuccess⟩ := h.exists_successful
  unfold Response.detail at hdetail
  rw [hsuccess, hcode] at hdetail
  cases isSuccess with
  | true => cases hdetail
  | false =>
      cases hdetail
      exact ⟨exists_orElse_str h.message "", exists_orElse_str h.diagnostic ""⟩

/-- A response that is no success has details. -/
theorem IsPlain.exists_detail {response : Response} (h : response.IsPlain)
    (hfailed : response.successful = .ok false) :
    ∃ n message diagnostic,
      response.detail = .ok (some ⟨.int n, .str message, .str diagnostic⟩) := by
  obtain ⟨n, hcode⟩ := h.exists_codeNumber
  obtain ⟨message, hmessage⟩ := exists_orElse_str h.message ""
  obtain ⟨diagnostic, hdiagnostic⟩ := exists_orElse_str h.diagnostic ""
  refine ⟨n, message, diagnostic, ?_⟩
  unfold detail
  rw [hfailed, hcode, hmessage, hdiagnostic]
  rfl

end Response

namespace Classifier

/-- A classifier that looks for texts. -/
structure IsPlain (classifier : Classifier) : Prop where
  codes : ∀ entry ∈ classifier.codes, ∃ s, entry.1 = .str s
  messages : ∀ entry ∈ classifier.messages, ∃ s, entry.1 = .str s

theorem exists_firstMatch {test : Value → Except Failure Bool} {entries : List (Value × Kind)}
    (h : ∀ entry ∈ entries, ∃ isMatch, test entry.1 = .ok isMatch) :
    ∃ kind, firstMatch? test entries = .ok kind := by
  induction entries with
  | nil => exact ⟨none, rfl⟩
  | cons entry entries ih =>
      obtain ⟨isMatch, hmatch⟩ := h entry List.mem_cons_self
      obtain ⟨kind, hkind⟩ := ih fun other hother => h other (List.mem_cons_of_mem _ hother)
      obtain ⟨key, found⟩ := entry
      unfold firstMatch?
      rw [hmatch]
      cases isMatch with
      | true => exact ⟨some found, rfl⟩
      | false => exact ⟨kind, hkind⟩

theorem exists_holds {text : Value} (htext : ∃ s, text = .str s) {entries : List (Value × Kind)}
    (h : ∀ entry ∈ entries, ∃ s, entry.1 = .str s) :
    ∀ entry ∈ entries, ∃ isMatch, (text.orElse (.str "")).holds entry.1 = .ok isMatch := by
  intro entry hentry
  obtain ⟨s, hs⟩ := Response.exists_orElse_str htext ""
  obtain ⟨t, ht⟩ := h entry hentry
  rw [hs, ht]
  exact ⟨_, rfl⟩

/-- A plain classifier finds a kind for details with a number and two texts. -/
theorem IsPlain.exists_kindFor {classifier : Classifier} (h : classifier.IsPlain) (n : Int)
    (message diagnostic : String) (default : Kind) :
    ∃ kind, classifier.kindFor (some ⟨.int n, .str message, .str diagnostic⟩) default =
      .ok kind := by
  obtain ⟨byCode, hcode⟩ := exists_firstMatch (exists_holds ⟨diagnostic, rfl⟩ h.codes)
  obtain ⟨byMessage, hmessage⟩ := exists_firstMatch (exists_holds ⟨message, rfl⟩ h.messages)
  have hcodes : firstMatch? (Detail.diagnosticHolds ⟨.int n, .str message, .str diagnostic⟩)
      classifier.codes = .ok byCode := hcode
  have hmessages : firstMatch? (Detail.messageHolds ⟨.int n, .str message, .str diagnostic⟩)
      classifier.messages = .ok byMessage := hmessage
  unfold kindFor
  dsimp only
  rw [hcodes]
  cases byCode with
  | some kind => exact ⟨kind, rfl⟩
  | none =>
      simp only [bind, Except.bind]
      rw [hmessages]
      cases byMessage with
      | some kind => exact ⟨kind, rfl⟩
      | none => exact ⟨_, rfl⟩

/-- The failure of a bind can be made, and reports a failed directory operation. -/
theorem IsPlain.exists_bindFailure {classifier : Classifier} (h : classifier.IsPlain)
    (text : String) (n : Int) (message diagnostic : String) :
    ∃ kind : Kind, classifier.bindFailure text (some ⟨.int n, .str message, .str diagnostic⟩) =
        .ok { kind, text := some text, detail := some ⟨.int n, .str message, .str diagnostic⟩ } ∧
      kind.isDirectory = true := by
  obtain ⟨kind, hkind⟩ := h.exists_kindFor n message diagnostic .bind
  have hdirectory := Kind.isDirectory_withBind kind
  refine ⟨kind.withBind, ?_, hdirectory⟩
  unfold bindFailure
  rw [hkind]
  simp only [bind, Except.bind, Failure.make, hdirectory, if_true]
  rfl

end Classifier

end Directory
