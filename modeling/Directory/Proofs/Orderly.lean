import Directory.Proofs.Delivery
import Directory.Proofs.Transport.Call

/-!
# Scripts in which servers fail in an orderly way

In an orderly script every failure is one that the library turns into a report of a failed directory
operation, closing does not fail, and answers are plain. A world stays orderly whatever is asked of
it and whatever is announced, as long as listeners do not fail.
-/

namespace Directory

open Directory.Action

/-- What a wire client holds as the result can be read. -/
structure Handle.IsPlain (handle : Handle) : Prop where
  response : ∃ response, handle.response = .ok response ∧ response.IsPlain
  lastError : ∃ message, handle.lastError = .ok message ∧ message.IsReadable
  detail : ∃ detail, handle.detail = .ok detail

/-- Only the result of a handle is read. -/
theorem Handle.IsPlain.of_result {handle other : Handle} (h : handle.IsPlain)
    (hresult : other.result = handle.result) : other.IsPlain := by
  have hresponse : other.response = handle.response := by
    unfold Handle.response
    rw [hresult]
  have hlast : other.lastError = handle.lastError := by
    unfold Handle.lastError
    rw [hresult]
  have hdetail : other.detail = handle.detail := by
    unfold Handle.detail Handle.errorCode
    rw [hresult, hresponse]
  exact ⟨hresponse ▸ h.response, hlast ▸ h.lastError, hdetail ▸ h.detail⟩

/-- The details of a result that can be read are plain. -/
theorem Handle.IsPlain.isPlain_detail {handle : Handle} (h : handle.IsPlain) {detail : Detail}
    (hdetail : handle.detail = .ok (some detail)) : detail.IsPlain := by
  obtain ⟨response, hresponse, hplain⟩ := h.response
  unfold Handle.detail at hdetail
  cases hcode : handle.errorCode with
  | error failure =>
      rw [hcode] at hdetail
      cases hdetail
  | ok code =>
      rw [hcode, hresponse] at hdetail
      cases hcode : code.isTrue with
      | false =>
          simp [Bind.bind, Except.bind, hcode, Pure.pure, Except.pure] at hdetail
      | true =>
          refine hplain.isPlain_detail ?_
          simpa [Bind.bind, Except.bind, hcode] using hdetail

/-- A new client holds no result. -/
theorem Handle.isPlain_new : ({} : Handle).IsPlain where
  response := ⟨{}, rfl, ⟨0, rfl⟩, ⟨"", rfl⟩, ⟨"", rfl⟩⟩
  lastError := ⟨.null, rfl, Value.isReadable_null⟩
  detail := ⟨none, rfl⟩

/-- The result of the usual answer is a success. -/
theorem Handle.isPlain_usual : ({ result := ({} : Answer).result } : Handle).IsPlain where
  response := by
    refine ⟨{ message := .str "success" }, ?_, ⟨0, rfl⟩, ⟨"success", rfl⟩, ⟨"", rfl⟩⟩
    simp [Handle.response, Value.orElse, Value.isTrue, Value.get, Value.entries, Value.lookup?,
      Value.same_str, Bind.bind, Except.bind, Pure.pure, Except.pure]
  lastError := by
    refine ⟨.str "success", ?_, Value.isReadable_str _⟩
    simp [Handle.lastError, Value.isTrue, Value.get, Value.entries, Value.lookup?, Value.same_str,
      Bind.bind, Except.bind, Pure.pure, Except.pure]
  detail := by
    refine ⟨none, ?_⟩
    simp [Handle.detail, Handle.errorCode, Value.isTrue, Value.get, Value.entries, Value.lookup?,
      Value.same_str, Bind.bind, Except.bind, Pure.pure, Except.pure]

/-- The failure is a report of a failed directory operation, or one of the wire client that becomes
such a report. -/
def Failure.IsReportable (failure : Failure) : Prop :=
  failure.isA (.wire .general) = true ∨ failure.isDirectory = true

/-- An outcome that a server may have in an orderly script: to close does not fail, all else that
fails is reported, and the answers to binds are plain. -/
def Outcome.IsOrderly : Queue → Outcome → Prop
  | .close, .fails _ => False
  | .wire .unbind, .fails failure => failure.isA (.wire .general) = true
  | .connect, .fails failure | .startTls, .fails failure | .bind, .fails failure =>
    failure.isDirectory = true
  | .wire .open_, .fails failure | .wire .startTls, .fails failure | .wire .bind, .fails failure =>
    failure.IsReportable
  | .bind, .gives answer => answer.response.IsPlain
  | .wire .startTls, .gives answer | .wire .bind, .gives answer =>
    ({ result := answer.result } : Handle).IsPlain
  | _, _ => True

namespace World

/-- What was announced to have happened. -/
def told (world : World) : List Happening :=
  world.announced.map Event.happening

/-- The events of connections that were announced. -/
def happenings (world : World) : List Happening :=
  (world.announced.map Event.happening).filter (·.eventClass.isA .connectionEvent)

/-- A world in which servers fail in an orderly way and listeners do not fail. -/
structure IsOrderly (calm : World → Prop) (world : World) : Prop where
  calm : calm world
  script : ∀ queue, ∀ outcome ∈ world.script queue, outcome.IsOrderly queue

variable {calm : World → Prop} {number : Option Nat} {world : World}

/-- The usual answer is plain. -/
theorem isOrderly_usual (queue : Queue) : (Outcome.gives {}).IsOrderly queue := by
  cases queue with
  | bind => exact ⟨⟨0, rfl⟩, ⟨"", rfl⟩, ⟨"", rfl⟩⟩
  | wire call =>
      cases call with
      | startTls => exact Handle.isPlain_usual
      | bind => exact Handle.isPlain_usual
      | _ => exact trivial
  | _ => exact trivial

theorem IsOrderly.next (h : world.IsOrderly calm) (queue : Queue) :
    (world.next queue).IsOrderly queue := by
  unfold World.next
  cases hscript : world.script queue with
  | nil => exact isOrderly_usual queue
  | cons outcome outcomes => exact h.script queue outcome (hscript ▸ List.mem_cons_self)

/-- The script only gets shorter. -/
theorem mem_script_of_afterTake {queue other : Queue} {outcome : Outcome}
    (h : outcome ∈ (world.afterTake queue).script other) : outcome ∈ world.script other := by
  unfold World.afterTake at h
  dsimp only at h
  split at h
  next heq =>
    rw [heq]
    exact List.mem_of_mem_tail h
  next => exact h

/-- What is asked is recorded, and an outcome is taken for it. -/
theorem IsOrderly.afterTake (h : world.IsOrderly calm) (hcalm : Effect.IsCalm number calm)
    (record : Record) (queue : Queue) :
    (afterTake { world with records := world.records ++ [record] } queue).IsOrderly calm where
  calm := hcalm.apart world _ _ h.calm
  script := fun other outcome hmem => h.script other outcome (mem_script_of_afterTake hmem)

theorem IsOrderly.afterCall (h : world.IsOrderly calm) (hcalm : Effect.IsCalm number calm)
    (request : WireRequest) : (world.afterCall request).IsOrderly calm := by
  unfold World.afterCall
  cases request.queue? with
  | none => exact ⟨hcalm.apart world _ _ h.calm, h.script⟩
  | some queue => exact h.afterTake hcalm (.wire request) queue

/-- An event that is delivered is announced, and the world stays orderly. -/
theorem IsOrderly.run_deliver (h : world.IsOrderly calm) (hcalm : Effect.IsCalm number calm)
    {event : Event} (hevent : ∃ text, event.text = .ok text) :
    ∃ quiet, (Effect.deliver number event).run.run world = (.ok (), quiet) ∧
      quiet.IsOrderly calm ∧
      quiet.happenings = world.happenings ++
        [event.happening].filter (·.eventClass.isA .connectionEvent) := by
  obtain ⟨quiet, hrun, hquiet, hscript, hannounced⟩ := hcalm.run_deliver h.calm hevent
  refine ⟨quiet, hrun, ⟨hquiet, hscript ▸ h.script⟩, ?_⟩
  unfold happenings
  rw [hannounced, List.map_append, List.filter_append]
  rfl

end World

end Directory
