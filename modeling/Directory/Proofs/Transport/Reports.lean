import Directory.Proofs.Transport.Status

/-!
# What a transport reports

No failure of a wire client leaves the transport over it. The loss of the server is reported in
words by which it is recognised (`Failure.TellsLoss`), and any other failure of the client by its
own text. What is done to close a transport closes it, whatever the client makes of it.
-/

namespace Directory

open Directory.Action

/-- A failure that says that the server was lost, and is recognised by its words. -/
structure Failure.TellsLoss (failure : Failure) : Prop where
  kind : failure.kind = .connection
  code : failure.detail.map Detail.code = some (.int serverDownCode)
  recognised : failure.causedByLostConnection = .ok true

theorem saysLostConnection_of_begins {text : String}
    (h : serverDownMessage.toList <+: text.toList) : saysLostConnection text = true := by
  unfold saysLostConnection
  refine List.any_eq_true.2 ⟨"contact LDAP server", List.mem_cons_self, ?_⟩
  have hpart : "contact LDAP server".toList <:+: serverDownMessage.toList :=
    ⟨"Can't ".toList, [], by decide⟩
  exact (Value.occursIn_iff _ _).2 (hpart.trans h.isInfix)

/-- The failure of an operation that cannot reach the server tells so, whatever it adds. -/
theorem tellsLoss_serverDown (text diagnostic : String) (cause : Option Failure) :
    (Transport.Wire.serverDown text diagnostic cause).TellsLoss where
  kind := rfl
  code := rfl
  recognised := by
    have hdiagnostic : (Value.str diagnostic).orElse (.str "") = .str diagnostic := by
      unfold Value.orElse Value.isTrue
      by_cases hempty : diagnostic = ""
      · rw [hempty]
        rfl
      · rw [if_pos (bne_iff_ne.2 hempty)]
    have hjoined : Value.join " " [.str (serverDownMessage ++ text), .str serverDownMessage,
        .str diagnostic] =
          .ok (serverDownMessage ++ text ++ " " ++ serverDownMessage ++ " " ++ diagnostic) :=
      rfl
    show (do
      let words ← Value.join " " [.str (serverDownMessage ++ text), .str serverDownMessage,
        (Value.str diagnostic).orElse (.str "")]
      return saysLostConnection words) = Except.ok true
    rw [hdiagnostic, hjoined]
    refine congrArg Except.ok (saysLostConnection_of_begins ?_)
    simp [String.toList_append, List.append_assoc]

namespace Transport

/-! ## Operations -/

/-- The names and the filter of an operation have texts, its changes are a dictionary, and the
paging that it asks for can be read. -/
def Operation.IsLegible : Operation → Prop
  | .startTls => True
  | .bind username _ => username.IsReadable
  | .search _ base filter _ _ controls =>
    base.IsReadable ∧ filter.IsReadable ∧ ∃ parts, Wire.splitControls (controls.getD []) = .ok parts
  | .add name _ | .modify name _ | .delete name => name.IsReadable
  | .modifyEach _ name attrs => name.IsReadable ∧ ∃ entries, attrs = .dict entries
  | .rename name newName _ _ => name.IsReadable ∧ newName.IsReadable

/-- The call of a legible operation can be put together. -/
theorem Operation.exists_request {operation : Operation} (h : operation.IsLegible) {host : Value}
    (hhost : host.IsReadable) : ∃ request, operation.request host = .ok request := by
  cases operation with
  | startTls => exact exists_bind_eq_ok hhost.note ⟨_, rfl⟩
  | bind username password =>
      have husername : (username.orElse (.str "")).IsReadable :=
        Value.IsReadable.orElse h (Value.isReadable_str "")
      exact exists_bind_eq_ok (hhost.note_pair husername) ⟨_, rfl⟩
  | search scope base filter attrs limit controls =>
      obtain ⟨hbase, hfilter, parts, hparts⟩ := h
      exact exists_bind_eq_ok (hbase.note_pair hfilter) (exists_bind_eq_ok hparts ⟨_, rfl⟩)
  | modifyEach change name attrs =>
      obtain ⟨hname, entries, rfl⟩ := h
      exact exists_bind_eq_ok rfl (exists_bind_eq_ok hname.note ⟨_, rfl⟩)
  | rename name newName newParent deleteOld =>
      exact exists_bind_eq_ok (h.1.note_pair h.2) ⟨_, rfl⟩
  | add name attrs => exact exists_bind_eq_ok (Value.IsReadable.note h) ⟨_, rfl⟩
  | modify name changes => exact exists_bind_eq_ok (Value.IsReadable.note h) ⟨_, rfl⟩
  | delete name => exact exists_bind_eq_ok (Value.IsReadable.note h) ⟨_, rfl⟩

/-- What a failure of a client is reported by is none of a client. -/
theorem isLocal_reported (transport : Transport) (failure : Failure) :
    (transport.reported failure).IsLocal := by
  unfold reported
  split
  · rfl
  · split
    · cases hdetail : transport.detail with
      | error unreadable => exact (failsByMisuse_detail transport unreadable hdetail).isLocal
      | ok detail => rfl
    next hlocal => exact Bool.eq_false_iff.2 hlocal

/-- No failure of a wire client leaves an operation. -/
theorem failsByLocal_perform (operation : Operation) {start : Transport × World}
    (hwire : start.1.isDirect = false) :
    FailsBy Failure.IsLocal (exec operation.perform start).1 := by
  have hends := operation.ends hwire
  generalize exec operation.perform start = ended at hends ⊢
  cases hends with
  | unmade hrequest => exact FailsBy.error (operation.isLocal_request _ _ hrequest)
  | closed name => exact FailsBy.error rfl
  | failed => exact FailsBy.error (isLocal_reported _ _)
  | answered _ _ _ _ houtcome => exact houtcome

/-- An operation that loses the server tells so, and leaves the transport unbound. -/
theorem Operation.LosesServer.tells {operation : Operation} {start : Transport × World}
    (h : operation.LosesServer start) :
    ∃ failure, (exec operation.perform start).1 = .error failure ∧ failure.TellsLoss ∧
      ((start.1.isBound = true → start.1.isConnected = true) →
        (exec operation.perform start).2.1.isBound = false) := by
  have hends := operation.ends h.1
  generalize exec operation.perform start = ended at hends ⊢
  cases hends with
  | unmade hrequest =>
      obtain ⟨-, ⟨-, _, hmade⟩ | ⟨_, ⟨_, hmade, -⟩, -⟩⟩ := h
      · cases hmade.symm.trans hrequest
      · cases hmade.symm.trans hrequest
  | closed name hrequest hconnected =>
      refine ⟨_, rfl, tellsLoss_serverDown _ _ _, fun hbound => ?_⟩
      rw [← Bool.not_eq_true]
      intro hisBound
      cases hconnected.symm.trans (hbound hisBound)
  | @failed request failure called hrequest hconnected hcall =>
      obtain ⟨_, heq, hlost⟩ := (losesServer_iff h.1 hrequest hconnected hcall).1 h
      cases heq
      refine ⟨_, rfl, ?_, fun _ => ?_⟩
      · unfold reported
        rw [if_pos hlost]
        exact tellsLoss_serverDown _ _ _
      · rw [afterFailure_eq]
        dsimp only
        rw [hlost]
        rfl
  | answered hrequest hconnected hcall =>
      obtain ⟨_, heq, -⟩ := (losesServer_iff h.1 hrequest hconnected hcall).1 h
      cases heq

/-- Any other failure of the client is reported by its text, with the details of the last
operation. -/
theorem exec_perform_of_failsWith {operation : Operation} {start : Transport × World}
    {failure : Failure} {detail : Option Detail} (hwire : start.1.isDirect = false)
    (hfails : operation.FailsWith start failure) (hgeneral : failure.isA (.wire .general) = true)
    (hlost : failure.isA (.wire .communication) = false) (hdetail : start.1.detail = .ok detail) :
    (exec operation.perform start).1 = .error
      { kind := .directory, text := some failure.report, detail, cause := some failure } := by
  have hends := operation.ends hwire
  generalize exec operation.perform start = ended at hends ⊢
  obtain ⟨made, hmade, hopen, hcalled⟩ := hfails
  cases hends with
  | unmade hrequest => cases hmade.symm.trans hrequest
  | closed name _ hconnected => cases hopen.symm.trans hconnected
  | @failed request fault called hrequest hconnected hcall hleaves =>
      obtain rfl := Except.ok.inj (hmade.symm.trans hrequest)
      rw [hcall] at hcalled
      cases hcalled
      unfold reported
      rw [hleaves.fails failure rfl, hdetail]
      simp only [hlost, hgeneral, Bool.false_eq_true, if_false, if_true]
  | answered hrequest hconnected hcall =>
      obtain rfl := Except.ok.inj (hmade.symm.trans hrequest)
      rw [hcall] at hcalled
      cases hcalled

/-! ## Closing -/

/-- No failure of a client leaves the closing of a transport. It is closed unless something else
than the client fails. -/
theorem exec_close_of_isConsistent {start : Transport × World} (h : start.1.IsConsistent) :
    FailsBy Failure.IsLocal (exec Transport.close start).1 ∧
      (FailsBy (fun failure => failure.isA (.wire .general) = true)
          (start.2.answerTo .unbind).result →
        (∃ wasClosed, (exec Transport.close start).1 = .ok (.bool wasClosed)) ∧
          (exec Transport.close start).2.1.IsDropped) := by
  unfold Transport.close
  rw [exec_choose_of_not_isDirect h.wire]
  unfold Wire.close
  rw [exec_bind, exec_state]
  dsimp only
  cases hconnected : start.1.isConnected with
  | false => exact ⟨FailsBy.ok _, fun _ => ⟨⟨false, rfl⟩, rfl, rfl, rfl, rfl⟩⟩
  | true =>
      simp only [if_true, exec_bind, exec_state, exec_lift, h.readable.note, exec_observe, exec_ask]
      cases houtcome : start.2.answerTo .unbind with
      | gives answer => exact ⟨FailsBy.ok _, fun _ => ⟨⟨true, rfl⟩, rfl, rfl, rfl, rfl⟩⟩
      | fails failure =>
          simp only [Outcome.result]
          cases hgeneral : failure.isA (.wire .general) with
          | true => exact ⟨FailsBy.ok _, fun _ => ⟨⟨false, rfl⟩, rfl, rfl, rfl, rfl⟩⟩
          | false =>
              refine ⟨FailsBy.error hgeneral, fun hclient => ?_⟩
              cases (hclient failure rfl).symm.trans hgeneral

end Transport

end Directory
