import Mathlib.Data.List.Rotate
import Directory.Connection.Run
import Directory.Proofs.Action

/-!
# Hosts

The hosts that a connection goes through: how one that could not be used is noted, and in which
order they follow each other. Hosts are texts, and so they can be noted and written into the log.
-/

namespace Directory.Connection

open Directory.Action

/-- A host that is in use, or no host. -/
def IsHostname (hostname : Value) : Prop :=
  hostname = .null ∨ ∃ name, hostname = .str name

variable {hostname : Value}

namespace IsHostname

theorem same_iff (h : IsHostname hostname) (other : Value) :
    hostname.same other = true ↔ other = hostname := by
  rcases h with rfl | ⟨name, rfl⟩
  · cases other <;> simp [Value.same, Value.alike, Value.sameNumber?, Value.asInt?]
  · cases other with
    | str other => simp [Value.same, Value.alike, eq_comm (a := name)]
    | _ => simp [Value.same, Value.alike, Value.sameNumber?, Value.asInt?]

theorem any_same_iff (h : IsHostname hostname) (hostnames : List Value) :
    hostnames.any hostname.same = true ↔ hostname ∈ hostnames := by
  simp only [List.any_eq_true, h.same_iff, exists_eq_right]

theorem note (h : IsHostname hostname) : Value.note [hostname] = .ok () := by
  rcases h with rfl | ⟨name, rfl⟩ <;> rfl

theorem requireKey (h : IsHostname hostname) : hostname.requireKey = .ok hostname := by
  rcases h with rfl | ⟨name, rfl⟩ <;> rfl

end IsHostname

/-! ## Hosts that could not be used -/

/-- The hosts noted before with a further one, which is noted once. -/
def withAttempt (attempted : List Value) (hostname : Value) : List Value :=
  if attempted.any hostname.same then attempted else attempted ++ [hostname]

theorem withAttempt_of_mem {attempted : List Value} (h : IsHostname hostname)
    (hmem : hostname ∈ attempted) : withAttempt attempted hostname = attempted :=
  if_pos ((h.any_same_iff attempted).2 hmem)

theorem withAttempt_of_not_mem {attempted : List Value} (h : IsHostname hostname)
    (hmem : hostname ∉ attempted) : withAttempt attempted hostname = attempted ++ [hostname] :=
  if_neg fun hany => hmem ((h.any_same_iff attempted).1 hany)

/-- Noting a host does nothing else. -/
theorem exec_noteAttempt (h : IsHostname hostname) (start : Connection × World) :
    exec (noteAttempt hostname) start =
      (.ok (), { start.1 with attempted := withAttempt start.1.attempted hostname }, start.2) := by
  unfold noteAttempt withAttempt
  rw [exec_bind, exec_lift, h.requireKey]
  show (Except.ok (), (if _ then _ else _, start.2)) = _
  split
  · rfl
  · rfl

/-- The hosts noted afterwards are those noted before and, once each, the given ones. -/
def Gains (before after hostnames : List Value) : Prop :=
  ∃ fresh, after = before ++ fresh ∧ fresh.Nodup ∧
    ∀ hostname, hostname ∈ fresh ↔ hostname ∈ hostnames ∧ hostname ∉ before

theorem Gains.nil (before : List Value) : Gains before before [] :=
  ⟨[], by simp⟩

/-- A host that is noted is gained unless it was noted before. -/
theorem Gains.withAttempt {before after hostnames : List Value} (h : Gains before after hostnames)
    (hhostname : IsHostname hostname) :
    Gains before (withAttempt after hostname) (hostnames ++ [hostname]) := by
  obtain ⟨fresh, rfl, hnodup, hfresh⟩ := h
  by_cases hmem : hostname ∈ before ++ fresh
  · -- what was noted before is not gained, and what was gained is not noted again
    rw [withAttempt_of_mem hhostname hmem]
    refine ⟨fresh, rfl, hnodup, fun other => ?_⟩
    rw [hfresh, List.mem_append, List.mem_singleton]
    rw [List.mem_append, hfresh] at hmem
    constructor
    · exact fun ⟨hother, hnew⟩ => ⟨.inl hother, hnew⟩
    · intro hparts
      obtain ⟨hother | rfl, hnew⟩ := hparts
      · exact ⟨hother, hnew⟩
      · exact hmem.resolve_left hnew
  · rw [withAttempt_of_not_mem hhostname hmem]
    rw [List.mem_append, not_or] at hmem
    refine ⟨fresh ++ [hostname], List.append_assoc .., ?_, fun other => ?_⟩
    · exact List.nodup_append.2 ⟨hnodup, List.nodup_singleton _, fun other hother last hlast heq =>
        hmem.2 (List.mem_singleton.1 hlast ▸ heq ▸ hother)⟩
    · rw [List.mem_append, hfresh, List.mem_append, List.mem_singleton]
      constructor
      · rintro (⟨hother, hnew⟩ | rfl)
        · exact ⟨.inl hother, hnew⟩
        · exact ⟨.inr rfl, hmem.1⟩
      · intro hparts
        obtain ⟨hother | rfl, hnew⟩ := hparts
        · exact .inl ⟨hother, hnew⟩
        · exact .inr rfl

/-! ## The order of hosts -/

theorem isHostname_hostAfter {hostnames : List Value}
    (h : ∀ hostname ∈ hostnames, IsHostname hostname) (hostname : Value) :
    IsHostname (hostAfter hostnames hostname) := by
  have hget (next : Nat) : IsHostname (hostnames.getD next .null) := by
    rw [List.getD_eq_getElem?_getD]
    cases hnext : hostnames[next]? with
    | none => exact .inl rfl
    | some other => exact h other (List.mem_of_getElem? hnext)
  exact hget _

variable {hostnames : List Value}

/-- The host after a host that is configured once is the next one, going around at the end. -/
theorem hostAfter_getElem (h : ∀ hostname ∈ hostnames, IsHostname hostname)
    (hnodup : hostnames.Nodup) {i : Nat} (hi : i < hostnames.length) :
    hostAfter hostnames hostnames[i] =
      hostnames.get ⟨(i + 1) % hostnames.length, Nat.mod_lt _ (by omega)⟩ := by
  have hhostname : IsHostname hostnames[i] := h _ (List.getElem_mem hi)
  -- a host that is configured once is found at its own place
  have hindex : hostnames.findIdx? hostnames[i].same = some i := by
    rw [List.findIdx?_eq_some_iff_getElem]
    refine ⟨hi, (hhostname.same_iff _).2 rfl, fun j hji hsame => ?_⟩
    have heq := (hhostname.same_iff _).1 hsame
    have := (hnodup.getElem_inj_iff).1 heq
    omega
  unfold hostAfter
  rw [hindex, List.getD_eq_getElem?_getD, List.getElem?_eq_getElem (Nat.mod_lt _ (by omega)),
    Option.getD_some, List.get_eq_getElem]

theorem iterate_hostAfter_getElem (h : ∀ hostname ∈ hostnames, IsHostname hostname)
    (hnodup : hostnames.Nodup) {i : Nat} (hi : i < hostnames.length) (k : Nat) :
    (hostAfter hostnames)^[k] hostnames[i] =
      hostnames.get ⟨(i + k) % hostnames.length, Nat.mod_lt _ (by omega)⟩ := by
  induction k with
  | zero => simp [Nat.mod_eq_of_lt hi]
  | succ k ih =>
      rw [Function.iterate_succ_apply', ih, List.get_eq_getElem, hostAfter_getElem h hnodup]
      simp [Nat.add_assoc]

/-- Going around from a host that is configured visits every host once. -/
theorem iterate_hostAfter_perm (h : ∀ hostname ∈ hostnames, IsHostname hostname)
    (hnodup : hostnames.Nodup) (hmem : hostname ∈ hostnames) :
    ((List.range hostnames.length).map fun k => (hostAfter hostnames)^[k] hostname).Perm
      hostnames := by
  obtain ⟨i, hi, rfl⟩ := List.getElem_of_mem hmem
  have hrotate : ((List.range hostnames.length).map fun k =>
      (hostAfter hostnames)^[k] hostnames[i]) = hostnames.rotate i := by
    refine List.ext_getElem (by simp) fun k _ _ => ?_
    rw [List.getElem_map, List.getElem_range, iterate_hostAfter_getElem h hnodup hi,
      List.get_eq_getElem, List.getElem_rotate]
    simp only [Nat.add_comm]
  rw [hrotate]
  exact List.rotate_perm hostnames i

end Directory.Connection
