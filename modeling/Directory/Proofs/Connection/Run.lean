import Directory.Proofs.Connection.Schedule
import Directory.Proofs.Value.Plain

/-!
# Runs of operations

What a connection does with an operation that uses the transport and nothing else.
-/

namespace Directory.Connection

open Directory.Action

variable {α : Type} {names : List String} {initial start : Connection × World}

theorem isHostname_of_mem {hostname : Value} (h : hostname ∈ names.map Value.str) :
    IsHostname hostname := by
  obtain ⟨name, -, rfl⟩ := List.mem_map.1 h
  exact .inr ⟨name, rfl⟩

/-- The schedule of a run of an operation on the transport: the configured hosts, and the one in use
when the operation is run first. -/
def scheduleOf (operation : Action Transport α) (names : List String) (first : Value) :
    Schedule Connection α :=
  ⟨.whole, onTransport operation, names.map .str, first⟩

theorem isProper_scheduleOf (operation : Action Transport α) (names : List String) {first : Value}
    (hfirst : IsHostname first) : (scheduleOf operation names first).IsProper where
  lawful := Focus.isLawful_whole
  operation := fun hview => keeps_onTransport operation hview.transport
  hosts := fun _ => isHostname_of_mem
  first := hfirst

/-- A run connects first if that is needed. -/
theorem run_eq (operation : Action Connection α) :
    run operation = (do
      opening .whole
      runOpened .whole operation) :=
  runWithin_eq .whole operation

theorem exec_opening_whole (initial : Connection × World) :
    exec (opening .whole) initial =
      if initial.1.isConnected then (.ok (), initial) else exec (connect .null .null) initial := by
  unfold opening
  rw [exec_bind, exec_state]
  cases hconnected : initial.1.isConnected with
  | true => simp [Focus.whole, hconnected]
  | false =>
      simp only [Focus.whole, id, hconnected]
      rfl

/-- A connection that was made has the same hosts as before, and uses one of them or the one that it
used before. -/
theorem hosts_of_opening (hhosts : initial.1.configuration.hosts = names.map .str)
    (hhostname : IsHostname initial.1.hostname)
    (h : exec (opening .whole) initial = (.ok (), start)) :
    start.1.configuration.hosts = names.map .str ∧ IsHostname start.1.hostname := by
  rw [exec_opening_whole] at h
  split at h
  · cases h
    exact ⟨hhosts, hhostname⟩
  · have hkeeps : Keeps (fun connection => connection.configuration.hosts) (connect .null .null) :=
      keeps_connect .null .null (fun _ _ _ _ => rfl) fun _ _ => rfl
    exact ⟨(hkeeps.view_eq h).trans hhosts, .inr (hostname_of_connect hhosts h)⟩

/-- A connection to the first of two hosts, with a server that is lost twice when an entry is to be
deleted. -/
def lostTwice : Connection × World :=
  let lost : Failure := { kind := .connection, text := some serverDownMessage }
  ({ configuration := ⟨fun
      | .hosts => .list [.str "a", .str "b"]
      | name => name.default⟩
     transport := { Transport.direct 0 with link := .direct 0 true {}, isBound := true }
     hostname := .str "a" },
    { script := fun
      | .delete => [.fails lost, .fails lost]
      | _ => [] })

end Directory.Connection
