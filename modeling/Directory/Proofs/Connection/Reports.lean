import Directory.Proofs.Connection.Run
import Directory.Proofs.Transport.Reports

/-!
# Operations that lose their server

What a transport reports when an operation loses its server makes a run try again. So no iteration
of a run in which that happens is the last one, unless no retry is left.
-/

namespace Directory.Connection

open Directory.Action Transport

variable {names : List String} {first : Value} {opened reached : Connection × World}

/-- An iteration in which the operation loses its server is lost. -/
theorem isLost_outcome_of_losesServer {operation : Operation} {k : Nat}
    (hreach : exec ((scheduleOf operation.perform names first).reach k)
      ((scheduleOf operation.perform names first).before opened k) = (.ok (), reached))
    (hloses : operation.LosesServer (reached.1.transport, reached.2)) :
    IsLost ((scheduleOf operation.perform names first).outcome opened k) := by
  obtain ⟨failure, hfails, htells, -⟩ := hloses.tells
  refine ⟨failure, ?_, ?_, htells.recognised⟩
  · unfold Schedule.outcome Schedule.iteration
    rw [exec_bind, hreach]
    exact hfails
  · show failure.kind.isDirectory = true
    rw [htells.kind]
    rfl

/-- A run in which the connection could be opened goes through iterations, and none in which the
operation loses its server is the last one unless no retry is left. -/
theorem run_retries_losses (operation : Operation) {initial : Connection × World}
    (hnames : names ≠ []) (hhosts : initial.1.configuration.hosts = names.map .str)
    (hhostname : IsHostname initial.1.hostname)
    (hopening : exec (opening .whole) initial = (.ok (), opened)) :
    let schedule := scheduleOf operation.perform names opened.1.hostname
    ∃ last ≤ names.length,
      schedule.Ends opened last (exec (run (onTransport operation.perform)) initial) ∧
      ∀ reached, exec (schedule.reach last) (schedule.before opened last) = (.ok (), reached) →
        operation.LosesServer (reached.1.transport, reached.2) → last = names.length := by
  intro schedule
  obtain ⟨hopened, hused⟩ := hosts_of_opening hhosts hhostname hopening
  have hproper : schedule.IsProper := isProper_scheduleOf operation.perform names hused
  have hlength : schedule.hosts.length = names.length := List.length_map _
  have hne : schedule.hosts ≠ [] := by simpa [schedule, scheduleOf] using hnames
  rw [run_eq, exec_bind, hopening]
  obtain ⟨last, hends⟩ := hproper.runOpened_ends hopened rfl hne
  refine ⟨last, hlength ▸ hends.le, hends, fun reached hreach hloses => ?_⟩
  rw [← hlength]
  exact hends.last_eq (isLost_outcome_of_losesServer hreach hloses)

/-- However a transport over a wire client was used: no failure of the client leaves an operation on
it or its closing. An operation that finds no handle, or loses the server, tells so in words that
are recognised and leaves the transport unbound, and a run of it tries again as long as a retry is
left. Any other failure of the client is reported by its own text. A closing that only the client
may fail closes the transport. -/
theorem operation_fails_over (operation : Operation) (uses : List Use) (world : World) :
    let start := Use.performAll uses (Transport.wire, world)
    let ended := exec operation.perform start
    let closed := exec Transport.close start
    (FailsBy Failure.IsLocal ended.1 ∧ FailsBy Failure.IsLocal closed.1) ∧
    (operation.IsLegible → start.1.isConnected = false → operation.LosesServer start) ∧
    (operation.LosesServer start → ∃ failure, ended.1 = .error failure ∧ failure.TellsLoss ∧
      ended.2.1.isBound = false) ∧
    (∀ names initial opened, names ≠ [] → initial.1.configuration.hosts = names.map Value.str →
      IsHostname initial.1.hostname → exec (opening .whole) initial = (.ok (), opened) →
        let schedule := scheduleOf operation.perform names opened.1.hostname
        ∃ last ≤ names.length,
          schedule.Ends opened last (exec (run (onTransport operation.perform)) initial) ∧
          ∀ reached, exec (schedule.reach last) (schedule.before opened last) = (.ok (), reached) →
            operation.LosesServer (reached.1.transport, reached.2) → last = names.length) ∧
    (∀ failure detail, operation.FailsWith start failure →
      failure.isA (.wire .general) = true → failure.isA (.wire .communication) = false →
        start.1.detail = .ok detail → ended.1 = .error
          { kind := .directory, text := some failure.report, detail, cause := some failure }) ∧
    (FailsBy (fun failure => failure.isA (.wire .general) = true)
        (start.2.answerTo .unbind).result →
      (∃ wasClosed, closed.1 = .ok (.bool wasClosed)) ∧ closed.2.1.IsDropped) := by
  intro start ended closed
  have hstart : start.1.IsConsistent := isConsistent_performAll uses isConsistent_wire
  obtain ⟨hlocal, hcloses⟩ := exec_close_of_isConsistent hstart
  refine ⟨⟨failsByLocal_perform operation hstart.wire, hlocal⟩, ?_, ?_, ?_, ?_, hcloses⟩
  · intro hlegible hconnected
    exact ⟨hstart.wire, .inl ⟨hconnected, operation.exists_request hlegible hstart.readable⟩⟩
  · intro hloses
    obtain ⟨failure, hfails, htells, hunbound⟩ := hloses.tells
    exact ⟨failure, hfails, htells, hunbound hstart.connected⟩
  · intro names initial opened hnames hhosts hhostname hopening
    exact run_retries_losses operation hnames hhosts hhostname hopening
  · intro failure detail hfails hgeneral hlost hdetail
    exact exec_perform_of_failsWith hstart.wire hfails hgeneral hlost hdetail

/-- A connection over a wire client that loses its server when something is searched for. -/
def connectedByWire : Connection × World :=
  ({ configuration := ⟨fun
      | .hosts => .list [.str "a"]
      | name => name.default⟩
     transport := { link := .wire (some {}), host := .str "ldap://a:389", isBound := true }
     hostname := .str "a" }, losingSearches)

theorem losesServer_searching {start : Transport × World} (hwire : start.1.isDirect = false)
    (hconnected : start.1.isConnected = true)
    (hnext : start.2.next (.wire .search) = losingSearches.next (.wire .search)) :
    searching.LosesServer start := by
  let request : WireRequest :=
    .search .subtree (.str "") (.str "(cn=a)") (.str "*") (.int 0) [] none
  have hcall : (exec (approach request) start).1 = (start.2.next (.wire .search)).result :=
    congrArg Prod.fst (exec_ask request start)
  rw [hnext] at hcall
  exact ⟨hwire, .inr ⟨_, ⟨request, rfl, hconnected, hcall⟩, rfl⟩⟩

theorem losesServer_of_user :
    searching.LosesServer (Use.performAll bindingUser (Transport.wire, losingSearches)) := by
  refine losesServer_searching ?_ ?_ ?_
  · exact (isConsistent_performAll bindingUser isConsistent_wire).wire
  · decide +kernel
  · with_unfolding_all rfl

/-- A search in which the server is lost tells so, and is run again on a connection. -/
theorem lost_search_is_run_again :
    let start := Use.performAll bindingUser (Transport.wire, losingSearches)
    let ended := exec searching.perform start
    let schedule := scheduleOf searching.perform ["a"] (.str "a")
    let rerun := exec (run (onTransport searching.perform)) connectedByWire
    (∃ failure, ended.1 = .error failure ∧ failure.TellsLoss ∧ ended.2.1.isBound = false) ∧
      rerun.1.isOk = true ∧ ∃ last ≤ 1, last ≠ 0 ∧ schedule.Ends connectedByWire last rerun := by
  intro start ended schedule rerun
  obtain ⟨-, -, htells, hretries, -⟩ := operation_fails_over searching bindingUser losingSearches
  refine ⟨htells losesServer_of_user, by decide +kernel, ?_⟩
  obtain ⟨last, hle, hends, hlast⟩ := hretries ["a"] connectedByWire connectedByWire
    (List.cons_ne_nil _ _) rfl (.inr ⟨"a", rfl⟩) rfl
  refine ⟨last, hle, ?_, hends⟩
  rintro rfl
  cases hlast connectedByWire rfl (losesServer_searching rfl rfl rfl)

end Directory.Connection
