import Directory.Proofs.Connection.Run

/-!
# Hosts in use

The host that a connection uses is a text or none, if the configured hosts are texts: `UsesHosts` is
preserved by every operation of a connection. What is configured does not change, and hosts come
from there.
-/

namespace Directory.Connection

open Directory.Action

variable {α : Type} {start : Connection × World}

/-- The configured hosts are texts, and the host in use is one or none. -/
structure UsesHosts (names : List String) (connection : Connection) : Prop where
  hosts : connection.configuration.hosts = names.map .str
  hostname : IsHostname connection.hostname

variable {names : List String}

/-- What shows which hosts are configured and which one is in use. -/
def hostsInUse (connection : Connection) : List Value × Value :=
  (connection.configuration.hosts, connection.hostname)

theorem preserves_hosts {action : Action Connection α} (h : Keeps hostsInUse action) :
    Preserves (UsesHosts names) action := by
  intro start hstart
  obtain ⟨hhosts, hhostname⟩ := Prod.mk.inj (h start)
  exact ⟨hhosts.trans hstart.hosts, hhostname ▸ hstart.hostname⟩

theorem preserves_hosts_onTransport (action : Action Transport α) :
    Preserves (UsesHosts names) (onTransport action) :=
  preserves_hosts (keeps_onTransport action fun _ _ => rfl)

theorem isHostname_chosenHost {configuration : Configuration} {hostname chosen : Value}
    (hhosts : configuration.hosts = names.map .str) (h : IsHostname hostname)
    (hchosen : chosenHost configuration hostname = .ok chosen) : IsHostname chosen := by
  rcases h with rfl | ⟨name, rfl⟩
  · unfold chosenHost firstHost at hchosen
    rw [hhosts] at hchosen
    cases names with
    | nil => cases hchosen
    | cons name names =>
        cases hchosen
        exact .inr ⟨name, rfl⟩
  · cases hchosen
    exact .inr ⟨name, rfl⟩

theorem preserves_hosts_openHost {hostname : Value} (h : IsHostname hostname) :
    Preserves (UsesHosts names) (openHost hostname) := by
  have hopen {hostname : Value} (h : IsHostname hostname) (port : Value) :
      Preserves (UsesHosts names) (openReleased hostname port) := by
    have hconfigure : Keeps hostsInUse configure :=
      Keeps.bind Keeps.state fun _ => Keeps.bind (Keeps.lift _) fun _ =>
        keeps_onTransport _ fun _ _ => rfl
    exact Preserves.bind (preserves_hosts hconfigure) fun _ => Preserves.bind (Preserves.lift _)
      fun _ => Preserves.bind (preserves_hosts_onTransport _) fun _ =>
        Preserves.change fun _ huses => ⟨huses.hosts, h⟩
  have hclose : Meets (fun start => UsesHosts names start.1) (onTransport Transport.close)
      (fun _ ending => UsesHosts names ending.1) (fun _ ending => UsesHosts names ending.1) :=
    Meets.of_preserves (preserves_hosts_onTransport _)
  refine Meets.preserves (meets_openHost_of (hclose.restrict fun _ h => h.1)
    (fun _ huses _ => huses) (fun _ _ huses _ => huses) fun _ _ huses hchosen => ?_)
  exact Meets.of_preserves (hopen (isHostname_chosenHost huses.hosts h hchosen) _)

theorem preserves_hosts_disconnect : Preserves (UsesHosts names) disconnect :=
  upholds_disconnect_of
    ((Meets.of_preserves (preserves_hosts_onTransport _)).restrict fun _ h => h.1)
    fun _ huses => ⟨huses.hosts, .inl rfl⟩

theorem preserves_hosts_announce (happening : Happening) :
    Preserves (UsesHosts names) (announce happening) :=
  preserves_hosts (keeps_announce _ happening)

theorem preserves_hosts_connectTo {hostname : Value} (h : IsHostname hostname)
    (username password : Value) :
    Preserves (UsesHosts names) (connectTo hostname username password) :=
  upholds_connectTo_of (fun _ huses => ⟨huses.hosts, huses.hostname⟩) preserves_hosts_announce
    (preserves_hosts_openHost h) (preserves_hosts (keeps_bind username password fun _ _ _ => rfl))

theorem preserves_hosts_connect (username password : Value) :
    Preserves (UsesHosts names) (connect username password) :=
  upholds_connect_of
    (fun hostname => preserves_hosts (keeps_noteAttempt hostname fun _ _ => rfl))
    (fun _ huses _ hmem => preserves_hosts_connectTo (isHostname_of_mem (huses.hosts ▸ hmem))
      username password)
    preserves_hosts_disconnect preserves_hosts_announce

theorem preserves_hosts_auth : Preserves (UsesHosts names) auth :=
  upholds_auth_of (preserves_hosts_openHost (.inl rfl))

theorem usesHosts_after (operation : Action Transport α) (h : UsesHosts names start.1) (k : Nat) :
    UsesHosts names ((scheduleOf operation names start.1.hostname).after start k).1 := by
  let schedule := scheduleOf operation names start.1.hostname
  have hproper : schedule.IsProper := isProper_scheduleOf operation names h.hostname
  have hiteration (k : Nat) : Preserves (UsesHosts names) (schedule.iteration k) := by
    refine Preserves.bind ?_ fun _ => preserves_hosts_onTransport operation
    cases k with
    | zero => exact Preserves.pure ()
    | succ k =>
        exact Preserves.on Focus.isLawful_whole (Preserves.bind preserves_hosts_disconnect fun _ =>
          preserves_hosts_connectTo (hproper.isHostname_host k) .null .null)
  have hbefore : UsesHosts names (schedule.before start k).1 := by
    induction k with
    | zero => exact h
    | succ k ih =>
        have hnote : Keeps hostsInUse (schedule.noteLoss k) :=
          hproper.keeps_noteLoss hostsInUse (fun _ _ => rfl) k
        exact preserves_hosts hnote _ (hiteration k _ ih)
  exact hiteration k _ hbefore

theorem preserves_hosts_run (operation : Action Transport α) :
    Preserves (UsesHosts names) (run (onTransport operation)) := by
  have hopening : Preserves (UsesHosts names) (opening .whole) := by
    intro start huses
    rw [exec_opening_whole]
    split
    · exact huses
    · exact preserves_hosts_connect .null .null start huses
  rw [run_eq]
  refine Preserves.bind hopening fun _ => ?_
  intro start huses
  obtain ⟨last, -, hends⟩ :=
    (isProper_scheduleOf operation names huses.hostname).exists_isLast huses.hosts rfl hostsInUse
      fun _ _ => rfl
  have hlast := usesHosts_after operation huses last
  obtain ⟨hhosts, hhostname⟩ := Prod.mk.inj hends
  exact ⟨hhosts.trans hlast.hosts, hhostname ▸ hlast.hostname⟩

end Directory.Connection
