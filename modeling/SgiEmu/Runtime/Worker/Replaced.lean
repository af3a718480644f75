import SgiEmu.Runtime.Worker.Configure

open se_core se_machine se_runtime.record

namespace se_runtime.runtime

namespace Worker

variable {platform : Platform} {faults : FileFaults} {configuration : RuntimeConfiguration platform}
  {worker next before after other : Worker platform}

/-! ## The network -/

/-- The worker that a network failure while NAT starts leaves: its session is gone, and
the failure stays latched until the machine is reset or replaced. -/
def without_network (worker : Worker platform) (reason : String) : Worker platform :=
  { worker with
    network := none
    network_generation := worker.network_generation + 1
    network_error := some (worker.network_error.getD reason)
    state := worker.stopped
    revision := if worker.network_error.isSome then worker.revision else worker.revision + 1 }

theorem without_network_stops (worker : Worker platform) (reason : String) :
    (worker.without_network reason).require_runnable.isOk = false := by
  unfold require_runnable
  cases (worker.without_network reason).require_machine <;> rfl

theorem fail_network_eq (hmode : worker.mode.is_recording = false) (reason : String) :
    worker.fail_network faults reason =
      some
        { worker with
          network_error := some (worker.network_error.getD reason)
          state := if worker.network_error.isSome then worker.state else worker.stopped
          revision := if worker.network_error.isSome then worker.revision else worker.revision + 1 } := by
  unfold fail_network
  split
  · case isTrue hlatched =>
    obtain ⟨error, herror⟩ := Option.isSome_iff_exists.mp hlatched
    simp only [herror, Option.getD_some]
    rw [← herror]
  · case isFalse hnone =>
    have hfree := Option.not_isSome_iff_eq_none.mp hnone
    dsimp only
    rw [hmode, if_neg Bool.false_ne_true, hfree]
    rfl

/-- The session of a configuration: one started for it, or none where it asks for none. -/
def Started (config : Option platform.NatConfig) : Option platform.NetworkSession → Prop
  | some network => ∃ nat, config = some nat ∧ platform.start nat = .ok network
  | none => config = none

/-- What `replace_network` makes of the worker. -/
theorem replace_network_cases {config : Option platform.NatConfig} {result : Except CommandRejection Unit}
    (hmode : worker.mode.is_recording = false) (h : worker.replace_network faults config = some (result, after)) :
    (∃ nat error, config = some nat ∧ platform.start nat = .error error ∧
        result = .error (.General s!"NAT initialization failed: {error}") ∧
        after = worker.without_network s!"NAT initialization failed: {error}") ∨
      (∃ network, result = .ok () ∧ Started config network ∧
        after = { worker with state := worker.stopped, network_generation := worker.network_generation + 1, network }) := by
  unfold replace_network at h
  dsimp only at h
  cases config with
  | none =>
    cases h
    exact .inr ⟨none, rfl, rfl, rfl⟩
  | some nat =>
    dsimp only at h
    cases hstart : platform.start nat with
    | ok network =>
      rw [hstart] at h
      cases h
      exact .inr ⟨some network, rfl, ⟨nat, rfl, hstart⟩, rfl⟩
    | error error =>
      have hfailed := @fail_network_eq platform faults
        { worker with state := worker.stopped, network_generation := worker.network_generation + 1, network := none }
        hmode s!"NAT initialization failed: {error}"
      rw [hstart] at h
      dsimp only at h
      rw [hfailed] at h
      cases h
      refine .inl ⟨nat, error, rfl, hstart, rfl, ?_⟩
      have hstate : (if worker.network_error.isSome then worker.stopped else worker.stopped) = worker.stopped := ite_self _
      exact congrArg (fun state => { worker.without_network s!"NAT initialization failed: {error}" with state }) hstate

/-! ## The first boundary of a session -/

/-- What an installed worker keeps until its session runs, with the error its session ends with, if it does. -/
structure Begins (installed : Worker platform) (session_error : Option String) (worker : Worker platform) : Prop where
  network : worker.network = installed.network
  network_config : worker.network_config = installed.network_config
  network_generation : worker.network_generation = installed.network_generation
  network_error : worker.network_error = installed.network_error
  network_endpoint : worker.network_endpoint = installed.network_endpoint
  machine_generation : worker.machine_generation = installed.machine_generation
  output_handler : worker.output_handler = installed.output_handler
  pending_network_input : worker.pending_network_input = none
  last_error : worker.last_error = none
  breakpoints : worker.breakpoints = installed.breakpoints
  session_error : worker.session_error = session_error

variable {installed : Worker platform} {session : ReplaySession} {result : Except String Unit}

theorem Begins.reset_machine (h : Begins installed none worker) (hreset : worker.reset_machine = some after) :
    Begins installed none after := by
  unfold Worker.reset_machine at hreset
  obtain ⟨machine, -, hreset⟩ := Option.bind_eq_some_iff.mp hreset
  obtain ⟨clock, -, hreset⟩ := Option.bind_eq_some_iff.mp hreset
  cases hreset
  exact ⟨h.network, h.network_config, h.network_generation, h.network_error, h.network_endpoint, h.machine_generation,
    h.output_handler, rfl, rfl, h.breakpoints, h.session_error⟩

theorem Begins.with_machine (h : Begins installed none worker) (machine : Option platform.Machine) :
    Begins installed none { worker with machine } :=
  ⟨h.network, h.network_config, h.network_generation, h.network_error, h.network_endpoint, h.machine_generation,
    h.output_handler, h.pending_network_input, h.last_error, h.breakpoints, h.session_error⟩

theorem Begins.with_mode (h : Begins installed none worker) (mode : ActiveMode) :
    Begins installed none { worker with mode } :=
  ⟨h.network, h.network_config, h.network_generation, h.network_error, h.network_endpoint, h.machine_generation,
    h.output_handler, h.pending_network_input, h.last_error, h.breakpoints, h.session_error⟩

theorem Begins.with_position (h : Begins installed none worker) (position : ExecutionPosition) :
    Begins installed none { worker with position } :=
  ⟨h.network, h.network_config, h.network_generation, h.network_error, h.network_endpoint, h.machine_generation,
    h.output_handler, h.pending_network_input, h.last_error, h.breakpoints, h.session_error⟩

/-- One entry of the timeline. -/
theorem Begins.replay_action (h : Begins installed none worker) {action : TimelineAction}
    (haction : worker.replay_action action = some (result, after)) : Begins installed none after := by
  cases action with
  | MachineInput input =>
    obtain ⟨machine, -, hreceived⟩ := Option.map_eq_some_iff.mp haction
    have hkept := h.with_machine (some (platform.try_receive_input machine input).2)
    dsimp only at hreceived
    split at hreceived
    · cases hreceived
      exact hkept
    · cases hreceived
      exact hkept
    · cases hreceived
      exact hkept
  | Reset =>
    change (if _ then _ else _) = _ at haction
    split at haction
    · obtain ⟨reset, hreset, hafter⟩ := Option.map_eq_some_iff.mp haction
      cases hafter
      exact (h.reset_machine hreset).with_position _
    · cases haction
      exact h
  | Checkpoint digest =>
    obtain ⟨machine, -, hchecked⟩ := Option.map_eq_some_iff.mp haction
    split at hchecked
    · cases hchecked
      exact h
    · cases hchecked
      exact h

theorem Begins.replay_entries {entries : List TimelineEntry} (h : Begins installed none worker)
    (hentries : worker.replay_entries session entries = some (result, after)) : Begins installed none after := by
  induction entries generalizing session worker with
  | nil =>
    cases hentries
    exact h
  | cons entry entries ih =>
    unfold Worker.replay_entries at hentries
    split at hentries
    · cases hentries
      exact h
    · split at hentries
      · split at hentries
        · cases hentries
        · case _ reason stopped haction =>
          cases hentries
          exact (h.with_mode _).replay_action haction
        · case _ continued haction => exact ih ((h.with_mode _).replay_action haction) hentries
      · cases hentries
        exact h

theorem Begins.complete_replay (h : Begins installed none worker) : Begins installed none worker.complete_replay := by
  unfold Worker.complete_replay
  split
  · exact ⟨h.network, h.network_config, h.network_generation, h.network_error, h.network_endpoint, h.machine_generation,
      h.output_handler, h.pending_network_input, h.last_error, h.breakpoints, rfl⟩
  · exact h

theorem Begins.finish_replay_boundary (h : Begins installed none worker)
    (hfinish : worker.finish_replay_boundary session = some (result, after)) : Begins installed none after := by
  unfold Worker.finish_replay_boundary at hfinish
  split at hfinish
  · cases hfinish
    exact h
  · split at hfinish
    · cases hfinish
      exact h
    · split at hfinish
      · cases hfinish
        exact h
      · split at hfinish
        · cases hfinish
          exact h
        · obtain ⟨verified, -, hfinish⟩ := Option.map_eq_some_iff.mp hfinish
          cases verified with
          | error reason =>
            cases hfinish
            exact h
          | ok =>
            cases hfinish
            exact h.complete_replay

theorem Begins.process_replay_boundary (h : Begins installed none worker)
    (hboundary : worker.process_replay_boundary = some (result, after)) : Begins installed none after := by
  unfold Worker.process_replay_boundary at hboundary
  split at hboundary
  · split at hboundary
    · case _ replayed hentries =>
      have hreplayed := h.replay_entries hentries
      split at hboundary
      · exact hreplayed.finish_replay_boundary hboundary
      · cases hboundary
        exact hreplayed
    · exact h.replay_entries hboundary
  · cases hboundary
    exact h

theorem Begins.advance_revision {session_error : Option String} (h : Begins installed session_error worker) :
    Begins installed session_error worker.advance_revision :=
  ⟨h.network, h.network_config, h.network_generation, h.network_error, h.network_endpoint, h.machine_generation,
    h.output_handler, h.pending_network_input, h.last_error, h.breakpoints, h.session_error⟩

/-- The only error of a session that has not run is that it diverges at once. -/
theorem start_session_begins (h : Begins installed none worker) (hstart : worker.start_session = some after) :
    ∃ session_error, Begins installed session_error after ∧
      (session_error = none ∨ ∃ session reason, after.mode = .ReplayDiverged session reason ∧ session_error = some reason) := by
  obtain ⟨⟨result, replayed⟩, hboundary, hafter⟩ := Option.map_eq_some_iff.mp hstart
  have hreplayed := h.process_replay_boundary hboundary
  cases result with
  | ok =>
    cases hafter
    exact ⟨none, hreplayed, .inl rfl⟩
  | error reason =>
    change replayed.set_replay_divergence reason = after at hafter
    rw [← hafter]
    unfold set_replay_divergence
    split
    · case _ session hmode =>
      have hdiverged : Begins installed (some reason)
          { replayed with state := .Paused, session_error := some reason, mode := .ReplayDiverged session reason } :=
        ⟨hreplayed.network, hreplayed.network_config, hreplayed.network_generation, hreplayed.network_error,
          hreplayed.network_endpoint, hreplayed.machine_generation, hreplayed.output_handler,
          hreplayed.pending_network_input, hreplayed.last_error, hreplayed.breakpoints, rfl⟩
      exact ⟨some reason, hdiverged.advance_revision, .inr ⟨session, reason, rfl, rfl⟩⟩
    · exact ⟨none, hreplayed, .inl rfl⟩

/-! ## Output -/

theorem collect_outputs_generation {generation : U64} {catalog : EndpointCatalog}
    {entries left : MachineOutput platform.VideoOutput} {output : List (RuntimeOutput platform.VideoOutput)}
    (h : collect_outputs generation catalog entries = some (output, left)) :
    ∀ delivered ∈ output, delivered.generation = generation := by
  induction catalog generalizing entries output with
  | nil =>
    cases h
    exact fun _ hmember => (nomatch hmember)
  | cons descriptor catalog ih =>
    have hhead : ∀ {key payload entries},
        (collect_outputs generation catalog entries).map (fun rest => (⟨generation, key, payload⟩ :: rest.1, rest.2)) =
            some (output, left) →
          ∀ delivered ∈ output, delivered.generation = generation := by
      intro key payload entries hrest
      obtain ⟨⟨output, left⟩, hcollected, houtput⟩ := Option.map_eq_some_iff.mp hrest
      cases houtput
      intro delivered hmember
      cases hmember with
      | head => rfl
      | tail _ hmember => exact ih hcollected delivered hmember
    unfold collect_outputs at h
    split at h
    · exact ih h
    · dsimp only at h
      split at h
      · split at h
        · exact hhead h
        · exact hhead h
        · exact ih h
      · cases h

/-- Delivery empties the queue; a handler sees outputs of the installed machine alone. -/
theorem deliver_output_cases (h : worker.deliver_output = some after) :
    ∃ outputs : List (List (RuntimeOutput platform.VideoOutput)),
      (∀ output ∈ outputs, ∀ delivered ∈ output, delivered.generation = worker.machine_generation) ∧
        after = { worker with
          frontend_output := []
          output_handler := worker.output_handler.map fun given => given ++ outputs } := by
  have hnothing : worker.output_handler.map (fun given => given ++ []) = worker.output_handler := by
    simp only [List.append_nil, Option.map_id_fun', id]
  unfold deliver_output at h
  split at h
  · case isTrue hempty =>
    cases h
    refine ⟨[], nofun, ?_⟩
    rw [hnothing, ← List.isEmpty_iff.mp hempty]
  · obtain ⟨machine, -, h⟩ := Option.bind_eq_some_iff.mp h
    obtain ⟨⟨output, left⟩, hcollected, h⟩ := Option.bind_eq_some_iff.mp h
    dsimp only at h
    split at h
    · split at h
      · cases h
        refine ⟨[], nofun, ?_⟩
        rw [hnothing]
      · cases h
        refine ⟨[output], ?_, rfl⟩
        intro listed hmember
        cases List.mem_singleton.mp hmember
        exact collect_outputs_generation hcollected
    · cases h

/-! ## Replacing the machine -/

/-- What one configuration hands over to the next: whether a session is open, the state that is retained, and counts. -/
structure HandsOver (before other : Worker platform) : Prop where
  recording : other.mode.is_recording = before.mode.is_recording
  replay : other.mode.is_replay = before.mode.is_replay
  retained_state : other.retained_state = before.retained_state
  completed_instructions : other.completed_instructions = before.completed_instructions
  network_generation : other.network_generation = before.network_generation
  machine_generation : other.machine_generation = before.machine_generation
  revision : other.revision = before.revision
  output_handler : other.output_handler = before.output_handler

/-- The worker after its machine was replaced. -/
structure Replaced (faults : FileFaults) (configuration : RuntimeConfiguration platform) (before after : Worker platform) :
    Prop where
  machine_generation : after.machine_generation = before.machine_generation + 1
  network : Started configuration.next_network after.network
  network_config : after.network_config = configuration.next_network
  network_endpoint : after.network_endpoint = configuration.ethernet_endpoints.head?
  network_error : after.network_error = none
  late_failure : ∀ reason, after.network_failure faults before.network_generation reason = some after
  pending_network_input : after.pending_network_input = none
  frontend_output : after.frontend_output = []
  delivered : ∃ outputs : List (List (RuntimeOutput platform.VideoOutput)),
    (∀ output ∈ outputs, ∀ delivered ∈ output, delivered.generation = after.machine_generation) ∧
      after.output_handler = before.output_handler.map fun given => given ++ outputs
  last_error : after.last_error = none
  session_error : after.session_error = none ∨
    ∃ session reason, after.mode = .ReplayDiverged session reason ∧ after.session_error = some reason
  breakpoints : after.breakpoints = []
  independent : ∀ other, HandsOver before other → other.configure faults configuration = some (.ok after.status, after)

theorem next_installation_network {clock : CpuClock} {next : NextSession platform} {installation : Installation platform}
    (h : worker.next_installation configuration clock next = .ok installation) :
    installation.network_config = configuration.next_network ∧
      installation.network_endpoint = configuration.ethernet_endpoints.head? := by
  unfold next_installation at h
  dsimp only at h
  split at h
  · cases h
    exact ⟨rfl, rfl⟩
  · split at h
    · cases h
    · split at h
      · cases h
      · split at h
        · cases h
        · cases h
          exact ⟨rfl, rfl⟩

theorem prepare_ok {installation : Installation platform} (h : worker.prepare faults configuration = some (.ok installation)) :
    worker.mode.is_recording = false ∧ installation.network_config = configuration.next_network ∧
      installation.network_endpoint = configuration.ethernet_endpoints.head? := by
  unfold prepare at h
  split at h
  · cases h
  · case isFalse hmode =>
    refine ⟨Bool.eq_false_iff.mpr hmode, ?_⟩
    split at h
    · cases h
    · split at h
      · cases h
      · split at h
        · cases h
        · split at h
          · cases h
          · obtain ⟨clock, -, hinstallation⟩ := Option.map_eq_some_iff.mp h
            exact next_installation_network hinstallation

theorem prepare_congr (h : HandsOver before other) :
    other.prepare faults configuration = before.prepare faults configuration := by
  unfold prepare next_session next_installation
  simp only [h.recording, h.replay, h.retained_state, h.completed_instructions]

/-- Everything of the worker that an installation replaces is gone after it. -/
theorem install_congr (h : HandsOver before other) (installation : Installation platform) (state : RuntimeState)
    (network : Option platform.NetworkSession) :
    install
        { other with state := other.stopped, network_generation := other.network_generation + 1, network } installation =
      install { before with state, network_generation := before.network_generation + 1, network } installation := by
  unfold install
  rw [h.network_generation, h.machine_generation, h.revision, h.output_handler]

/-- A worker whose machine was installed, up to its reply. -/
def settle (worker : Worker platform) (installation : Installation platform) :
    Option (Except CommandRejection RuntimeStatus × Worker platform) :=
  if worker.machine_generation.toNat + 1 < 2 ^ 64 then do
    let worker ← (worker.install installation).start_session
    let worker ← worker.advance_revision.queue_current_outputs.deliver_output
    some (.ok worker.status, worker)
  else none

theorem configure_prepared {installation : Installation platform}
    (h : worker.prepare faults configuration = some (.ok installation)) :
    worker.configure faults configuration =
      match worker.replace_network faults installation.network_config with
      | none => none
      | some (.error rejection, worker) => some (.error rejection, worker)
      | some (.ok (), worker) => worker.settle installation := by
  unfold configure
  rw [h]
  rfl

theorem replace_network_started {config : Option platform.NatConfig} {network : Option platform.NetworkSession}
    (h : Started config network) (worker : Worker platform) :
    worker.replace_network faults config =
      some (.ok (), { worker with
        state := worker.stopped, network_generation := worker.network_generation + 1, network }) := by
  unfold replace_network
  cases network with
  | none =>
    rw [show config = none from h]
  | some network =>
    obtain ⟨nat, hconfig, hstart⟩ := h
    rw [hconfig]
    dsimp only
    rw [hstart]

theorem queue_current_outputs_eq (worker : Worker platform) :
    ∃ frontend_output, worker.queue_current_outputs = { worker with frontend_output } := by
  unfold queue_current_outputs
  split
  · exact ⟨_, rfl⟩
  · exact ⟨worker.frontend_output, rfl⟩

theorem settle_replaced {installation : Installation platform} {network : Option platform.NetworkSession}
    {result : Except CommandRejection RuntimeStatus} (hprepare : before.prepare faults configuration = some (.ok installation))
    (hnetwork : Started configuration.next_network network)
    (h : settle { before with
        state := before.stopped, network_generation := before.network_generation + 1, network } installation =
      some (result, after)) :
    result = .ok after.status ∧ Replaced faults configuration before after := by
  obtain ⟨-, hconfig, hendpoint⟩ := prepare_ok hprepare
  have hindependent : ∀ other, HandsOver before other →
      other.configure faults configuration = some (result, after) := by
    intro other hother
    rw [configure_prepared ((prepare_congr hother).trans hprepare), replace_network_started (hconfig.symm ▸ hnetwork)]
    dsimp only
    rw [← h]
    unfold settle
    rw [install_congr hother installation before.stopped network, hother.machine_generation]
  unfold settle at h
  split at h
  · obtain ⟨started, hstart, h⟩ := Option.bind_eq_some_iff.mp h
    obtain ⟨delivered, hdeliver, h⟩ := Option.bind_eq_some_iff.mp h
    cases h
    obtain ⟨session_error, hbegins, herror⟩ :=
      start_session_begins ⟨rfl, rfl, rfl, rfl, rfl, rfl, rfl, rfl, rfl, rfl, rfl⟩ hstart
    obtain ⟨queued, hqueued⟩ := queue_current_outputs_eq started.advance_revision
    rw [hqueued] at hdeliver
    obtain ⟨outputs, hgeneration, hdelivered⟩ := deliver_output_cases hdeliver
    have hstale : before.network_generation ≠ before.network_generation + 1 := by
      intro hsame
      have hcount := congrArg BitVec.toNat hsame
      rw [BitVec.toNat_add] at hcount
      have hone : (1 : U64).toNat = 1 := rfl
      omega
    have hsession : started.session_error = none ∨
        ∃ session reason, started.mode = .ReplayDiverged session reason ∧ started.session_error = some reason := by
      rw [hbegins.session_error]
      exact herror
    subst hdelivered
    refine ⟨rfl, ?_⟩
    exact
      { machine_generation := hbegins.machine_generation
        network := hbegins.network.symm ▸ hnetwork
        network_config := hbegins.network_config.trans hconfig
        network_endpoint := hbegins.network_endpoint.trans hendpoint
        network_error := hbegins.network_error
        late_failure := fun reason => if_neg fun hcurrent => hstale (hcurrent.1.trans hbegins.network_generation)
        pending_network_input := hbegins.pending_network_input
        frontend_output := rfl
        delivered := ⟨outputs, hgeneration, congrArg (Option.map fun given => given ++ outputs) hbegins.output_handler⟩
        last_error := hbegins.last_error
        session_error := hsession
        breakpoints := hbegins.breakpoints
        independent := hindependent }
  · cases h

/-- A rejected configuration leaves the worker as it was, unless NAT does not start: the
old session has ended by then, and the worker is stopped by the failure. -/
theorem configure_settles {result : Except CommandRejection RuntimeStatus}
    (h : before.configure faults configuration = some (result, after)) :
    match result with
    | .error rejection =>
      after = before ∨
        ∃ nat error, configuration.next_network = some nat ∧ platform.start nat = .error error ∧
          rejection = .General s!"NAT initialization failed: {error}" ∧
          after = before.without_network s!"NAT initialization failed: {error}" ∧ after.require_runnable.isOk = false
    | .ok status => status = after.status ∧ Replaced faults configuration before after := by
  cases hprepare : before.prepare faults configuration with
  | none =>
    unfold configure at h
    rw [hprepare] at h
    cases h
  | some prepared =>
    cases prepared with
    | error rejection =>
      unfold configure at h
      rw [hprepare] at h
      cases h
      exact .inl rfl
    | ok installation =>
      obtain ⟨hmode, hconfig, -⟩ := prepare_ok hprepare
      rw [configure_prepared hprepare, hconfig] at h
      cases hreplace : before.replace_network faults configuration.next_network with
      | none =>
        rw [hreplace] at h
        cases h
      | some replaced =>
        obtain ⟨outcome, replaced⟩ := replaced
        rw [hreplace] at h
        obtain ⟨nat, error, hnat, hstart, rfl, rfl⟩ | ⟨network, rfl, hnetwork, rfl⟩ := replace_network_cases hmode hreplace
        · cases h
          exact .inr ⟨nat, error, hnat, hstart, rfl, rfl, without_network_stops before _⟩
        · obtain ⟨rfl, hreplaced⟩ := settle_replaced hprepare hnetwork h
          exact ⟨rfl, hreplaced⟩

/-- A host that keeps the ports below 1024 to itself. -/
def privileged_host : Platform :=
  { Machine := Unit
    MachineSnapshot := Unit
    MachineNonvolatileState := Unit
    VideoOutput := Unit
    NatConfig := Nat
    NetworkSession := Nat
    RecordManifest := Unit
    codec := { crc32 := fun _ => 0, encode := fun _ => .error "", decode := fun _ => .error "" }
    endpoint_catalog := fun _ => [⟨"ethernet.0", .Ethernet, .Bidirectional⟩]
    cpu_frequency_hz := fun _ => 33000000
    nonvolatile_state := fun _ => ()
    restore_nonvolatile_state := fun machine _ _ => machine
    restore_snapshot := fun machine _ => (.ok (), machine)
    machine_state_fingerprint := fun _ => []
    try_receive_input := fun machine _ => (.ok .Consumed, machine)
    reset := fun machine => machine
    publish_current_outputs := fun _ output => output
    validate := fun _ => .ok ()
    start := fun port => if port < 1024 then .error "permission denied" else .ok port }

/-- A paused machine with a session of its own. -/
def attached_worker : Worker privileged_host :=
  { network := some (8080 : Nat)
    network_config := some (8080 : Nat)
    network_generation := 1
    network_error := none
    network_endpoint := some "ethernet.0"
    pending_network_input := none
    machine := some ()
    cpu_clock := CpuClock.new 33000000
    virtual_instant := 0
    frontend_output := []
    output_handler := none
    machine_generation := 1
    state := .Paused
    mode := .Normal
    position := .default
    preserved_nonvolatile_state := none
    revision := 1
    completed_instructions := 0
    last_error := none
    session_error := none
    breakpoints := [0x1000]
    ignore_breakpoint_once := none }

def no_faults : FileFaults := { header := none, payload := none, flush := none, sync_all := none, commit := none }

/-- A configuration whose NAT does not start ends the session of the machine it leaves. -/
theorem rejection_ends_network :
    attached_worker.require_runnable = .ok () ∧ attached_worker.network = some (8080 : Nat) ∧
      ∃ after, attached_worker.configure no_faults ⟨(), .Normal (80 : Nat)⟩ =
          some (.error (.General "NAT initialization failed: permission denied"), after) ∧
        after.network = none ∧
        after.require_runnable = .error (.General "NAT initialization failed: permission denied") :=
  ⟨rfl, rfl, attached_worker.without_network "NAT initialization failed: permission denied", rfl, rfl, rfl⟩

theorem configure_settles_attached_worker :
    ∃ after, attached_worker.configure no_faults ⟨(), .Normal (8081 : Nat)⟩ = some (.ok after.status, after) ∧
      Replaced no_faults ⟨(), .Normal (8081 : Nat)⟩ attached_worker after := by
  obtain ⟨status, after, hinstalled⟩ : ∃ status after,
      attached_worker.configure no_faults ⟨(), .Normal (8081 : Nat)⟩ = some (.ok status, after) := ⟨_, _, rfl⟩
  obtain ⟨rfl, hreplaced⟩ := configure_settles hinstalled
  exact ⟨after, hinstalled, hreplaced⟩

end Worker

end se_runtime.runtime
