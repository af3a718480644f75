import SgiEmu.Runtime.Worker.Replay

open se_core se_core.storage se_core.time se_machine se_runtime.record

namespace se_runtime.runtime

variable {host : Host} {worker after : Worker host.toPlatform} {execution next last : Execution host}
  {session : ReplaySession} {runs : Nat} {faults : FileFaults}

namespace Station

variable {station reached : Station host} {around : Surroundings} {footer : RecordFooter}

/-! ## Commands during a Replay -/

/-- A turn on healthy storage that does not end the session. -/
def Event.Replays : Event host → Prop
  | .Command _ (.Configure _) => False
  | .Command around _ => around.storage = none
  | .Batch around => ∀ index, (around index).storage = none

theorem require_manual_reset_replay (hreplay : worker.mode.is_replay = true) :
    ∃ rejection, require_manual_reset worker = .error rejection := by
  unfold require_manual_reset
  split
  · exact ⟨_, rfl⟩
  · rw [if_pos hreplay]
    exact ⟨_, rfl⟩

theorem require_live_input_replay (hreplay : worker.mode.is_replay = true) :
    ∃ rejection, require_live_input worker = .error rejection := by
  unfold require_live_input
  split
  · exact ⟨_, rfl⟩
  · rw [if_pos hreplay]
    exact ⟨_, rfl⟩

/-- Neither inputs nor media reach the machine of a Replay. -/
theorem change_media_replay (hreplay : worker.mode.is_replay = true) (handle : RuntimeMediaHandle)
    (change : host.Machine → Except MachineMediaError Unit × host.Machine) :
    (change_media worker handle change).2 = worker := by
  unfold change_media
  split
  · rfl
  · case _ machine hrequired =>
    unfold require_media_change at hrequired
    split at hrequired
    · cases hrequired
    · split at hrequired
      · cases hrequired
      · split at hrequired
        · cases hrequired
        · split at hrequired
          · case _ hnormal =>
            rw [hnormal] at hreplay
            cases hreplay
          · cases hrequired

theorem check_record_failure_replay (hidle : worker.mode.is_recording = false) : worker.check_record_failure = worker := by
  unfold Worker.check_record_failure
  split
  · case _ hmode =>
    rw [hmode] at hidle
    cases hidle
  · rfl

/-- Of the commands only a step moves the execution of a Replay. -/
theorem handle_command_replay {command : Command host} {answer : Reply host} (hreplay : station.worker.mode.is_replay = true)
    (hstays : ∀ configuration, command ≠ .Configure configuration)
    (h : handle_command around station command = some (answer, reached)) :
    (∃ result, command = .Step ∧ step_once around station = some (result, reached)) ∨
      Unmoved station.worker reached.worker := by
  have hidle : station.worker.mode.is_recording = false := by
    cases hmode : station.worker.mode with
    | Recording =>
      rw [hmode] at hreplay
      cases hreplay
    | _ => rfl
  have hsame : ∀ {after : Worker host.toPlatform}, after = station.worker → Unmoved station.worker after := by
    rintro after rfl
    exact .refl _
  cases command with
  | NetworkFailure generation reason =>
    change (if _ then _ else _) = _ at h
    rw [hreplay, if_neg fun hlive => Bool.noConfusion hlive.2.2] at h
    cases h
    exact .inr (.refl _)
  | Configure configuration => exact absurd rfl (hstays configuration)
  | Run =>
    cases h
    refine .inr ?_
    change Unmoved station.worker (run station.worker).2
    unfold run
    split
    · exact .refl _
    · case _ hrunnable => exact ⟨rfl, rfl, rfl, rfl, rfl, rfl, fun _ => .inr hrunnable⟩
  | Reset =>
    obtain ⟨⟨result, left⟩, hreset, h⟩ := Option.map_eq_some_iff.mp h
    cases h
    obtain ⟨rejection, hrejected⟩ := require_manual_reset_replay hreplay
    unfold reset at hreset
    rw [hrejected] at hreset
    cases hreset
    exact .inr (hsame (check_record_failure_replay hidle))
  | Pause =>
    cases h
    refine .inr ?_
    change Unmoved station.worker (pause station.worker).2
    unfold pause
    split
    · exact .refl _
    · exact ⟨rfl, rfl, rfl, rfl, rfl, rfl, nofun⟩
  | Step =>
    obtain ⟨⟨result, left⟩, hstep, h⟩ := Option.map_eq_some_iff.mp h
    cases h
    exact .inl ⟨result, rfl, hstep⟩
  | StopRecording =>
    obtain ⟨⟨result, left⟩, hstopped, h⟩ := Option.map_eq_some_iff.mp h
    cases h
    obtain ⟨⟨answer, stopped⟩, hanswered, hleft⟩ := Option.map_eq_some_iff.mp hstopped
    cases hleft
    unfold Worker.stop_recording at hanswered
    split at hanswered
    · case _ hmode =>
      rw [hmode] at hidle
      cases hidle
    · cases hanswered
      exact .inr (hsame (check_record_failure_replay hidle))
  | CreateReplaySnapshot record =>
    obtain ⟨⟨result, left⟩, hcreated, h⟩ := Option.map_eq_some_iff.mp h
    cases h
    obtain ⟨snapshot, -, hcreated⟩ := Option.map_eq_some_iff.mp hcreated
    cases snapshot with
    | error rejection =>
      cases hcreated
      exact .inr (hsame rfl)
    | ok snapshot =>
      dsimp only at hcreated
      split at hcreated
      · cases hcreated
        exact .inr (hsame rfl)
      · cases hcreated
        exact .inr ⟨rfl, rfl, rfl, rfl, rfl, rfl, .inl⟩
  | Status =>
    cases h
    exact .inr (.refl _)
  | RefreshOutputs =>
    obtain ⟨delivered, hdelivered, h⟩ := Option.map_eq_some_iff.mp h
    cases h
    refine .inr (.of_same (.trans (.queue_current_outputs _) (.deliver_output hdelivered)) fun hrunning => ?_)
    obtain ⟨outputs, -, rfl⟩ := Worker.deliver_output_cases hdelivered
    obtain ⟨frontend_output, hqueued⟩ := Worker.queue_current_outputs_eq station.worker
    rw [hqueued] at hrunning
    exact hrunning
  | ToggleBreakpoint address =>
    cases h
    refine .inr ?_
    change Unmoved station.worker (toggle_breakpoint station.worker address).2
    unfold toggle_breakpoint
    split
    · exact .refl _
    · exact ⟨rfl, rfl, rfl, rfl, rfl, rfl, .inl⟩
  | MachineInput handle payload =>
    obtain ⟨⟨result, left⟩, hinput, h⟩ := Option.map_eq_some_iff.mp h
    cases h
    obtain ⟨rejection, hrejected⟩ := require_live_input_replay hreplay
    unfold machine_input at hinput
    rw [hrejected] at hinput
    cases hinput
    exact .inr (hsame (check_record_failure_replay hidle))
  | InsertMedia handle medium =>
    cases h
    exact .inr (hsame (change_media_replay hreplay _ _))
  | EjectMedia handle force =>
    cases h
    exact .inr (hsame (change_media_replay hreplay _ _))
  | SetOutputHandler =>
    cases h
    exact .inr ⟨rfl, rfl, rfl, rfl, rfl, rfl, .inl⟩
  | ClearOutputHandler =>
    cases h
    exact .inr ⟨rfl, rfl, rfl, rfl, rfl, rfl, .inl⟩
  | Shutdown =>
    obtain ⟨⟨state, left⟩, hshutdown, h⟩ := Option.map_eq_some_iff.mp h
    cases h
    obtain ⟨closed, hclosed, hshutdown⟩ := Option.bind_eq_some_iff.mp hshutdown
    cases hshutdown
    unfold close_recording at hclosed
    change (if station.worker.mode.is_recording = true then _ else _) = _ at hclosed
    rw [hidle, if_neg Bool.noConfusion] at hclosed
    cases hclosed
    exact .inr ⟨rfl, rfl, rfl, rfl, rfl, rfl, .inl⟩

theorem handle_command_on_the_way {command : Command host} {answer : Reply host}
    (hevent : Event.Replays (.Command around command)) (h : OnTheWay footer station)
    (hhandled : handle_command around station command = some (answer, reached)) : OnTheWay footer reached := by
  have hstays : ∀ configuration, command ≠ .Configure configuration := by
    rintro configuration rfl
    exact hevent
  obtain ⟨result, rfl, hstep⟩ | hsame := handle_command_replay (on_the_way_mode h).1 hstays hhandled
  · exact step_once_on_the_way hevent h hstep
  · obtain ⟨left, hreplays⟩ := on_the_way_unmoved h hsame
    exact ⟨left, hreplays⟩

theorem turn_on_the_way {event : Event host} (hevent : event.Replays) (h : OnTheWay footer station)
    (hturn : turn station event = some reached) : OnTheWay footer reached := by
  cases event with
  | Command around command =>
    obtain ⟨⟨answer, next⟩, hhandled, rfl⟩ := Option.map_eq_some_iff.mp hturn
    exact handle_command_on_the_way hevent h hhandled
  | Batch around =>
    change (if _ then _ else _) = _ at hturn
    split at hturn
    · case isTrue hrunning => exact execute_batch_on_the_way hevent h hrunning hturn
    · cases hturn
      exact h

/-- Whatever is asked of a Replay on its way, it never diverges. -/
theorem turns_on_the_way {events : List (Event host)} (hevents : ∀ event ∈ events, event.Replays) (h : OnTheWay footer station)
    (hturns : station.turns events = some reached) : OnTheWay footer reached := by
  induction events generalizing station with
  | nil =>
    cases hturns
    exact h
  | cons event events ih =>
    obtain ⟨middle, hturn, hturns⟩ := Option.bind_eq_some_iff.mp hturns
    obtain ⟨hfirst, hrest⟩ := List.forall_mem_cons.mp hevents
    exact ih hrest (turn_on_the_way hfirst h hturn) hturns

/-! ## The end of a Replay -/

/-- Once the output of an endpoint is taken, none of its outputs is left. -/
theorem taken_once {output : MachineOutput host.VideoOutput} {published : EndpointKey × EndpointOutput host.VideoOutput}
    (honce : (output.map Prod.fst).Nodup) (hpublished : published ∈ output) :
    ∀ other ∈ output.eraseP fun entry => entry.1 == published.1, other.1 ≠ published.1 := by
  obtain ⟨first, before, later, hbefore, hfirst, houtput, herased⟩ :=
    List.exists_of_eraseP (p := fun entry => entry.1 == published.1) hpublished (beq_self_eq_true _)
  rw [herased]
  intro other hother hsame
  obtain hother | hother := List.mem_append.mp hother
  · exact hbefore other hother (beq_iff_eq.mpr hsame)
  · rw [houtput, List.map_append, List.map_cons, List.nodup_append] at honce
    have hkey : other.1 = first.1 := hsame.trans (beq_iff_eq.mp hfirst).symm
    exact (List.nodup_cons.mp honce.2.1).1 (hkey ▸ List.mem_map_of_mem hother)

theorem get_cons_of_ne {descriptor : EndpointDescriptor} {catalog : EndpointCatalog} {key : EndpointKey}
    (h : key ≠ descriptor.key) : EndpointCatalog.get (descriptor :: catalog) key = EndpointCatalog.get catalog key :=
  List.find?_cons_of_neg fun hsame => h (beq_iff_eq.mp hsame).symm

/-- The outputs that the rest of a catalog collects fit it. -/
theorem deliverable_rest {descriptor : EndpointDescriptor} {catalog : EndpointCatalog}
    {output left : MachineOutput host.VideoOutput} (h : Deliverable (descriptor :: catalog) output)
    (hleft : left.Sublist output) (hother : ∀ published ∈ left, published.1 ≠ descriptor.key) : Deliverable catalog left := by
  refine ⟨h.once.sublist (hleft.map Prod.fst), fun published hmember => ?_⟩
  obtain ⟨found, hfound, hfits⟩ := h.fits published (hleft.subset hmember)
  rw [get_cons_of_ne (hother published hmember)] at hfound
  exact ⟨found, hfound, hfits⟩

/-- What collects the outputs of a catalog claims all of those that fit it. -/
theorem collect_outputs_deliverable {generation : U64} {catalog : EndpointCatalog} {output : MachineOutput host.VideoOutput}
    (h : Deliverable catalog output) :
    ∃ collected, @Worker.collect_outputs host.toPlatform generation catalog output = some (collected, []) := by
  induction catalog generalizing output with
  | nil =>
    cases output with
    | nil => exact ⟨[], rfl⟩
    | cons published output =>
      obtain ⟨descriptor, hdescriptor, -⟩ := h.fits published List.mem_cons_self
      cases hdescriptor
  | cons descriptor catalog ih =>
    unfold Worker.collect_outputs
    split
    · case _ hnone =>
      refine ih (deliverable_rest h (List.Sublist.refl output) fun published hmember hsame => ?_)
      exact List.find?_eq_none.mp hnone published hmember (beq_iff_eq.mpr hsame)
    · case _ key payload hfound =>
      have hmember := List.mem_of_find?_eq_some hfound
      have hclaimed := List.find?_some hfound
      have hkey : key = descriptor.key := beq_iff_eq.mp hclaimed
      obtain ⟨same, hsame, hkind, hdirection⟩ := h.fits (key, payload) hmember
      have hdescriptor : EndpointCatalog.get (descriptor :: catalog) key = some descriptor :=
        List.find?_cons_of_pos (beq_iff_eq.mpr hkey.symm)
      obtain rfl := Option.some.inj (hdescriptor.symm.trans hsame)
      have hleft := deliverable_rest h (List.eraseP_sublist (p := fun entry => entry.1 == descriptor.key)) (by
        rw [← hkey]
        exact taken_once h.once hmember)
      obtain ⟨collected, hcollected⟩ := ih hleft
      rw [if_pos ⟨hkind, hdirection⟩]
      split
      · rw [hcollected]
        exact ⟨_, rfl⟩
      · rw [hcollected]
        exact ⟨_, rfl⟩
      · exact ⟨collected, hcollected⟩

/-- What fits the machine is delivered. -/
theorem flush_machine_output_delivers {machine : host.Machine} (hmachine : worker.machine = some machine)
    (houtput : worker.HasDeliverable) :
    ∃ flushed, flush_machine_output worker = some flushed ∧ flushed.network_error = worker.network_error ∧
      flushed.frontend_output = [] := by
  have hdeliverable := houtput machine hmachine
  obtain ⟨drained, hdrained, hdrained_machine, herror, hleft⟩ : ∃ drained, drain_network_output worker = some drained ∧
      drained.machine = some machine ∧ drained.network_error = worker.network_error ∧
      Deliverable (host.endpoint_catalog machine) drained.frontend_output := by
    unfold drain_network_output
    split
    · exact ⟨worker, rfl, hmachine, rfl, hdeliverable⟩
    · rw [hmachine, Option.bind_eq_bind, Option.bind_some]
      rw [if_pos]
      · refine ⟨_, rfl, rfl, rfl, hdeliverable.once.sublist (List.filter_sublist.map Prod.fst), fun published hmember => ?_⟩
        exact hdeliverable.fits published (List.mem_of_mem_filter hmember)
      · refine List.all_eq_true.mpr fun published hmember => ?_
        obtain ⟨hmember, hethernet⟩ := List.mem_filter.mp hmember
        obtain ⟨descriptor, hdescriptor, hkind, hdirection⟩ := hdeliverable.fits published hmember
        unfold sends_frames
        rw [hdescriptor]
        unfold is_ethernet at hethernet
        split at hethernet
        · case _ frames hframes =>
          rw [hframes] at hkind
          dsimp only
          rw [hkind, hdirection]
          rfl
        · cases hethernet
  unfold flush_machine_output
  rw [hdrained, Option.bind_some]
  unfold Worker.deliver_output
  split
  · case isTrue hempty => exact ⟨drained, rfl, herror, List.isEmpty_iff.mp hempty⟩
  · obtain ⟨collected, hcollected⟩ := @collect_outputs_deliverable host drained.machine_generation _ _ hleft
    unfold Worker.deliver_output_entries
    simp only [hdrained_machine, hcollected, Option.bind_eq_bind, Option.bind_some, List.isEmpty_nil, if_true]
    split
    · exact ⟨_, rfl, herror, rfl⟩
    · exact ⟨_, rfl, herror, rfl⟩

/-- A Replay on its way that can be stepped. -/
structure Steps (footer : RecordFooter) (worker : Worker host.toPlatform) (left : Nat) : Prop where
  replays : Replays footer worker left
  network_error : worker.network_error = none
  rests : worker.state ≠ .Running
  output : worker.HasDeliverable

theorem replays_machine {left : Nat} (h : Replays footer worker left) : ∃ machine, worker.machine = some machine := by
  cases h with
  | replaying session runs hmode hfooter hleads =>
    obtain ⟨execution, last, hat, -, -⟩ := hleads.way
    obtain ⟨machine, hmachine, -⟩ := hat.machine
    exact ⟨machine, hmachine⟩
  | completed session machine hmode hconsumed hstate hposition hmachine => exact ⟨machine, hmachine⟩

/-- Nothing is left to execute only where the Replay is complete. -/
theorem replays_zero (h : Replays footer worker 0) :
    ∃ session machine, worker.mode = .ReplayCompleted session ∧ session.timeline_consumed = true ∧
      worker.position = footer.position ∧ worker.machine = some machine ∧
      host.machine_state_fingerprint machine = footer.final_fingerprint := by
  generalize hleft : 0 = left at h
  cases h with
  | replaying session runs hmode hfooter hleads hnext hfails =>
    unfold instructions_left at hleft
    split at hleft
    · case isTrue hbetween =>
      rw [hfails hleft.symm] at hbetween
      cases hbetween
    · cases hleft
  | completed session machine hmode hconsumed hstate hposition hmachine hfingerprint =>
    exact ⟨session, machine, hmode, hconsumed, hposition, hmachine, hfingerprint⟩

/-- After a flush nothing is left to deliver. -/
theorem flush_machine_output_steps {machine : host.Machine} (hmachine : worker.machine = some machine)
    (houtput : worker.HasDeliverable) :
    ∃ flushed, flush_machine_output worker = some flushed ∧ SameSession worker flushed ∧ flushed.state = worker.state ∧
      flushed.network_error = worker.network_error ∧ flushed.HasDeliverable := by
  obtain ⟨flushed, hflushed, hkept, hempty⟩ := flush_machine_output_delivers hmachine houtput
  refine ⟨flushed, hflushed, .flush_machine_output hflushed, flush_machine_output_state hflushed, hkept, ?_⟩
  intro same _
  rw [hempty]
  exact deliverable_nil _

theorem step_once_eq {result : Except String Unit} {executed finished : Station host} {flushed : Worker host.toPlatform}
    (hrunnable : station.worker.require_runnable = .ok ()) (hrests : station.worker.state ≠ .Running)
    (hexecute : execute_instruction around station = some (result, executed))
    (hflush : flush_machine_output executed.worker = some flushed)
    (hfinish : finish_step around (executed.with_worker flushed) result = some finished) :
    ∃ reached, step_once around station = some (.ok reached.worker.status, reached) ∧
      reached = finished.with_worker { finished.worker with state := .Paused, ignore_breakpoint_once := none }.advance_revision := by
  refine ⟨_, ?_, rfl⟩
  unfold step_once
  simp only [hrunnable, hexecute, hflush, hfinish, Option.bind_eq_bind, Option.bind_some, if_neg hrests]
  rfl

/-- Of a Replay that is not complete, the next instruction can be executed. -/
theorem steps_runnable {left : Nat} (h : Steps footer worker (left + 1)) :
    worker.require_runnable = .ok () ∧ ∃ session, worker.mode = .Replaying session := by
  obtain ⟨machine, hmachine⟩ := replays_machine h.replays
  have hmode : ∃ session, worker.mode = .Replaying session := by
    generalize hleft : left + 1 = more at h
    cases h.replays with
    | replaying session runs hmode => exact ⟨session, hmode⟩
    | completed => cases hleft
  refine ⟨?_, hmode⟩
  obtain ⟨session, hmode⟩ := hmode
  have hrequired : worker.require_machine = .ok () := by
    unfold Worker.require_machine
    rw [hmachine]
    rfl
  unfold Worker.require_runnable
  rw [hrequired, h.network_error, hmode]

/-- A step brings a Replay one instruction closer to the end of its Record. -/
theorem step_once_advances {left : Nat} (hpublishes : Publishes host) (hstorage : around.storage = none)
    (h : Steps footer station.worker (left + 1)) :
    ∃ reached, step_once around station = some (.ok reached.worker.status, reached) ∧ Steps footer reached.worker left := by
  obtain ⟨hrunnable, session, hmode⟩ := steps_runnable h
  obtain ⟨executed, further, hexecute, hleft, hreplays, hflows⟩ |
      ⟨error, executed, machine, hexecute, hleft, hfooter, hfailed, hflows⟩ :=
    execute_replay_instruction_replays hstorage h.replays hmode
  · obtain rfl := Nat.succ.inj hleft
    obtain ⟨machine, hmachine⟩ := replays_machine hreplays
    obtain ⟨flushed, hflushed, hsame, hstate, hkept, houtput⟩ :=
      flush_machine_output_steps hmachine (hflows.output hpublishes h.output)
    rw [← execute_instruction_replaying hmode] at hexecute
    obtain ⟨reached, hstep, rfl⟩ := step_once_eq hrunnable h.rests hexecute hflushed rfl
    refine ⟨_, hstep, replays_congr hreplays (hsame.trans ⟨rfl, rfl, rfl, rfl, rfl, rfl, rfl, rfl, rfl⟩) nofun,
      hkept.trans (hflows.network_error.trans h.network_error), nofun, houtput⟩
  · obtain rfl : left = 0 := Nat.succ.inj hleft
    obtain ⟨flushed, hflushed, hsame, hstate, hkept, houtput⟩ :=
      flush_machine_output_steps hfailed.machine (hflows.output hpublishes h.output)
    have hrecorded : FailsAsRecorded error (executed.with_worker flushed).worker session machine :=
      ⟨hsame.mode.trans hfailed.mode, hfailed.consumed, hsame.position.trans hfailed.position, hfailed.outcome,
        hfailed.fingerprint, hsame.machine.trans hfailed.machine⟩
    obtain ⟨finished, hfinished, hreplays, hmore⟩ := handle_execution_error_completes hstorage hrecorded
    rw [← execute_instruction_replaying hmode] at hexecute
    obtain ⟨reached, hstep, rfl⟩ := step_once_eq hrunnable h.rests hexecute hflushed hfinished
    subst hfooter
    refine ⟨_, hstep, replays_congr hreplays ⟨rfl, rfl, rfl, rfl, rfl, rfl, rfl, rfl, rfl⟩ nofun, ?_, nofun,
      hmore.output hpublishes houtput⟩
    exact hmore.network_error.trans (hkept.trans (hflows.network_error.trans h.network_error))

/-- As many steps as there are instructions to go complete a Replay. -/
theorem steps_complete (hpublishes : Publishes host) {arounds : List Surroundings}
    (hstorage : ∀ around ∈ arounds, around.storage = none) (h : Steps footer station.worker arounds.length) :
    ∃ reached, station.turns (arounds.map fun around => .Command around .Step) = some reached ∧
      Steps footer reached.worker 0 := by
  induction arounds generalizing station with
  | nil => exact ⟨station, rfl, h⟩
  | cons around arounds ih =>
    obtain ⟨hfirst, hrest⟩ := List.forall_mem_cons.mp hstorage
    obtain ⟨next, hstep, hnext⟩ := step_once_advances hpublishes hfirst h
    obtain ⟨reached, hturns, hreached⟩ := ih hrest hnext
    refine ⟨reached, ?_, hreached⟩
    rw [List.map_cons]
    unfold turns turn handle_command
    dsimp only
    rw [hstep]
    exact hturns

/-! ## The begin of a Replay -/

/-- The replayer of a Record that was read whole. -/
def opened (record : Replayer host.RecordManifest) : SnapshotReplayer host.toPlatform :=
  { toReplayer := record, initial_cursor := 0, restore_state := none }

/-- Nothing of a Replay's configuration is rejected, as long as its machine has a clock. -/
theorem prepare_opened {machine : host.Machine} {cpu_clock : CpuClock} {record : Replayer host.RecordManifest}
    (hclock : CpuClock.new (host.cpu_frequency_hz machine) = some cpu_clock) (hreplay : worker.mode.is_replay = false)
    (hidle : worker.mode.is_recording = false) :
    ∃ installation, worker.prepare faults ⟨machine, .Replaying (opened record)⟩ = some (.ok installation) ∧
      installation.network_config = none ∧ installation.machine = machine ∧ installation.cpu_clock = cpu_clock ∧
      installation.virtual_instant = 0 ∧ installation.position = .default ∧
      installation.mode = .Replaying { timeline := record.timeline, cursor := 0, footer := record.footer } := by
  unfold Worker.prepare Worker.next_session Worker.next_installation RuntimeConfiguration.validate_network
  rw [hidle, hreplay]
  simp only [Bool.false_eq_true, if_false, Bool.false_and, RuntimeConfiguration.is_replaying, Bool.not_true, Bool.and_false,
    SnapshotReplayer.into_session, opened, hclock, Option.map_some]
  exact ⟨_, rfl, rfl, rfl, rfl, rfl, rfl, rfl⟩

/-- A Replay of a Record from the machine that was recorded is on its way to its end. -/
theorem configure_steps {machine : host.Machine} {cpu_clock : CpuClock} {record : Replayer host.RecordManifest}
    {result : Except CommandRejection RuntimeStatus}
    (hclock : CpuClock.new (host.cpu_frequency_hz machine) = some cpu_clock) (hsame : Indistinguishable host machine machine)
    (hhistory : (Execution.timed host).History (.fresh machine cpu_clock) record.timeline runs last)
    (hends : last.Ends record.footer) (hreplay : worker.mode.is_replay = false) (hidle : worker.mode.is_recording = false)
    (h : worker.configure faults ⟨machine, .Replaying (opened record)⟩ = some (result, after)) :
    result = .ok after.status ∧ ∃ left, Steps record.footer after left := by
  obtain ⟨installation, hprepared, hnetwork, hmachine, hcpu, hinstant, hposition, hmode⟩ :=
    prepare_opened hclock hreplay hidle
  obtain ⟨-, rejection, -, hrejected⟩ | ⟨same, hprepare, hreplaced⟩ := configure_cases h
  · cases hprepared.symm.trans hrejected
  · cases hprepared.symm.trans hprepare
    obtain ⟨rejection, hrejection, hreplace⟩ | ⟨replaced, started, hresult, -, hstarted, hkept, hstate, herror, hempty⟩ :=
      hreplaced
    · unfold Worker.replace_network at hreplace
      rw [hnetwork] at hreplace
      cases hreplace
    · have hat : At (replaced.install installation) (.fresh machine cpu_clock) :=
        ⟨hposition, hinstant, congrArg some hcpu, machine, congrArg some hmachine, hsame⟩
      have hreplaying : (replaced.install installation).mode =
          .Replaying { timeline := record.timeline, cursor := 0, footer := record.footer } := hmode
      obtain ⟨bounded, hbounded, hflows, hreplays⟩ :=
        process_replay_boundary_leads hreplaying ⟨Nat.zero_le _, _, last, hat, hhistory, hends⟩
      unfold Worker.start_session at hstarted
      rw [hbounded] at hstarted
      cases hstarted
      refine ⟨hresult, _, replays_congr hreplays hkept fun hrunning => hstate.symm.trans hrunning,
        herror.trans hflows.network_error, fun hrunning => ?_, fun machine _ => ?_⟩
      · cases hflows.rests (hstate.symm.trans hrunning)
      · rw [hempty]
        exact deliverable_nil _

end Station

/-! ## Record and Replay -/

/-- A Replay is at the end of its Record, with every entry taken and the state that was recorded. -/
def Completes (footer : RecordFooter) (worker : Worker host.toPlatform) : Prop :=
  ∃ session machine, worker.mode = .ReplayCompleted session ∧ session.timeline_consumed = true ∧
    worker.position = footer.position ∧ worker.machine = some machine ∧
    host.machine_state_fingerprint machine = footer.final_fingerprint

namespace Station

/-- On its way a Replay goes on or is complete. -/
theorem replays_outcome (h : OnTheWay footer reached) :
    (∃ session, reached.worker.mode = .Replaying session) ∨ Completes footer reached.worker := by
  obtain ⟨left, hreplays⟩ := h
  cases hreplays with
  | replaying session _ hmode => exact .inl ⟨session, hmode⟩
  | completed session machine hmode hconsumed hstate hposition hmachine hfingerprint =>
    exact .inr ⟨session, machine, hmode, hconsumed, hposition, hmachine, hfingerprint⟩

/-- As many steps as are left complete a Replay. -/
theorem steps_outcome (hpublishes : Publishes host) {arounds : List Surroundings} {left : Nat} {disk : Option (List U8)}
    (hlength : arounds.length = left) (hstorage : ∀ around ∈ arounds, around.storage = none) (h : Steps footer after left) :
    ∃ reached, Station.turns ⟨after, disk⟩ (arounds.map fun around => .Command around .Step) = some reached ∧
      Completes footer reached.worker := by
  subst hlength
  have hbegun : Steps footer (Station.mk after disk).worker arounds.length := h
  obtain ⟨reached, hturns, hreached⟩ := steps_complete hpublishes hstorage hbegun
  exact ⟨reached, hturns, replays_zero hreached.replays⟩

end Station

open Station in
/-- A Recording that commits its file commits a Record, and a Replay of it by the machine that
was recorded never diverges and comes to its end. -/
theorem record_replays (hcodec : host.codec.Inverts) (hhost : Repeatable host) {machine : host.Machine}
    {manifest : host.RecordManifest} {config : host.NatConfig} {starting : FileFaults} {before recording : Worker host.toPlatform}
    {status : RuntimeStatus} {finished : Station host} {events : List (Event host)} {file : List U8}
    (hconfigure : before.configure faults ⟨machine, .Recording (started host.codec starting manifest) config⟩ =
      some (.ok status, recording))
    (hevents : ∀ event ∈ events, event.begins_recording = false)
    (hrun : Station.turns ⟨recording, none⟩ events = some finished) (hfile : finished.disk = some file) :
    ∃ record, parse_record host.codec file = .ok record ∧ record.manifest = manifest ∧
      ∀ (worker after : Worker host.toPlatform) (faults : FileFaults) (result : Except CommandRejection RuntimeStatus)
          (disk : Option (List U8)),
        worker.mode.is_replay = false → worker.mode.is_recording = false →
        worker.configure faults ⟨machine, .Replaying (opened record)⟩ = some (result, after) →
        result = .ok after.status ∧
          (∀ turns reached, (∀ event ∈ turns, Event.Replays event) → Station.turns ⟨after, disk⟩ turns = some reached →
            (∃ session, reached.worker.mode = .Replaying session) ∨ Completes record.footer reached.worker) ∧
          (Publishes host → ∃ steps, ∀ arounds : List Surroundings, arounds.length = steps →
            (∀ around ∈ arounds, around.storage = none) → ∃ reached,
              Station.turns ⟨after, disk⟩ (arounds.map fun around => .Command around .Step) = some reached ∧
                Completes record.footer reached.worker) := by
  obtain ⟨cpu_clock, hclock, htracks⟩ := configure_begins hhost hconfigure
  have hbegun : Records manifest (.fresh machine cpu_clock) (Station.mk recording none) := by
    refine ⟨fun file hfile => ?_, htracks⟩
    cases hfile
  have hrecords := turns_records hcodec hhost hevents hbegun hrun
  obtain ⟨timeline, footer, runs, last, hparsed, hhistory, hends⟩ := hrecords.disk file hfile
  refine ⟨⟨manifest, timeline, footer⟩, hparsed, rfl, fun worker after faults result disk hreplay hidle hreplaying => ?_⟩
  obtain ⟨hresult, left, hsteps⟩ := configure_steps hclock (hhost.refl machine) hhistory hends hreplay hidle hreplaying
  refine ⟨hresult, fun turns reached hturns hreached => ?_, fun hpublishes => ⟨left, fun arounds hlength hstorage => ?_⟩⟩
  · exact replays_outcome (turns_on_the_way hturns ⟨left, hsteps.replays⟩ hreached)
  · exact steps_outcome hpublishes hlength hstorage hsteps

theorem tally_host_publishes : Publishes tally_host where
  execute := fun _ _ => rfl
  advance := fun _ _ _ _ => rfl
  receive := fun _ _ => rfl
  reset := fun _ => rfl
  elapsed := fun _ _ _ _ => id
  current := fun _ _ => id

open Station in
/-- The counting machine is recorded for a session, and replayed. -/
theorem tally_committed :
    ∃ (idle recording replaying : Worker tally_host.toPlatform) (status : RuntimeStatus)
        (result : Except CommandRejection RuntimeStatus) (finished : Station tally_host) (file : List U8),
      Worker.new none = some idle ∧
        idle.configure Worker.no_faults
            ⟨(0 : Nat), .Recording (@started tally_host RecorderInner.serial_codec Worker.no_faults []) ()⟩ =
          some (.ok status, recording) ∧
        Station.turns ⟨recording, none⟩ (tally_session ++ [.Command calm .StopRecording]) = some finished ∧
        finished.disk = some file ∧ parse_record RecorderInner.serial_codec file = .ok tally_record ∧ idle.mode = .Normal ∧
        idle.configure Worker.no_faults ⟨(0 : Nat), .Replaying (@opened tally_host tally_record)⟩ = some (result, replaying) :=
  ⟨_, _, _, _, _, _, _, rfl, rfl, rfl, rfl, by decide +kernel, rfl, rfl⟩

open Station in
/-- Neither the session nor its end begins another Recording. -/
theorem tally_stopped_stays :
    ∀ event ∈ tally_session ++ [.Command calm .StopRecording], event.begins_recording = false := by
  intro event hevent
  obtain hevent | hlast := List.mem_append.mp hevent
  · exact tally_session_stays event hevent
  · rw [List.mem_singleton.mp hlast]
    rfl

open Station in
/-- The Record of the session is the bytes and the reset where they happened, and its Replay
comes to the end with what was counted. -/
theorem record_replays_tally :
    ∃ (file : List U8) (replaying : Worker tally_host.toPlatform) (steps : Nat) (reached : Station tally_host),
      parse_record RecorderInner.serial_codec file = .ok tally_record ∧
        Station.turns ⟨replaying, none⟩ ((List.replicate steps calm).map fun around => .Command around .Step) =
          some reached ∧
        Completes tally_footer reached.worker := by
  obtain ⟨idle, recording, replaying, status, result, finished, file, -, hconfigure, hrun, hfile, hrecord, hidle,
    hreplaying⟩ := tally_committed
  obtain ⟨record, hparsed, -, hreplays⟩ :=
    record_replays RecorderInner.serial_codec_inverts tally_host_repeatable hconfigure tally_stopped_stays hrun hfile
  cases hparsed.symm.trans hrecord
  obtain ⟨-, -, hcompletes⟩ :=
    hreplays idle replaying Worker.no_faults result none (congrArg ActiveMode.is_replay hidle)
      (congrArg ActiveMode.is_recording hidle) hreplaying
  obtain ⟨steps, hsteps⟩ := hcompletes tally_host_publishes
  obtain ⟨reached, hturns, hreached⟩ := hsteps (List.replicate steps calm) List.length_replicate fun around hmember => by
    rw [List.eq_of_mem_replicate hmember]
    rfl
  exact ⟨file, replaying, steps, reached, hrecord, hturns, hreached⟩

end se_runtime.runtime
