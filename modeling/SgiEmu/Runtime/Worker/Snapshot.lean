import SgiEmu.Runtime.Worker.Cursor

open se_core se_core.storage se_core.time se_machine se_runtime.record

namespace se_runtime.runtime

variable {host : Host} {worker after : Worker host.toPlatform} {session : ReplaySession} {machine warm : host.Machine}
  {clock : CpuClock} {identity : RecordIdentity} {record : Replayer host.RecordManifest} {faults : FileFaults}
  {snapshot : ReplaySnapshot (Station.SnapshotState host)} {result : Except CommandRejection RuntimeStatus}

/-! ## Snapshots that were taken -/

/-- The snapshot is one of the place at which the worker stands. -/
structure Taken (identity : RecordIdentity) (snapshot : ReplaySnapshot (Station.SnapshotState host))
    (worker : Worker host.toPlatform) (session : ReplaySession) (machine : host.Machine) (clock : CpuClock) : Prop where
  mode : worker.mode = .Replaying session
  configured : worker.machine = some machine
  cpu_clock : worker.cpu_clock = some clock
  stored : host.snapshot machine = .ok snapshot.state.machine
  record : snapshot.record = identity
  position : snapshot.position = worker.position
  cursor : snapshot.timeline_cursor = session.cursor
  checkpoint : snapshot.last_verified_checkpoint = Station.last_checkpoint session.timeline session.cursor
  fingerprint : snapshot.machine_fingerprint = host.machine_state_fingerprint machine
  completed_instructions : snapshot.state.completed_instructions = worker.completed_instructions
  virtual_instant : snapshot.state.virtual_instant = worker.virtual_instant
  remainder : snapshot.state.cpu_clock_remainder = clock.accumulated_remainder

theorem replay_snapshot_taken (h : Station.replay_snapshot identity worker = some (.ok snapshot)) :
    ∃ session machine clock, Taken identity snapshot worker session machine clock := by
  unfold Station.replay_snapshot at h
  split at h
  · cases h
  · split at h
    · case _ session hmode =>
      split at h
      · cases h
      · case _ machine hmachine =>
        split at h
        · cases h
        · case _ stored hstored =>
          obtain ⟨clock, hclock, h⟩ := Option.map_eq_some_iff.mp h
          cases h
          exact ⟨session, machine, clock, hmode, hmachine, hclock, hstored, rfl, rfl, rfl, rfl, rfl, rfl, rfl, rfl⟩
    · cases h

/-- The place of a Replay is one that its Record can be opened at. -/
theorem taken_installs (h : Taken identity snapshot worker session machine clock)
    (hstands : session.StandsAt worker.position) (htimeline : record.timeline = session.timeline)
    (hfooter : record.footer = session.footer) :
    install_snapshot identity record snapshot = .ok (restored record snapshot) := by
  have hbefore : ¬record.footer.position < snapshot.position := by
    rw [hfooter, h.position]
    exact fun hlt => absurd (ExecutionPosition.lt_iff_rank_lt.mp hlt) (Nat.not_lt.mpr hstands.within)
  have hcursor : ¬record.timeline.length < snapshot.timeline_cursor := by
    rw [htimeline, h.cursor]
    exact Nat.not_lt.mpr hstands.cursor
  have htaken : (record.timeline.take snapshot.timeline_cursor).getLast?.any
      (fun entry => decide (snapshot.position < entry.position)) = false := by
    rw [htimeline, h.cursor, h.position, Option.any_eq_false]
    intro entry hlast
    rw [decide_eq_false_iff_not]
    exact fun hlt => absurd (ExecutionPosition.lt_iff_rank_lt.mp hlt)
      (Nat.not_lt.mpr (hstands.taken entry (List.mem_of_getLast? hlast)))
  have hahead : (record.timeline.drop snapshot.timeline_cursor).head?.any
      (fun entry => !decide (snapshot.position < entry.position)) = false := by
    rw [htimeline, h.cursor, h.position, Option.any_eq_false]
    intro entry hhead
    rw [Bool.not_eq_false', decide_eq_true_eq]
    exact ExecutionPosition.lt_iff_rank_lt.mpr (hstands.ahead entry (List.mem_of_head? hhead))
  have hcheckpoint : snapshot.last_verified_checkpoint = Station.last_checkpoint record.timeline snapshot.timeline_cursor := by
    rw [htimeline, h.cursor]
    exact h.checkpoint
  unfold install_snapshot validate_replay_snapshot
  rw [if_neg (not_not.mpr h.record), decide_eq_false hcursor, decide_eq_false hbefore, htaken, hahead,
    if_neg (not_not.mpr hcheckpoint)]
  rfl

/-! ## Replays that are resumed -/

/-- Where a Replay stands, no entry is due and its Record does not end. -/
theorem process_replay_boundary_stays (hmode : worker.mode = .Replaying session) (hordered : session.Ordered)
    (hstands : session.StandsAt worker.position) : worker.process_replay_boundary = some (.ok (), worker) := by
  have hentries : worker.replay_entries session (session.timeline.drop session.cursor) = some (.ok (), worker) := by
    cases hleft : session.timeline.drop session.cursor with
    | nil => rfl
    | cons entry entries =>
      have hahead := hstands.ahead entry (hleft ▸ List.mem_cons_self)
      unfold Worker.replay_entries
      rw [if_neg, if_neg]
      · intro hsame
        rw [hsame] at hahead
        exact absurd hahead (Nat.lt_irrefl _)
      · exact fun hlt => absurd (ExecutionPosition.lt_iff_rank_lt.mp hlt) (Nat.not_lt.mpr (Nat.le_of_lt hahead))
  have hfinish : worker.finish_replay_boundary session = some (.ok (), worker) := by
    unfold Worker.finish_replay_boundary
    rw [if_neg fun hlt => absurd (ExecutionPosition.lt_iff_rank_lt.mp hlt) (Nat.not_lt.mpr hstands.within)]
    split
    · rfl
    · case isFalse hend =>
      have hat : worker.position = session.footer.position := not_not.mp hend
      have hnone : session.timeline.drop session.cursor = [] := by
        refine List.eq_nil_iff_forall_not_mem.mpr fun entry hentry => ?_
        have hahead := hstands.ahead entry hentry
        rw [hat] at hahead
        exact absurd ((ordered_ranks hordered).2 entry (List.mem_of_mem_drop hentry)) (Nat.not_le.mpr hahead)
      have hconsumed : session.timeline_consumed = true :=
        beq_iff_eq.mpr (Nat.le_antisymm hstands.cursor (List.drop_eq_nil_iff.mp hnone))
      have hfails := hstands.goes_on hat
      rw [hconsumed, if_neg Bool.noConfusion]
      split
      · rfl
      · case _ hother =>
        generalize session.footer.outcome = outcome at hfails hother
        cases outcome with
        | ExecutionError address error => exact absurd rfl (hother address error)
        | _ => cases hfails
  unfold Worker.process_replay_boundary
  rw [hmode]
  dsimp only
  rw [hentries]
  dsimp only
  rw [hmode]
  exact hfinish

/-- A worker at the place of another, with a machine that was restored. -/
structure Resumes (worker after : Worker host.toPlatform) (warm : host.Machine) : Prop where
  mode : after.mode = worker.mode
  position : after.position = worker.position
  virtual_instant : after.virtual_instant = worker.virtual_instant
  completed_instructions : after.completed_instructions = worker.completed_instructions
  cpu_clock : after.cpu_clock = worker.cpu_clock
  machine : after.machine = some warm
  state : after.state = .Paused
  network_error : after.network_error = none
  frontend_output : after.frontend_output = []

/-- The cold machine takes up the snapshot, with the clock that it was taken at. -/
structure Restores (cold warm machine : host.Machine) (clock : CpuClock)
    (snapshot : ReplaySnapshot (Station.SnapshotState host)) : Prop where
  frequency : host.cpu_frequency_hz cold = clock.frequency_hz
  restored : host.restore_snapshot cold snapshot.state.machine = (.ok (), warm)
  fingerprint : host.machine_state_fingerprint warm = host.machine_state_fingerprint machine

/-- A Replay opened at a snapshot goes on from where the snapshot was taken. -/
theorem restored_resumes {idle : Worker host.toPlatform} {cold : host.Machine}
    (h : Taken identity snapshot worker session machine clock) (hplaced : Placed worker)
    (htimeline : record.timeline = session.timeline) (hfooter : record.footer = session.footer)
    (hreplay : idle.mode.is_replay = false) (hidle : idle.mode.is_recording = false)
    (hrestores : Restores cold warm machine clock snapshot)
    (hconfigure : idle.configure faults ⟨cold, .Replaying (restored record snapshot)⟩ = some (result, after)) :
    result = .ok after.status ∧ Resumes worker after warm := by
  obtain ⟨hordered, hstands, same, frequency_hz, hpositive, hclock, hcounts⟩ := hplaced session h.mode
  obtain rfl := Option.some.inj (h.cpu_clock.symm.trans hclock)
  have hnew : CpuClock.new (host.cpu_frequency_hz cold) = some clock.reset := by
    rw [hrestores.frequency, hcounts.frequency]
    exact CpuClock.new_reset hcounts
  have hremainder : clock.reset.restore_remainder snapshot.state.cpu_clock_remainder = .ok clock := by
    rw [h.remainder]
    exact CpuClock.restore_remainder_resumes (hcounts.at_remainder hpositive) hcounts
  have hfingerprint : ¬host.machine_state_fingerprint warm ≠ snapshot.machine_fingerprint := by
    rw [h.fingerprint]
    exact not_not.mpr hrestores.fingerprint
  obtain ⟨installation, hprepared, hnetwork, hmachine, hcpu, hinstant, hposition, hcompleted, hmode⟩ : ∃ installation,
      idle.prepare faults ⟨cold, .Replaying (restored record snapshot)⟩ = some (.ok installation) ∧
        installation.network_config = none ∧ installation.machine = warm ∧ installation.cpu_clock = clock ∧
        installation.virtual_instant = snapshot.state.virtual_instant ∧ installation.position = snapshot.position ∧
        installation.completed_instructions = snapshot.state.completed_instructions ∧
        installation.mode = .Replaying
          { timeline := record.timeline, cursor := snapshot.timeline_cursor, footer := record.footer } := by
    unfold Worker.prepare Worker.next_session Worker.next_installation RuntimeConfiguration.validate_network
    rw [hidle, hreplay]
    simp only [Bool.false_eq_true, if_false, Bool.false_and, RuntimeConfiguration.is_replaying, Bool.not_true,
      Bool.and_false, SnapshotReplayer.into_session, restored, hnew, Option.map_some, hremainder, hrestores.restored,
      if_neg hfingerprint]
    exact ⟨_, rfl, rfl, rfl, rfl, rfl, rfl, rfl, rfl⟩
  obtain ⟨-, rejection, -, hrejected⟩ | ⟨other, hprepare, hreplaced⟩ := Station.configure_cases hconfigure
  · cases hprepared.symm.trans hrejected
  · cases hprepared.symm.trans hprepare
    obtain ⟨rejection, -, hreplace⟩ | ⟨replaced, started, hresult, -, hstarted, hkept, hstate, herror, hempty⟩ := hreplaced
    · unfold Worker.replace_network at hreplace
      rw [hnetwork] at hreplace
      cases hreplace
    · have hsession : (replaced.install installation).mode = .Replaying session := by
        change installation.mode = _
        rw [hmode, htimeline, hfooter, h.cursor]
      have hhere : (replaced.install installation).position = worker.position := hposition.trans h.position
      have hboundary : (replaced.install installation).process_replay_boundary =
          some (.ok (), replaced.install installation) := by
        refine process_replay_boundary_stays hsession hordered ?_
        rw [hhere]
        exact hstands
      unfold Worker.start_session at hstarted
      rw [hboundary] at hstarted
      cases hstarted
      refine ⟨hresult, ?_⟩
      exact
        { mode := (hkept.mode.trans hsession).trans h.mode.symm
          position := hkept.position.trans hhere
          virtual_instant := (hkept.virtual_instant.trans hinstant).trans h.virtual_instant
          completed_instructions := (hkept.completed_instructions.trans hcompleted).trans h.completed_instructions
          cpu_clock := (hkept.cpu_clock.trans (congrArg some hcpu)).trans h.cpu_clock.symm
          machine := hkept.machine.trans (congrArg some hmachine)
          state := hstate
          network_error := herror
          frontend_output := hempty }

open Station in
/-- A snapshot taken in any run can be opened with its Record, and a Replay opened there is where
the other was when the snapshot was taken, as soon as the machine can be restored. -/
theorem snapshot_restores {station next : Station host} {events : List (Event host)}
    (hbegin : station.worker.mode.is_replay = false) (hopens : ∀ event ∈ events, Event.Opens event)
    (hturns : station.turns events = some next) (hsnapshot : replay_snapshot identity next.worker = some (.ok snapshot)) :
    ∃ session machine clock, Taken identity snapshot next.worker session machine clock ∧
      ∀ record : Replayer host.RecordManifest, record.timeline = session.timeline → record.footer = session.footer →
        install_snapshot identity record snapshot = .ok (restored record snapshot) ∧
          ∀ (idle after : Worker host.toPlatform) (cold warm : host.Machine) (faults : FileFaults)
              (result : Except CommandRejection RuntimeStatus),
            idle.mode.is_replay = false → idle.mode.is_recording = false →
            Restores cold warm machine clock snapshot →
            idle.configure faults ⟨cold, .Replaying (restored record snapshot)⟩ = some (result, after) →
            result = .ok after.status ∧ Resumes next.worker after warm := by
  have hplaced := turns_placed hopens (placed_outside hbegin) hturns
  obtain ⟨session, machine, clock, htaken⟩ := replay_snapshot_taken hsnapshot
  obtain ⟨-, hstands, -⟩ := hplaced session htaken.mode
  refine ⟨session, machine, clock, htaken, fun record htimeline hfooter => ⟨?_, ?_⟩⟩
  · exact taken_installs htaken hstands htimeline hfooter
  · intro idle after cold warm faults result hreplay hidle hrestores hconfigure
    exact restored_resumes htaken hplaced htimeline hfooter hreplay hidle hrestores hconfigure

open Station in
/-- A snapshot of the counting machine behind the reset, taken with a remainder of the clock
and opened by a cold machine. -/
theorem tally_snapshot :
    ∃ (idle replaying after : Worker tally_host.toPlatform) (file : List U8) (next : Station tally_host)
        (session : ReplaySession) (snapshot : ReplaySnapshot (SnapshotState tally_host))
        (begun result : Except CommandRejection RuntimeStatus),
      idle.mode = .Normal ∧ parse_record RecorderInner.serial_codec file = .ok tally_record ∧
        idle.configure Worker.no_faults ⟨(0 : Nat), .Replaying (@opened tally_host tally_record)⟩ =
          some (begun, replaying) ∧
        Station.turns ⟨replaying, none⟩ tally_steps = some next ∧
        Station.turns ⟨idle, none⟩
          (.Command calm (.Configure ⟨(0 : Nat), .Replaying (@opened tally_host tally_record)⟩) :: tally_steps) = some next ∧
        next.worker.mode = .Replaying session ∧ session.timeline = tally_record.timeline ∧
        session.footer = tally_record.footer ∧ next.worker.cpu_clock.map CpuClock.frequency_hz = some 33000000 ∧
        replay_snapshot ⟨0, []⟩ next.worker = some (.ok snapshot) ∧
        snapshot.position = { epoch := 1, completed_instructions := 1 } ∧ 0 < snapshot.state.cpu_clock_remainder ∧
        idle.configure Worker.no_faults ⟨(7 : Nat), .Replaying (@restored tally_host tally_record snapshot)⟩ =
          some (result, after) := by
  obtain ⟨idle, recording, replaying, status, result, finished, file, hnew, -, -, -, hrecord, hidle, -⟩ := tally_committed
  cases hnew
  exact ⟨_, _, _, file, Station.mk _ _, _, _, _, _, hidle, hrecord, rfl, rfl, rfl, rfl, rfl, rfl, rfl, rfl, rfl, by decide, rfl⟩

/-- A cold counting machine can take up any snapshot of its kind. -/
theorem tally_restores {snapshot : ReplaySnapshot (Station.SnapshotState tally_host)} {worker : Worker tally_host.toPlatform}
    {machine : Nat} (h : @Taken tally_host identity snapshot worker session machine clock)
    (hclock : worker.cpu_clock.map CpuClock.frequency_hz = some 33000000) :
    @Restores tally_host (7 : Nat) machine machine clock snapshot := by
  have hsame : machine = snapshot.state.machine := Except.ok.inj h.stored
  refine ⟨?_, congrArg (Prod.mk _) hsame.symm, rfl⟩
  rw [h.cpu_clock] at hclock
  exact (Option.some.inj hclock).symm

/-- A snapshot taken with a remainder of the clock, and the Replay that goes on from it. -/
theorem snapshot_restores_tally :
    ∃ (next : Station tally_host) (after : Worker tally_host.toPlatform)
        (snapshot : ReplaySnapshot (Station.SnapshotState tally_host)) (machine : Nat),
      Station.replay_snapshot ⟨0, []⟩ next.worker = some (.ok snapshot) ∧
        snapshot.position = { epoch := 1, completed_instructions := 1 } ∧ 0 < snapshot.state.cpu_clock_remainder ∧
        install_snapshot ⟨0, []⟩ tally_record snapshot = .ok (restored tally_record snapshot) ∧
        Resumes next.worker after machine := by
  obtain ⟨idle, -, after, file, next, session, snapshot, -, result, hidle, hparsed, -, -, hturns, hmode, htimeline, hfooter,
    hclock, hsnapshot, hposition, hremainder, hconfigure⟩ := tally_snapshot
  have hreplay := congrArg ActiveMode.is_replay hidle
  obtain ⟨same, machine, clock, htaken, hrestores⟩ :=
    snapshot_restores hreplay (tally_opens hparsed) hturns hsnapshot
  obtain rfl := ActiveMode.Replaying.inj (hmode.symm.trans htaken.mode)
  obtain ⟨hinstalls, hresumes⟩ := hrestores tally_record htimeline.symm hfooter.symm
  obtain ⟨-, hresumed⟩ := hresumes idle after (7 : Nat) machine Worker.no_faults result hreplay
    (congrArg ActiveMode.is_recording hidle) (tally_restores htaken hclock) hconfigure
  exact ⟨next, after, snapshot, machine, hsnapshot, hposition, hremainder, hinstalls, hresumed⟩

/-! ## Snapshots of what was recorded -/

namespace Station

variable {station next : Station host} {footer : RecordFooter} {left : Nat}

/-- A session proceeds until another one is configured. -/
theorem turn_proceeds {event : Event host} (hevent : event.Replays) (h : turn station event = some next) :
    Proceeds station.worker.mode next.worker.mode := by
  cases event with
  | Command around command =>
    obtain ⟨⟨answer, reached⟩, hhandled, rfl⟩ := Option.map_eq_some_iff.mp h
    cases command with
    | Configure configuration => cases hevent
    | ToggleBreakpoint address =>
      cases hhandled
      change Proceeds _ (toggle_breakpoint station.worker address).2.mode
      unfold toggle_breakpoint
      split
      · exact .same _
      · exact .same _
    | _ => exact (handle_command_onward rfl hhandled).mode
  | Batch around => exact (turn_onward rfl h).mode

theorem turns_proceed {events : List (Event host)} (hevents : ∀ event ∈ events, event.Replays)
    (h : station.turns events = some next) : Proceeds station.worker.mode next.worker.mode := by
  induction events generalizing station with
  | nil =>
    cases h
    exact .same _
  | cons event events ih =>
    obtain ⟨middle, hturn, hturns⟩ := Option.bind_eq_some_iff.mp h
    obtain ⟨hfirst, hrest⟩ := List.forall_mem_cons.mp hevents
    exact (turn_proceeds hfirst hturn).trans (ih hrest hturns)

/-- A Replay proceeds from the session of its replayer. -/
theorem configure_proceeds {replayer : SnapshotReplayer host.toPlatform} {status : RuntimeStatus}
    (h : worker.configure faults ⟨machine, .Replaying replayer⟩ = some (.ok status, after)) :
    Proceeds (.Replaying replayer.into_session.1) after.mode := by
  obtain ⟨-, rejection, hresult, -⟩ | ⟨installation, hprepare, hreplaced⟩ := configure_cases h
  · cases hresult
  · obtain ⟨rejection, hresult, -⟩ | ⟨replaced, started, -, -, hstarted, hsame, -⟩ := hreplaced
    · cases hresult
    · obtain ⟨-, -, next, cpu_clock, hnext, -, hinstallation⟩ := prepare_cases hprepare
      cases hnext
      have hmode : (replaced.install installation).mode = .Replaying replayer.into_session.1 :=
        (next_installation_cases hinstallation).1
      have hproceeds := (start_session_onward hstarted).mode
      rw [hmode] at hproceeds
      rw [hsame.mode]
      exact hproceeds

theorem event_opens {event : Event host} (h : event.Replays) : event.Opens := by
  cases event with
  | Command around command =>
    cases command with
    | Configure configuration => cases h
    | _ => trivial
  | Batch around => trivial

/-- A Replay that is resumed by a machine like its own has the same way to go. -/
theorem resumes_steps (h : Replays footer worker left) (hmode : worker.mode = .Replaying session)
    (hmachine : worker.machine = some machine) (hresumes : Resumes worker after warm)
    (halike : Indistinguishable host warm machine) : Steps footer after left := by
  have hreplays : Replays footer after left := by
    cases h with
    | replaying same runs hsame hfooter hleads hnext hfails =>
      obtain ⟨execution, last, hat, hhistory, hends⟩ := hleads.way
      obtain ⟨other, hother, hmore⟩ := hat.machine
      obtain rfl := Option.some.inj (hmachine.symm.trans hother)
      refine .replaying same runs (hresumes.mode.trans hsame) hfooter ⟨hleads.cursor, execution, last, ?_, hhistory, hends⟩ ?_
        hfails
      · exact ⟨hresumes.position.trans hat.position, hresumes.virtual_instant.trans hat.virtual_instant,
          hresumes.cpu_clock.trans hat.cpu_clock, warm, hresumes.machine, halike.trans hmore⟩
      · rw [hresumes.position]
        exact hnext
    | completed same machine hsame => cases hmode.symm.trans hsame
  refine ⟨hreplays, hresumes.network_error, fun hrunning => ?_, fun machine _ => ?_⟩
  · cases hresumes.state.symm.trans hrunning
  · rw [hresumes.frontend_output]
    exact deliverable_nil _

end Station

open Station in
/-- In a Replay of a committed Recording, whatever is asked of it, every snapshot can be opened,
and a Replay opened there by a machine like the one of the snapshot never diverges and comes
to the end of the Record. -/
theorem snapshot_replays (hcodec : host.codec.Inverts) (hhost : Repeatable host) {machine : host.Machine}
    {manifest : host.RecordManifest} {config : host.NatConfig} {starting : FileFaults} {before recording : Worker host.toPlatform}
    {status : RuntimeStatus} {finished : Station host} {events : List (Event host)} {file : List U8}
    (hconfigure : before.configure faults ⟨machine, .Recording (started host.codec starting manifest) config⟩ =
      some (.ok status, recording))
    (hevents : ∀ event ∈ events, event.begins_recording = false)
    (hrun : Station.turns ⟨recording, none⟩ events = some finished) (hfile : finished.disk = some file) :
    ∃ record, parse_record host.codec file = .ok record ∧
      ∀ (first replaying : Worker host.toPlatform) (result : Except CommandRejection RuntimeStatus)
          (turns : List (Event host)) (disk : Option (List U8)) (reached : Station host) (identity : RecordIdentity)
          (snapshot : ReplaySnapshot (SnapshotState host)),
        first.mode.is_replay = false → first.mode.is_recording = false →
        first.configure faults ⟨machine, .Replaying (opened record)⟩ = some (result, replaying) →
        (∀ event ∈ turns, Event.Replays event) → Station.turns ⟨replaying, disk⟩ turns = some reached →
        replay_snapshot identity reached.worker = some (.ok snapshot) →
        install_snapshot identity record snapshot = .ok (restored record snapshot) ∧
          ∃ session taken clock, Taken identity snapshot reached.worker session taken clock ∧
            ∀ (idle after : Worker host.toPlatform) (cold warm : host.Machine) (again : FileFaults)
                (answer : Except CommandRejection RuntimeStatus) (file : Option (List U8)),
              idle.mode.is_replay = false → idle.mode.is_recording = false →
              Restores cold warm taken clock snapshot → Indistinguishable host warm taken →
              idle.configure again ⟨cold, .Replaying (restored record snapshot)⟩ = some (answer, after) →
              answer = .ok after.status ∧
                (∀ more ended, (∀ event ∈ more, Event.Replays event) → Station.turns ⟨after, file⟩ more = some ended →
                  (∃ session, ended.worker.mode = .Replaying session) ∨ Completes record.footer ended.worker) ∧
                (Publishes host → ∃ steps, ∀ arounds : List Surroundings, arounds.length = steps →
                  (∀ around ∈ arounds, around.storage = none) → ∃ ended,
                    Station.turns ⟨after, file⟩ (arounds.map fun around => .Command around .Step) = some ended ∧
                      Completes record.footer ended.worker) := by
  obtain ⟨cpu_clock, hclock, htracks⟩ := configure_begins hhost hconfigure
  have hbegun : Records manifest (.fresh machine cpu_clock) (Station.mk recording none) := by
    refine ⟨fun file hfile => ?_, htracks⟩
    cases hfile
  have hrecords := turns_records hcodec hhost hevents hbegun hrun
  obtain ⟨timeline, footer, runs, last, hparsed, hhistory, hends⟩ := hrecords.disk file hfile
  refine ⟨⟨manifest, timeline, footer⟩, hparsed, ?_⟩
  intro first replaying result turns disk reached identity snapshot hreplay hidle hfirst hturns hreached hsnapshot
  obtain ⟨rfl, left, hsteps⟩ := configure_steps hclock (hhost.refl machine) hhistory hends hreplay hidle hfirst
  have hopens : OpensReplay ⟨machine, .Replaying (opened ⟨manifest, timeline, footer⟩)⟩ := by
    intro replayer hsame
    cases hsame
    exact .record hparsed
  have hplaced := turns_placed (fun event hevent => event_opens (hturns event hevent))
    (configure_placed hopens (placed_outside hreplay) hfirst) hreached
  obtain ⟨session, taken, clock, htaken⟩ := replay_snapshot_taken hsnapshot
  have hproceeds := (configure_proceeds hfirst).trans (turns_proceed hturns hreached)
  have hsession : timeline = session.timeline ∧ footer = session.footer := by
    rw [htaken.mode] at hproceeds
    cases hproceeds with
    | same => exact ⟨rfl, rfl⟩
    | replayed => exact ⟨rfl, rfl⟩
  obtain ⟨-, hstands, -⟩ := hplaced session htaken.mode
  refine ⟨taken_installs htaken hstands hsession.1 hsession.2, session, taken, clock, htaken, ?_⟩
  intro idle after cold warm again answer file hreplay hidle hrestores halike hagain
  obtain ⟨hanswer, hresumes⟩ :=
    restored_resumes htaken hplaced hsession.1 hsession.2 hreplay hidle hrestores hagain
  obtain ⟨further, hreplays⟩ := turns_on_the_way hturns ⟨left, hsteps.replays⟩ hreached
  have hgoes := resumes_steps hreplays htaken.mode htaken.configured hresumes halike
  refine ⟨hanswer, fun more ended hmore hended => ?_, fun hpublishes => ⟨further, fun arounds hlength hstorage => ?_⟩⟩
  · exact replays_outcome (turns_on_the_way hmore ⟨further, hgoes.replays⟩ hended)
  · exact steps_outcome hpublishes hlength hstorage hgoes

open Station in
/-- From the snapshot behind the reset the rest of the session is replayed to its end. -/
theorem snapshot_replays_tally :
    ∃ (snapshot : ReplaySnapshot (SnapshotState tally_host)) (result : Except CommandRejection RuntimeStatus)
        (idle after : Worker tally_host.toPlatform) (steps : Nat) (ended : Station tally_host),
      snapshot.position = { epoch := 1, completed_instructions := 1 } ∧
        idle.configure Worker.no_faults ⟨(7 : Nat), .Replaying (@restored tally_host tally_record snapshot)⟩ =
          some (result, after) ∧
        Station.turns ⟨after, none⟩ ((List.replicate steps calm).map fun around => .Command around .Step) = some ended ∧
        Completes tally_footer ended.worker := by
  obtain ⟨first, recording, -, status, -, finished, file, -, hconfigure, hrun, hfile, hrecord, -⟩ := tally_committed
  obtain ⟨idle, replaying, after, -, next, -, snapshot, begun, result, hnormal, -, hreplaying, hsteps, -, -, -, -, hclock,
    hsnapshot, hposition, -, hagain⟩ := tally_snapshot
  have hreplay := congrArg ActiveMode.is_replay hnormal
  have hidle := congrArg ActiveMode.is_recording hnormal
  obtain ⟨record, hparsed, hreplays⟩ :=
    snapshot_replays RecorderInner.serial_codec_inverts tally_host_repeatable hconfigure tally_stopped_stays hrun hfile
  cases hparsed.symm.trans hrecord
  have hstepped : ∀ event ∈ tally_steps, event.Replays := by
    intro event hevent
    rw [List.eq_of_mem_replicate hevent]
    trivial
  obtain ⟨-, session, machine, clock, htaken, hresumes⟩ :=
    hreplays idle replaying begun tally_steps none next ⟨0, []⟩ snapshot hreplay hidle hreplaying hstepped hsteps hsnapshot
  obtain ⟨-, -, hcompletes⟩ :=
    hresumes idle after (7 : Nat) machine Worker.no_faults result none hreplay hidle (tally_restores htaken hclock)
      (tally_host_repeatable.refl machine) hagain
  obtain ⟨steps, hsteps⟩ := hcompletes tally_host_publishes
  obtain ⟨ended, hturns, hended⟩ := hsteps (List.replicate steps calm) List.length_replicate fun around hmember => by
    rw [List.eq_of_mem_replicate hmember]
    rfl
  exact ⟨snapshot, result, idle, after, steps, ended, hposition, hagain, hturns, hended⟩

end se_runtime.runtime
