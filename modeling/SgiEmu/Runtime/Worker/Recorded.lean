import SgiEmu.Runtime.Worker.Recording

open se_core se_core.storage se_machine se_runtime.record

namespace se_runtime.runtime

variable {host : Host} {manifest : host.RecordManifest} {begun : Execution host} {station next : Station host}
  {worker after : Worker host.toPlatform} {faults : FileFaults} {around : Surroundings} {error : String}

def RuntimeConfiguration.is_recording (configuration : RuntimeConfiguration host.toPlatform) : Bool :=
  match configuration.mode with
  | .Recording .. => true
  | _ => false

namespace Station

/-! ## Outside a Recording -/

theorem committed_idle (hidle : worker.mode.is_recording = false) (outcome : RecordOutcome) :
    worker.committed faults outcome = none := by
  unfold Worker.committed
  split
  · case _ hmode _ =>
    rw [hmode] at hidle
    cases hidle
  · rfl

theorem fail_network_disk {reason : String} (h : station.fail_network faults reason = some next)
    (hidle : station.worker.mode.is_recording = false) : next.disk = station.disk := by
  obtain ⟨failed, -, rfl⟩ := Option.map_eq_some_iff.mp h
  dsimp only
  rw [committed_idle hidle, Option.none_or]
  exact ite_self _

theorem take_failure_disk (h : take_failure around station = some next)
    (hidle : station.worker.mode.is_recording = false) : next.disk = station.disk := by
  unfold take_failure at h
  split at h
  · exact fail_network_disk h hidle
  · cases h
    rfl

theorem process_network_boundary_disk (h : process_network_boundary around station = some next)
    (hidle : station.worker.mode.is_recording = false) : next.disk = station.disk := by
  unfold process_network_boundary at h
  split at h
  · cases h
    rfl
  · obtain ⟨pending, -, h⟩ := Option.bind_eq_some_iff.mp h
    dsimp only at h
    split at h
    · have hdisk := take_failure_disk h hidle
      exact hdisk
    · obtain ⟨machine, -, h⟩ := Option.bind_eq_some_iff.mp h
      split at h
      · cases h
        rfl
      · have hdisk := take_failure_disk h hidle
        exact hdisk
      · obtain ⟨⟨result, received⟩, hreceived, h⟩ := Option.bind_eq_some_iff.mp h
        have hmode := (Onward.try_receive_input hreceived).mode.not_recording hidle
        split at h
        · cases h
          rfl
        · case _ heq =>
          cases heq
          have hdisk := take_failure_disk h hmode
          exact hdisk
        · case _ heq =>
          cases heq
          have hdisk := take_failure_disk h hmode
          exact hdisk

theorem execute_normal_instruction_disk {result : Except String Unit}
    (h : execute_normal_instruction around station = some (result, next))
    (hidle : station.worker.mode.is_recording = false) : next.disk = station.disk := by
  obtain ⟨⟨answer, executed⟩, hexecuted, h⟩ := Option.bind_eq_some_iff.mp h
  have hmode := (Onward.execute_machine_instruction hexecuted).mode.not_recording hidle
  split at h
  · cases h
    rfl
  · case _ heq =>
    cases heq
    obtain ⟨bounded, hbounded, h⟩ := Option.bind_eq_some_iff.mp h
    cases h
    have hdisk := process_network_boundary_disk hbounded hmode
    exact hdisk

theorem execute_replay_instruction_disk {result : Except String Unit}
    (h : execute_replay_instruction around station = some (result, next)) : next.disk = station.disk := by
  obtain ⟨machine, -, h⟩ := Option.bind_eq_some_iff.mp h
  split at h
  · cases h
    rfl
  · dsimp only at h
    split at h
    · cases h
      rfl
    · obtain ⟨finished, -, h⟩ := Option.bind_eq_some_iff.mp h
      split at h
      · cases h
        rfl
      · obtain ⟨bounded, -, h⟩ := Option.bind_eq_some_iff.mp h
        cases h
        rfl

/-! ## Execution of a Recording -/

/-- An instruction of another session leaves a complete Record as it is. -/
theorem idle_records (h : Records manifest begun station) (hdisk : next.disk = station.disk)
    (hidle : next.worker.mode.is_recording = false) : Records manifest begun next :=
  ⟨fun file hfile => h.disk file (hdisk.symm.trans hfile), .ended hidle⟩

/-- What an instruction leaves, whether or not it fails. -/
def Reaches (manifest : host.RecordManifest) (begun : Execution host) (next : Station host) : Except String Unit → Prop
  | .ok () => Records manifest begun next
  | .error error =>
    (∀ file, next.disk = some file → begun.Recorded manifest file) ∧ Fails manifest begun error next.worker

theorem idle_reaches {result : Except String Unit} (h : Records manifest begun station)
    (hdisk : next.disk = station.disk) (hidle : next.worker.mode.is_recording = false) :
    Reaches manifest begun next result := by
  cases result with
  | ok => exact idle_records h hdisk hidle
  | error error =>
    refine ⟨fun file hfile => h.disk file (hdisk.symm.trans hfile), fun session hmode => ?_⟩
    rw [hmode] at hidle
    cases hidle

theorem execute_recording_instruction_reaches (hcodec : host.codec.Inverts) (hhost : Repeatable host)
    {result : Except String Unit} (h : Records manifest begun station)
    (hexecute : execute_recording_instruction around station = some (result, next)) : Reaches manifest begun next result := by
  cases result with
  | ok => exact execute_recording_instruction_records hcodec hhost h hexecute
  | error error =>
    obtain ⟨⟨answer, executed⟩, hexecuted, hexecute⟩ := Option.bind_eq_some_iff.mp hexecute
    split at hexecute
    · case _ heq =>
      cases heq
      cases hexecute
      exact ⟨h.disk, failed_fails h.tracks hexecuted⟩
    · split at hexecute
      · cases hexecute
      · obtain ⟨bounded, -, hexecute⟩ := Option.bind_eq_some_iff.mp hexecute
        obtain ⟨⟨recorded, checked⟩, -, hexecute⟩ := Option.bind_eq_some_iff.mp hexecute
        split at hexecute
        · cases hexecute
        · cases hexecute

theorem execute_instruction_reaches (hcodec : host.codec.Inverts) (hhost : Repeatable host) {result : Except String Unit}
    (h : Records manifest begun station) (hexecute : execute_instruction around station = some (result, next)) :
    Reaches manifest begun next result := by
  have hidle : station.worker.mode.is_recording = false → next.worker.mode.is_recording = false :=
    (execute_instruction_onward hexecute).mode.not_recording
  unfold execute_instruction at hexecute
  cases hmode : station.worker.mode with
  | Recording session =>
    rw [hmode] at hexecute
    exact execute_recording_instruction_reaches hcodec hhost h hexecute
  | Normal | RecordCompleted =>
    rw [hmode] at hexecute hidle
    have hbefore : station.worker.mode.is_recording = false := by rw [hmode]; rfl
    exact idle_reaches h (execute_normal_instruction_disk hexecute hbefore) (hidle rfl)
  | Replaying session =>
    rw [hmode] at hexecute hidle
    exact idle_reaches h (execute_replay_instruction_disk hexecute) (hidle rfl)
  | ReplayCompleted | ReplayDiverged =>
    rw [hmode] at hexecute hidle
    cases hexecute
    exact h

theorem step_once_records (hcodec : host.codec.Inverts) (hhost : Repeatable host)
    {result : Except CommandRejection RuntimeStatus} (h : Records manifest begun station)
    (hstep : step_once around station = some (result, next)) : Records manifest begun next := by
  refine @step_once_keeps host (Records manifest begun) station next around result ?_ ?_ ?_ h hstep
  · exact fun hrecords hsame _ => hrecords.congr hsame
  · exact fun hrecords _ hexecuted => execute_instruction_reaches hcodec hhost hrecords hexecuted
  · intro before executed flushed last error hrecords _ hexecuted hsame _ hhandled
    obtain ⟨hdisk, hfails⟩ := execute_instruction_reaches hcodec hhost hrecords hexecuted
    have hfiles : ∀ file, (executed.with_worker flushed).disk = some file → begun.Recorded manifest file := hdisk
    exact handle_execution_error_records hcodec hfiles (hfails.congr hsame) hhandled

theorem execute_batch_records (hcodec : host.codec.Inverts) (hhost : Repeatable host) {around : Nat → Surroundings}
    (h : Records manifest begun station) (hrunning : station.worker.state = .Running)
    (hexecute : execute_batch around station = some next) : Records manifest begun next := by
  obtain ⟨executed, hexecuted, hexecute⟩ := Option.bind_eq_some_iff.mp hexecute
  obtain ⟨flushed, hflushed, hexecute⟩ := Option.bind_eq_some_iff.mp hexecute
  cases hexecute
  refine Records.congr ?_ (.flush_machine_output hflushed)
  unfold execute_session_batch at hexecuted
  -- The batch of any other session begins and ends without a Recording.
  have hother : ∀ {instruction : Surroundings → Station host → Option (Except String Unit × Station host)},
      (∀ {around station next} {result : Except String Unit}, instruction around station = some (result, next) →
        station.worker.mode.is_recording = false → next.disk = station.disk ∧ next.worker.mode.is_recording = false) →
      station.worker.mode.is_recording = false →
      execute_instructions instruction EXECUTION_BATCH_SIZE around station = some executed → Records manifest begun executed := by
    intro instruction hidle hbefore hinstructions
    refine And.left (@execute_instructions_keeps host
      (fun reached => Records manifest begun reached ∧ reached.worker.mode.is_recording = false) (fun _ => True) instruction
      station executed ?_ ?_ ?_ _ _ (fun _ => trivial) ⟨h, hbefore⟩ hrunning hinstructions)
    · rintro reached worker ⟨hrecords, hmode⟩ hsame -
      exact ⟨hrecords.congr hsame, (congrArg ActiveMode.is_recording hsame.mode).trans hmode⟩
    · rintro surroundings reached after - ⟨hrecords, hmode⟩ - hinstruction
      obtain ⟨hdisk, hafter⟩ := hidle hinstruction hmode
      exact ⟨idle_records hrecords hdisk hafter, hafter⟩
    · rintro surroundings reached after last error - ⟨hrecords, hmode⟩ - hinstruction hhandled
      obtain ⟨hdisk, hafter⟩ := hidle hinstruction hmode
      obtain ⟨hfiles, hfails⟩ : Reaches manifest begun after (.error error) := idle_reaches hrecords hdisk hafter
      exact ⟨handle_execution_error_records hcodec hfiles hfails hhandled,
        (handle_execution_error_onward hhandled).mode.not_recording hafter⟩
  have hnormal : ∀ {around : Surroundings} {station next : Station host} {result : Except String Unit},
      execute_normal_instruction around station = some (result, next) → station.worker.mode.is_recording = false →
        next.disk = station.disk ∧ next.worker.mode.is_recording = false := fun hinstruction hmode =>
    ⟨execute_normal_instruction_disk hinstruction hmode, (execute_normal_instruction_onward hinstruction).mode.not_recording hmode⟩
  cases hmode : station.worker.mode with
  | Recording session =>
    rw [hmode] at hexecuted
    refine @execute_instructions_keeps host (Records manifest begun) (fun _ => True) execute_recording_instruction station
      executed ?_ ?_ ?_ _ _ (fun _ => trivial) h hrunning hexecuted
    · exact fun hrecords hsame _ => hrecords.congr hsame
    · exact fun _ hrecords _ hinstruction => execute_recording_instruction_reaches hcodec hhost hrecords hinstruction
    · intro surroundings reached after last error _ hrecords _ hinstruction hhandled
      obtain ⟨hfiles, hfails⟩ := execute_recording_instruction_reaches hcodec hhost hrecords hinstruction
      exact handle_execution_error_records hcodec hfiles hfails hhandled
  | Normal | RecordCompleted =>
    rw [hmode] at hexecuted
    exact hother hnormal (by rw [hmode]; rfl) hexecuted
  | Replaying session =>
    rw [hmode] at hexecuted
    refine hother (fun hinstruction hidle => ?_) (by rw [hmode]; rfl) hexecuted
    exact ⟨execute_replay_instruction_disk hinstruction,
      (execute_replay_instruction_onward hinstruction).mode.not_recording hidle⟩
  | ReplayCompleted | ReplayDiverged =>
    rw [hmode] at hexecuted
    cases hexecuted
    exact h

/-! ## Commands during a Recording -/

theorem machine_input_tracks (hhost : Repeatable host) {handle : EndpointHandle} {payload : MachineInputPayload}
    {result : Except CommandRejection RuntimeStatus} (htracks : Tracks manifest begun worker)
    (h : machine_input around worker handle payload = some (result, after)) : Tracks manifest begun after := by
  unfold machine_input at h
  split at h
  · cases h
    exact htracks
  · split at h
    · cases h
      exact htracks
    · obtain ⟨⟨answer, accepted⟩, haccepted, h⟩ := Option.map_eq_some_iff.mp h
      have hkept := accept_live_input_tracks hhost htracks haccepted
      cases answer with
      | error rejection =>
        cases h
        exact hkept
      | ok =>
        cases h
        exact hkept

/-- The media of a Recording do not change. -/
theorem change_media_tracks {handle : RuntimeMediaHandle}
    {change : host.Machine → Except MachineMediaError Unit × host.Machine} (htracks : Tracks manifest begun worker) :
    Tracks manifest begun (change_media worker handle change).2 := by
  unfold change_media
  split
  · exact htracks
  · case _ machine hrequired =>
    have hnormal : worker.mode = .Normal := by
      unfold require_media_change at hrequired
      split at hrequired
      · cases hrequired
      · split at hrequired
        · cases hrequired
        · split at hrequired
          · cases hrequired
          · split at hrequired
            · assumption
            · cases hrequired
    have hidle : worker.mode.is_recording = false := by rw [hnormal]; rfl
    split
    · exact .ended hidle
    · exact .ended hidle

theorem shutdown_records (hcodec : host.codec.Inverts) {state : Option host.MachineNonvolatileState}
    (h : Records manifest begun station) (hshutdown : shutdown around station = some (state, next)) :
    Records manifest begun next := by
  obtain ⟨closed, hclosed, hshutdown⟩ := Option.bind_eq_some_iff.mp hshutdown
  cases hshutdown
  have hleft : Records manifest begun (station.with_worker { station.worker with network := none }) :=
    h.congr ⟨rfl, rfl, rfl, rfl, rfl, rfl, rfl, rfl, rfl⟩
  unfold close_recording at hclosed
  split at hclosed
  · obtain ⟨⟨answer, stopped⟩, hstopped, rfl⟩ := Option.map_eq_some_iff.mp hclosed
    exact stop_recording_records hcodec hleft rfl hstopped
  · cases hclosed
    exact hleft

/-- Another configuration waits for the end of the Recording, and does not begin one itself. -/
theorem configure_tracks {configuration : RuntimeConfiguration host.toPlatform}
    {result : Except CommandRejection RuntimeStatus} (hother : configuration.is_recording = false)
    (htracks : Tracks manifest begun worker) (h : worker.configure faults configuration = some (result, after)) :
    Tracks manifest begun after := by
  obtain ⟨rfl, -⟩ | ⟨installation, hprepare, hreplaced⟩ := configure_cases h
  · exact htracks
  · obtain ⟨hidle, -, session, cpu_clock, hsession, -, hinstallation⟩ := prepare_cases hprepare
    refine .ended ?_
    obtain ⟨rejection, -, hreplace⟩ | ⟨replaced, started, -, -, hstarted, hsame, -⟩ := hreplaced
    · exact (Onward.replace_network hreplace).mode.not_recording hidle
    · rw [hsame.mode]
      refine (start_session_onward hstarted).mode.not_recording ?_
      change installation.mode.is_recording = false
      rw [(next_installation_cases hinstallation).1]
      unfold Worker.next_session at hsession
      split at hsession
      · cases hsession
        rfl
      · case _ recorder config hmode =>
        unfold RuntimeConfiguration.is_recording at hother
        rw [hmode] at hother
        cases hother
      · cases hsession
        rfl

/-! ## Runs of a Recording -/

/-- A turn that begins another Recording. -/
def Event.begins_recording : Event host → Bool
  | .Command _ (.Configure configuration) => configuration.is_recording
  | _ => false

theorem handle_command_records (hcodec : host.codec.Inverts) (hhost : Repeatable host) {command : Command host}
    {answer : Reply host} (hother : Event.begins_recording (.Command around command) = false)
    (h : Records manifest begun station) (hhandled : handle_command around station command = some (answer, next)) :
    Records manifest begun next := by
  cases command with
  | NetworkFailure generation reason =>
    change (if _ then _ else _) = _ at hhandled
    split at hhandled
    · obtain ⟨failed, hfailed, hhandled⟩ := Option.map_eq_some_iff.mp hhandled
      cases hhandled
      exact fail_network_records hcodec h hfailed
    · cases hhandled
      exact h
  | Configure configuration =>
    obtain ⟨⟨result, reached⟩, hconfigured, hhandled⟩ := Option.map_eq_some_iff.mp hhandled
    cases hhandled
    exact h.with_worker (configure_tracks hother h.tracks hconfigured)
  | Run =>
    cases hhandled
    refine h.with_worker ?_
    unfold run
    split
    · exact h.tracks
    · exact h.tracks.congr ⟨rfl, rfl, rfl, rfl, rfl, rfl, rfl, rfl, rfl⟩
  | Reset =>
    obtain ⟨⟨result, reached⟩, hreset, hhandled⟩ := Option.map_eq_some_iff.mp hhandled
    cases hhandled
    have hrecords := reset_records hcodec h hreset
    exact hrecords.with_worker (check_record_failure_tracks hrecords.tracks)
  | Pause =>
    cases hhandled
    refine h.with_worker ?_
    unfold pause
    split
    · exact h.tracks
    · exact h.tracks.congr ⟨rfl, rfl, rfl, rfl, rfl, rfl, rfl, rfl, rfl⟩
  | Step =>
    obtain ⟨⟨result, reached⟩, hstep, hhandled⟩ := Option.map_eq_some_iff.mp hhandled
    cases hhandled
    exact step_once_records hcodec hhost h hstep
  | StopRecording =>
    obtain ⟨⟨result, reached⟩, hstopped, hhandled⟩ := Option.map_eq_some_iff.mp hhandled
    cases hhandled
    have hrecords := stop_recording_records hcodec h rfl hstopped
    exact hrecords.with_worker (check_record_failure_tracks hrecords.tracks)
  | CreateReplaySnapshot record =>
    obtain ⟨⟨result, reached⟩, hcreated, hhandled⟩ := Option.map_eq_some_iff.mp hhandled
    cases hhandled
    refine h.with_worker ?_
    obtain ⟨snapshot, -, hcreated⟩ := Option.map_eq_some_iff.mp hcreated
    cases snapshot with
    | error rejection =>
      cases hcreated
      exact h.tracks
    | ok snapshot =>
      dsimp only at hcreated
      split at hcreated
      · cases hcreated
        exact h.tracks
      · cases hcreated
        exact h.tracks.congr ⟨rfl, rfl, rfl, rfl, rfl, rfl, rfl, rfl, rfl⟩
  | Status =>
    cases hhandled
    exact h
  | RefreshOutputs =>
    obtain ⟨reached, hdelivered, hhandled⟩ := Option.map_eq_some_iff.mp hhandled
    cases hhandled
    exact h.congr (.trans (.queue_current_outputs _) (.deliver_output hdelivered))
  | ToggleBreakpoint address =>
    cases hhandled
    refine h.with_worker ?_
    unfold toggle_breakpoint
    split
    · exact h.tracks
    · intro session hmode
      obtain ⟨hactive, hjournal⟩ := h.tracks session hmode
      refine ⟨hactive, fun hfailure => ?_⟩
      obtain ⟨execution, hkeeps, hat⟩ := hjournal hfailure
      exact ⟨execution, hkeeps, hat.position, hat.virtual_instant, hat.cpu_clock, hat.machine⟩
  | MachineInput handle payload =>
    obtain ⟨⟨result, reached⟩, hinput, hhandled⟩ := Option.map_eq_some_iff.mp hhandled
    cases hhandled
    exact h.with_worker (check_record_failure_tracks (machine_input_tracks hhost h.tracks hinput))
  | InsertMedia handle medium =>
    cases hhandled
    exact h.with_worker (change_media_tracks h.tracks)
  | EjectMedia handle force =>
    cases hhandled
    exact h.with_worker (change_media_tracks h.tracks)
  | SetOutputHandler =>
    cases hhandled
    exact h.congr ⟨rfl, rfl, rfl, rfl, rfl, rfl, rfl, rfl, rfl⟩
  | ClearOutputHandler =>
    cases hhandled
    exact h.congr ⟨rfl, rfl, rfl, rfl, rfl, rfl, rfl, rfl, rfl⟩
  | Shutdown =>
    obtain ⟨⟨state, reached⟩, hshutdown, hhandled⟩ := Option.map_eq_some_iff.mp hhandled
    cases hhandled
    exact shutdown_records hcodec h hshutdown

theorem turn_records (hcodec : host.codec.Inverts) (hhost : Repeatable host) {event : Event host}
    (hother : event.begins_recording = false) (h : Records manifest begun station) (hturn : turn station event = some next) :
    Records manifest begun next := by
  cases event with
  | Command around command =>
    obtain ⟨⟨answer, reached⟩, hhandled, rfl⟩ := Option.map_eq_some_iff.mp hturn
    exact handle_command_records hcodec hhost hother h hhandled
  | Batch around =>
    change (if _ then _ else _) = _ at hturn
    split at hturn
    · case isTrue hrunning => exact execute_batch_records hcodec hhost h hrunning hturn
    · cases hturn
      exact h

/-- Whatever order the turns of a Recording come in. -/
theorem turns_records (hcodec : host.codec.Inverts) (hhost : Repeatable host) {events : List (Event host)}
    (hother : ∀ event ∈ events, event.begins_recording = false) (h : Records manifest begun station)
    (hturns : station.turns events = some next) : Records manifest begun next := by
  induction events generalizing station with
  | nil =>
    cases hturns
    exact h
  | cons event events ih =>
    obtain ⟨middle, hturn, hturns⟩ := Option.bind_eq_some_iff.mp hturns
    obtain ⟨hfirst, hrest⟩ := List.forall_mem_cons.mp hother
    exact ih hrest (turn_records hcodec hhost hfirst h hturn) hturns

/-! ## The begin of a Recording -/

/-- The recorder of a new file, to which the manifest is written. -/
def started (codec : RecordCodec host.RecordManifest) (faults : FileFaults) (manifest : host.RecordManifest) : RecorderInner :=
  (RecorderInner.create.start codec faults manifest).2

theorem started_keeps (starting : FileFaults) (manifest : host.RecordManifest) (begun : Execution host) :
    Keeps manifest begun (started host.codec starting manifest) begun :=
  ⟨[.Start starting manifest], [], 0, rfl, rfl, .nil begun⟩

/-- Outside a Replay a session starts without a boundary. -/
theorem start_session_outside (hmode : worker.mode.is_replay = false) : worker.start_session = some worker := by
  unfold Worker.start_session Worker.process_replay_boundary
  split
  · case _ session hreplaying =>
    rw [hreplaying] at hmode
    cases hmode
  · rfl

/-- A configured Recording has its manifest and the first checkpoint in its journal. -/
theorem configure_begins (hhost : Repeatable host) {machine : host.Machine} {config : host.NatConfig}
    {starting : FileFaults} {status : RuntimeStatus}
    (h : worker.configure faults ⟨machine, .Recording (started host.codec starting manifest) config⟩ =
      some (.ok status, after)) :
    ∃ cpu_clock, CpuClock.new (host.cpu_frequency_hz machine) = some cpu_clock ∧
      Tracks manifest (.fresh machine cpu_clock) after := by
  obtain ⟨-, rejection, hrejection, -⟩ | ⟨installation, hprepare, hreplaced⟩ := configure_cases h
  · cases hrejection
  · obtain ⟨-, -, session, cpu_clock, hsession, hclock, hinstallation⟩ := prepare_cases hprepare
    obtain ⟨rejection, hrejection, -⟩ | ⟨replaced, begins, -, -, hstarted, hsame, -⟩ := hreplaced
    · cases hrejection
    · unfold Worker.next_session at hsession
      dsimp only at hsession
      split at hsession
      · cases hsession
      · case _ appended happended =>
        cases hsession
        obtain ⟨hmode, -, hmachine, hcpu, hinstant, hposition⟩ := next_installation_cases hinstallation
        have hbegins : (replaced.install installation).start_session = some (replaced.install installation) := by
          refine start_session_outside ?_
          change installation.mode.is_replay = false
          rw [hmode]
          rfl
        obtain rfl := Option.some.inj (hbegins.symm.trans hstarted)
        refine ⟨cpu_clock, hclock, Tracks.congr (fun recording hrecording => ?_) hsame⟩
        obtain rfl := ActiveMode.Recording.inj (hmode.symm.trans hrecording)
        have hrecorder := congrArg Prod.snd happended
        dsimp only at hrecorder
        refine ⟨?_, fun _ => ⟨.fresh machine cpu_clock, ?_, hposition, hinstant, congrArg some hcpu, machine,
          congrArg some hmachine, hhost.refl machine⟩⟩
        · change appended.active = true
          rw [← hrecorder, append_active]
          exact start_active RecorderInner.create manifest
        · change Keeps manifest _ appended _
          rw [← hrecorder]
          exact (started_keeps starting manifest _).append rfl (if_pos rfl)

/-! ## The end of a Recording -/

/-- Where a Recording ends without an error, its file says where and with what state. -/
theorem stop_recording_reads (hcodec : host.codec.Inverts) {recording : RecordingSession} {machine : host.Machine}
    {outcome : RecordOutcome} {status : RuntimeStatus} (h : Records manifest begun station)
    (hmode : station.worker.mode = .Recording recording) (hmachine : station.worker.machine = some machine)
    (hstop : station.stop_recording faults outcome = some (.ok status, next)) :
    ∃ file record, next.disk = some file ∧ parse_record host.codec file = .ok record ∧ record.manifest = manifest ∧
      record.footer = station.worker.footer machine outcome := by
  obtain ⟨⟨answer, stopped⟩, hstopped, hnext⟩ := Option.map_eq_some_iff.mp hstop
  cases hnext
  have hok : (recording.recorder.finalize host.codec faults (station.worker.footer machine outcome)).1 = .ok () := by
    unfold Worker.stop_recording at hstopped
    rw [hmode] at hstopped
    dsimp only at hstopped
    rw [hmachine, Option.map_some] at hstopped
    split at hstopped
    · cases hstopped
    · assumption
  obtain ⟨execution, hkeeps, hat⟩ := (h.tracks recording hmode).journal (RecorderInner.update_ok hok).1
  obtain ⟨file, timeline, runs, hcommitted, hparsed, -⟩ := finalize_reads hcodec hkeeps hat.position hok
  refine ⟨file, _, ?_, hparsed, rfl, rfl⟩
  have hfile : station.worker.committed faults outcome = some file := by
    unfold Worker.committed
    rw [hmode, hmachine]
    dsimp only
    split
    · case _ heq =>
      rw [heq] at hcommitted
      exact hcommitted
    · case _ heq =>
      rw [heq] at hok
      cases hok
  dsimp only
  rw [hfile]
  rfl

/-- Whatever happened during a Recording, stopping it without an error leaves a Record of its
manifest that ends where the worker stands. -/
theorem stopped_record_ends (hcodec : host.codec.Inverts) (hhost : Repeatable host) {machine last : host.Machine}
    {config : host.NatConfig} {starting : FileFaults} {status answer : RuntimeStatus} {recording : Worker host.toPlatform}
    {reached finished : Station host} {session : RecordingSession} {events : List (Event host)}
    {outcome : RecordOutcome}
    (hconfigure : worker.configure faults ⟨machine, .Recording (started host.codec starting manifest) config⟩ =
      some (.ok status, recording))
    (hevents : ∀ event ∈ events, event.begins_recording = false)
    (hrun : Station.turns ⟨recording, none⟩ events = some reached) (hmode : reached.worker.mode = .Recording session)
    (hmachine : reached.worker.machine = some last)
    (hstop : reached.stop_recording faults outcome = some (.ok answer, finished)) :
    ∃ file record, finished.disk = some file ∧ parse_record host.codec file = .ok record ∧ record.manifest = manifest ∧
      record.footer =
        { position := reached.worker.position, outcome, final_fingerprint := host.machine_state_fingerprint last } := by
  obtain ⟨cpu_clock, -, htracks⟩ := configure_begins hhost hconfigure
  have hbegun : Records manifest (.fresh machine cpu_clock) (Station.mk recording none) := by
    refine ⟨fun file hfile => ?_, htracks⟩
    cases hfile
  exact stop_recording_reads hcodec (turns_records hcodec hhost hevents hbegun hrun) hmode hmachine hstop

/-- No event of the session begins another Recording. -/
theorem tally_session_stays : ∀ event ∈ tally_session, event.begins_recording = false := by decide

/-- A Recording of the counting machine, as far as its last instruction. -/
theorem tally_recorded :
    ∃ (idle recording : Worker tally_host.toPlatform) (status answer : RuntimeStatus) (session : RecordingSession)
        (reached finished : Station tally_host),
      Worker.new none = some idle ∧
        idle.configure Worker.no_faults
            ⟨(0 : Nat), .Recording (@started tally_host RecorderInner.serial_codec Worker.no_faults []) ()⟩ =
          some (.ok status, recording) ∧
        Station.turns ⟨recording, none⟩ tally_session = some reached ∧
        reached.worker.mode = .Recording session ∧ reached.worker.machine = some (12 : Nat) ∧
        reached.worker.position = tally_footer.position ∧
        reached.stop_recording Worker.no_faults .UserStopped = some (.ok answer, finished) :=
  ⟨_, _, _, _, _, _, _, rfl, rfl, rfl, rfl, rfl, rfl, rfl⟩

/-- The Record of the session ends at its third instruction after the reset, with what was
counted and received since. -/
theorem stopped_record_ends_tally :
    ∃ (finished : Station tally_host) (file : List U8) (record : Replayer (List U8)),
      finished.disk = some file ∧ parse_record RecorderInner.serial_codec file = .ok record ∧ record.manifest = [] ∧
        record.footer = tally_footer := by
  obtain ⟨idle, recording, status, answer, session, reached, finished, -, hconfigure, hrun, hmode, hmachine, hposition,
    hstop⟩ := tally_recorded
  obtain ⟨file, record, hdisk, hparsed, hmanifest, hfooter⟩ :=
    stopped_record_ends RecorderInner.serial_codec_inverts tally_host_repeatable hconfigure
      tally_session_stays hrun hmode hmachine hstop
  refine ⟨finished, file, record, hdisk, hparsed, hmanifest, ?_⟩
  rw [hfooter, hposition]
  rfl

end Station

end se_runtime.runtime
