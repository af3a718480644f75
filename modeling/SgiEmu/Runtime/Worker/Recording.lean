import SgiEmu.Runtime.Record.Recorder
import SgiEmu.Runtime.Worker.Execution
import SgiEmu.Runtime.Worker.Sessions

open se_core se_core.storage se_machine se_runtime.record

namespace se_runtime.runtime

variable {host : Host}

/-! ## The journal of a Recording -/

variable {manifest : host.RecordManifest} {begun execution : Execution host} {recorder : RecorderInner}
  {worker after : Worker host.toPlatform} {session : RecordingSession} {station next : Station host}
  {faults : FileFaults} {around : Surroundings}

/-- The recorder has written the manifest, and since then the journal that leads here. -/
def Keeps (manifest : host.RecordManifest) (begun : Execution host) (recorder : RecorderInner)
    (execution : Execution host) : Prop :=
  ∃ calls timeline runs, recorder = RecorderInner.create.run host.codec calls ∧
    calls.map RecorderCall.frame = (RecordFrame.Manifest manifest :: timeline.map .Timeline).map some ∧
    (Execution.timed host).History begun timeline runs execution

/-- The worker stands where the execution does, with a machine like its own. -/
structure At (worker : Worker host.toPlatform) (execution : Execution host) : Prop where
  position : worker.position = execution.position
  virtual_instant : worker.virtual_instant = execution.virtual_instant
  cpu_clock : worker.cpu_clock = some execution.cpu_clock
  machine : ∃ machine, worker.machine = some machine ∧ Indistinguishable host machine execution.machine

/-- A recorder without a failure has the journal of an execution where the worker stands. -/
structure Follows (manifest : host.RecordManifest) (begun : Execution host) (worker : Worker host.toPlatform)
    (session : RecordingSession) : Prop where
  active : session.recorder.active = true
  journal : session.recorder.failure = none → ∃ execution, Keeps manifest begun session.recorder execution ∧ At worker execution

/-- A Recording worker follows its journal. -/
def Tracks (manifest : host.RecordManifest) (begun : Execution host) (worker : Worker host.toPlatform) : Prop :=
  ∀ session, worker.mode = .Recording session → Follows manifest begun worker session

/-- A worker that tracks its journal, with a file that is a complete Record if there is one. -/
structure Records (manifest : host.RecordManifest) (begun : Execution host) (station : Station host) : Prop where
  disk : ∀ file, station.disk = some file → begun.Recorded manifest file
  tracks : Tracks manifest begun station.worker

theorem At.congr (h : At worker execution) (hsame : SameSession worker after) : At after execution :=
  ⟨hsame.position.trans h.position, hsame.virtual_instant.trans h.virtual_instant, hsame.cpu_clock.trans h.cpu_clock, by
    obtain ⟨machine, hmachine, halike⟩ := h.machine
    exact ⟨machine, hsame.machine.trans hmachine, halike⟩⟩

theorem Tracks.congr (h : Tracks manifest begun worker) (hsame : SameSession worker after) :
    Tracks manifest begun after := by
  intro session hmode
  obtain ⟨hactive, hjournal⟩ := h session (hsame.mode.symm.trans hmode)
  refine ⟨hactive, fun hfailure => ?_⟩
  obtain ⟨execution, hkeeps, hat⟩ := hjournal hfailure
  exact ⟨execution, hkeeps, hat.congr hsame⟩

theorem Tracks.ended (hmode : worker.mode.is_recording = false) : Tracks manifest begun worker := by
  intro session hrecording
  rw [hrecording] at hmode
  cases hmode

theorem Records.with_worker (h : Records manifest begun station) (htracks : Tracks manifest begun after) :
    Records manifest begun (station.with_worker after) := ⟨h.disk, htracks⟩

theorem Records.congr (h : Records manifest begun station) (hsame : SameSession station.worker after) :
    Records manifest begun (station.with_worker after) := h.with_worker (h.tracks.congr hsame)

/-- The positions of a journal are in order, up to where it ends. -/
theorem history_ordered {timeline : List TimelineEntry} {footer : RecordFooter} {runs : Nat}
    (h : (Execution.timed host).History begun timeline runs execution) (hposition : footer.position = execution.position) :
    NonDecreasing (record_positions timeline footer) := by
  have hpairwise : (record_positions timeline footer).Pairwise fun previous current => ¬current < previous := by
    unfold record_positions
    refine List.pairwise_append.mpr ⟨?_, List.pairwise_singleton _ _, ?_⟩
    · refine List.pairwise_map.mpr (h.sorted.imp fun hle hlt => ?_)
      exact absurd (ExecutionPosition.lt_iff_rank_lt.mp hlt) (Nat.not_lt.mpr hle)
    · intro position hposition' final hfinal hlt
      obtain ⟨entry, hentry, rfl⟩ := List.mem_map.mp hposition'
      rw [List.mem_singleton.mp hfinal, hposition] at hlt
      exact absurd (ExecutionPosition.lt_iff_rank_lt.mp hlt) (Nat.not_lt.mpr (h.due_le_now entry hentry))
  exact hpairwise.isChain

/-- What a finalization commits is read back as the journal with the footer. -/
theorem finalize_reads (hcodec : host.codec.Inverts) (h : Keeps manifest begun recorder execution) {footer : RecordFooter}
    (hposition : footer.position = execution.position) (hok : (recorder.finalize host.codec faults footer).1 = .ok ()) :
    ∃ file timeline runs, (recorder.finalize host.codec faults footer).2.committed = some file ∧
      parse_record host.codec file = .ok ⟨manifest, timeline, footer⟩ ∧
      (Execution.timed host).History begun timeline runs execution := by
  obtain ⟨calls, timeline, runs, rfl, hcalls, hhistory⟩ := h
  obtain ⟨written, entries, payloads, hwritten, hframes, hcommitted⟩ := RecorderInner.finalize_committed hcodec hok
  obtain ⟨hmanifest, htimeline⟩ :=
    List.cons.inj (List.map_injective_iff.mpr (fun _ _ hframe => Option.some.inj hframe) (hwritten.symm.trans hcalls))
  cases hmanifest
  obtain rfl := List.map_injective_iff.mpr (fun _ _ hentry => RecordFrame.Timeline.inj hentry) htimeline
  exact ⟨_, entries, runs, hcommitted, parse_record_complete hframes (history_ordered hhistory hposition), hhistory⟩

/-- What a finalization commits is the Record of the execution that the footer ends. -/
theorem Keeps.finalize (hcodec : host.codec.Inverts) (h : Keeps manifest begun recorder execution) {footer : RecordFooter}
    (hends : execution.Ends footer) (hok : (recorder.finalize host.codec faults footer).1 = .ok ()) {file : List U8}
    (hfile : (recorder.finalize host.codec faults footer).2.committed = some file) : begun.Recorded manifest file := by
  obtain ⟨same, timeline, runs, hcommitted, hparsed, hhistory⟩ := finalize_reads hcodec h hends.1 hok
  obtain rfl := Option.some.inj (hfile.symm.trans hcommitted)
  exact ⟨timeline, footer, runs, execution, hparsed, hhistory, hends⟩

theorem write_frame_active (recorder : RecorderInner) (frame : RecordFrame host.RecordManifest) :
    (recorder.write_frame host.codec faults frame).2.active = recorder.active := by
  unfold RecorderInner.write_frame
  split
  · rfl
  · split
    · rfl
    · dsimp only
      split
      · rfl
      · split
        · rfl
        · rfl

/-- A failure that is latched leaves the recorder active. -/
theorem update_active {operation : RecorderInner → Except RecordError Unit × RecorderInner}
    (hoperation : (operation recorder).2.active = recorder.active) : (recorder.update operation).2.active = recorder.active := by
  unfold RecorderInner.update
  split
  · rfl
  · split
    · case _ heq =>
      rw [heq] at hoperation
      exact hoperation
    · case _ heq =>
      rw [heq] at hoperation
      exact hoperation

theorem append_active (recorder : RecorderInner) (entry : TimelineEntry) :
    (recorder.append host.codec faults entry).2.active = recorder.active := by
  unfold RecorderInner.append
  refine update_active ?_
  split
  · rfl
  · exact write_frame_active recorder _

theorem start_active (recorder : RecorderInner) (manifest : host.RecordManifest) :
    (recorder.start host.codec faults manifest).2.active = recorder.active := by
  unfold RecorderInner.start
  refine update_active ?_
  split
  · rfl
  · split
    · case _ heq => exact (congrArg (fun answered => answered.2.active) heq).symm.trans (write_frame_active recorder _)
    · case _ heq => exact (congrArg (fun answered => answered.2.active) heq).symm.trans (write_frame_active recorder _)

/-- An append after which the recorder has not failed extends the journal by an entry that happens. -/
theorem Keeps.append (h : Keeps manifest begun recorder execution) {entry : TimelineEntry} {reached : Execution host}
    (hposition : entry.position = execution.position) (htake : execution.take entry = some reached) :
    Keeps manifest begun (recorder.append host.codec faults entry).2 reached := by
  obtain ⟨calls, timeline, runs, rfl, hcalls, hhistory⟩ := h
  refine ⟨calls ++ [.Append faults entry], timeline ++ [entry], runs, ?_, ?_, ?_⟩
  · rw [RecorderInner.run_append]
    rfl
  · rw [List.map_append, hcalls, List.map_append, ← List.cons_append, List.map_append]
    rfl
  · exact hhistory.snoc_take (congrArg ExecutionPosition.rank hposition) htake

theorem append_failure {entry : TimelineEntry} (h : (recorder.append host.codec faults entry).2.failure = none) :
    recorder.failure = none ∧ (recorder.append host.codec faults entry).1 = .ok () := by
  constructor
  · by_contra hfailed
    exact RecorderInner.call_latched (.Append faults entry) hfailed h
  · cases hresult : (recorder.append host.codec faults entry).1 with
    | ok => rfl
    | error error => exact absurd h (RecorderInner.call_error (.Append faults entry) hresult)

/-! ## Appending -/

namespace Station

/-- An entry is appended for an execution where the worker stands, and moves it to where the worker stands now. -/
theorem append_tracks {action : TimelineAction} {result : Except RecordError Unit}
    (hactive : ∀ session, worker.mode = .Recording session → session.recorder.active = true)
    (htakes : ∀ session, worker.mode = .Recording session → session.recorder.failure = none →
      ∃ execution reached, Keeps manifest begun session.recorder execution ∧ worker.position = execution.position ∧
        execution.take { position := worker.position, action } = some reached ∧ At worker reached)
    (h : append faults worker action = (result, after)) : Tracks manifest begun after := by
  intro session hmode
  unfold append at h
  split at h
  · case _ before hbefore =>
    cases h
    cases hmode
    refine ⟨(append_active _ _).trans (hactive before hbefore), fun hfailure => ?_⟩
    obtain ⟨execution, reached, hkeeps, hposition, htake, hat⟩ := htakes before hbefore (append_failure hfailure).1
    exact ⟨reached, hkeeps.append hposition htake, ⟨hat.position, hat.virtual_instant, hat.cpu_clock, hat.machine⟩⟩
  · case _ hnone =>
    cases h
    exact absurd hmode (hnone session)

theorem record_checkpoint_tracks {result : Except RecordError Unit} (htracks : Tracks manifest begun worker)
    (h : record_checkpoint faults worker = some (result, after)) : Tracks manifest begun after := by
  unfold record_checkpoint at h
  split at h
  · case _ recording hrecording =>
    obtain ⟨machine, hmachine, happend⟩ := Option.map_eq_some_iff.mp h
    refine append_tracks (fun session hmode => (htracks session hmode).active) (fun session hmode hfailure => ?_) happend
    obtain ⟨execution, hkeeps, hat⟩ := (htracks session hmode).journal hfailure
    refine ⟨execution, execution, hkeeps, hat.position, ?_, hat⟩
    obtain ⟨same, hsame, halike⟩ := hat.machine
    obtain rfl := Option.some.inj (hmachine.symm.trans hsame)
    exact if_pos ((bisimulation_indistinguishable host).fingerprint halike).symm
  · cases h
    exact htracks

theorem with_session_tracks {change : RecordingSession → RecordingSession}
    (hchange : ∀ session, (change session).recorder = session.recorder) (htracks : Tracks manifest begun worker) :
    Tracks manifest begun (with_session worker change) := by
  intro session hmode
  unfold with_session at hmode ⊢
  split at hmode
  · case _ before hbefore =>
    cases hmode
    obtain ⟨hactive, hjournal⟩ := htracks before hbefore
    refine ⟨(hchange before).symm ▸ hactive, fun hfailure => ?_⟩
    rw [hchange] at hfailure ⊢
    obtain ⟨execution, hkeeps, hat⟩ := hjournal hfailure
    exact ⟨execution, hkeeps, ⟨hat.position, hat.virtual_instant, hat.cpu_clock, hat.machine⟩⟩
  · exact htracks session hmode

theorem record_checkpoint_if_due_tracks {result : Except RecordError Unit} (htracks : Tracks manifest begun worker)
    (h : record_checkpoint_if_due faults worker = some (result, after)) : Tracks manifest begun after := by
  unfold record_checkpoint_if_due at h
  split at h
  · split at h
    · split at h
      · case _ recorded hrecorded =>
        cases h
        exact with_session_tracks (fun _ => rfl) (record_checkpoint_tracks htracks hrecorded)
      · exact record_checkpoint_tracks htracks h
    · cases h
      exact htracks
  · cases h
    exact htracks

/-! ## Inputs -/

theorem record_machine_input_eq {input : MachineInput} (hbound : validate_input_allocation input = .ok ()) :
    record_machine_input faults worker input = append faults worker (.MachineInput input) := by
  unfold record_machine_input
  split
  · case _ bytes _ hpayload =>
    unfold validate_input_allocation at hbound
    rw [hpayload] at hbound
    dsimp only at hbound
    split at hbound
    · cases hbound
    · case isFalse hfits => exact if_neg hfits
  · rfl

/-- A machine that refuses an input leaves the worker where it stood. -/
theorem refused_tracks {machine other : host.Machine} (htracks : Tracks manifest begun worker)
    (hmachine : worker.machine = some machine) (halike : Indistinguishable host other machine) :
    Tracks manifest begun { worker with machine := some other } := by
  intro session hmode
  obtain ⟨hactive, hjournal⟩ := htracks session hmode
  refine ⟨hactive, fun hfailure => ?_⟩
  obtain ⟨execution, hkeeps, hat⟩ := hjournal hfailure
  obtain ⟨same, hsame, hexecution⟩ := hat.machine
  obtain rfl := Option.some.inj (hmachine.symm.trans hsame)
  exact ⟨execution, hkeeps, hat.position, hat.virtual_instant, hat.cpu_clock, other, rfl, halike.trans hexecution⟩

theorem try_receive_input_tracks (hhost : Repeatable host) {input : MachineInput}
    {result : Except String MachineInputResult} (htracks : Tracks manifest begun worker)
    (h : try_receive_input faults worker input = some (result, after)) : Tracks manifest begun after := by
  obtain ⟨machine, hmachine, hreceived⟩ := Option.map_eq_some_iff.mp h
  dsimp only at hreceived
  split at hreceived
  · case _ error hrefused =>
    cases hreceived
    exact refused_tracks htracks hmachine (hhost.refuses machine input (by rw [hrefused]; exact nofun))
  · case _ hrefused =>
    cases hreceived
    exact refused_tracks htracks hmachine (hhost.refuses machine input (by rw [hrefused]; exact nofun))
  · case _ hconsumed =>
    rw [record_machine_input_eq (hhost.bounded machine input hconsumed)] at hreceived
    have happended : ∀ {recorded : Except RecordError Unit} {next : Worker host.toPlatform},
        append faults { worker with machine := some (host.try_receive_input machine input).2 } (.MachineInput input) =
          (recorded, next) → Tracks manifest begun next := by
      intro recorded next happend
      refine append_tracks ?_ ?_ happend
      · exact fun session hmode => (htracks session hmode).active
      intro session hmode hfailure
      obtain ⟨execution, hkeeps, hat⟩ := (htracks session hmode).journal hfailure
      obtain ⟨same, hsame, halike⟩ := hat.machine
      obtain rfl := Option.some.inj (hmachine.symm.trans hsame)
      obtain ⟨hanswer, hreached⟩ := (bisimulation_indistinguishable host).receive halike input
      refine ⟨execution, { execution with machine := (host.try_receive_input execution.machine input).2 }, hkeeps,
        hat.position, ?_, hat.position, hat.virtual_instant, hat.cpu_clock, _, rfl, hreached⟩
      have hexecution : host.try_receive_input execution.machine input =
          (.ok .Consumed, (host.try_receive_input execution.machine input).2) :=
        Prod.ext (hanswer.symm.trans hconsumed) rfl
      unfold Execution.take
      dsimp only
      rw [hexecution]
    split at hreceived
    · case _ happend =>
      cases hreceived
      exact happended happend
    · case _ happend =>
      cases hreceived
      exact happended happend

theorem accept_live_input_tracks (hhost : Repeatable host) {input : MachineInput} {result : Except CommandRejection Unit}
    (htracks : Tracks manifest begun worker) (h : accept_live_input faults worker input = some (result, after)) :
    Tracks manifest begun after := by
  obtain ⟨⟨received, accepted⟩, hreceived, hafter⟩ := Option.map_eq_some_iff.mp h
  have haccepted := try_receive_input_tracks hhost htracks hreceived
  cases received with
  | error error =>
    cases hafter
    exact haccepted
  | ok answer =>
    cases answer with
    | WouldBlock =>
      cases hafter
      exact haccepted
    | Consumed =>
      cases hafter
      exact haccepted.congr ⟨rfl, rfl, rfl, rfl, rfl, rfl, rfl, rfl, rfl⟩

/-! ## Instructions -/

theorem report_storage_error_latches (hactive : session.recorder.active = true)
    (hmode : worker.mode = .Recording session) (error : IoError) :
    ∃ failed, worker.report_storage_error (some error) = { worker with mode := .Recording failed } ∧
      failed.recorder.active = true ∧ failed.recorder.failure ≠ none := by
  refine ⟨{ session with recorder := session.recorder.report_storage_error error }, ?_, ?_⟩
  · unfold Worker.report_storage_error
    rw [hmode]
  · dsimp only
    unfold RecorderInner.report_storage_error
    cases hfailure : session.recorder.failure with
    | some failure =>
      rw [hactive, if_neg (by simp)]
      exact ⟨hactive, fun hnone => nomatch hfailure.symm.trans hnone⟩
    | none =>
      rw [hactive, if_pos (by simp)]
      exact ⟨rfl, nofun⟩

theorem report_storage_error_none : worker.report_storage_error none = worker := by
  unfold Worker.report_storage_error
  split
  · case _ hstorage => cases hstorage
  · rfl

/-- What an instruction and its time leave of the worker. -/
structure Ran (storage : Option IoError) (worker : Worker host.toPlatform) (executed : host.Machine) (clock : CpuClock)
    (after : Worker host.toPlatform) : Prop where
  machine : after.machine = some (host.advance_time storage executed clock.advance_cycle.1 worker.frontend_output).1
  cpu_clock : after.cpu_clock = some clock.advance_cycle.2
  virtual_instant : after.virtual_instant = worker.virtual_instant + clock.advance_cycle.1
  position : after.position = worker.position
  mode : after.mode = (worker.report_storage_error storage).mode

theorem report_storage_error_eq (worker : Worker host.toPlatform) (storage : Option IoError) :
    ∃ mode, worker.report_storage_error storage = { worker with mode } := by
  unfold Worker.report_storage_error
  split
  · exact ⟨_, rfl⟩
  · exact ⟨worker.mode, rfl⟩

theorem report_storage_error_mode {other : Worker host.toPlatform} (hmode : other.mode = worker.mode)
    (storage : Option IoError) : (other.report_storage_error storage).mode = (worker.report_storage_error storage).mode := by
  unfold Worker.report_storage_error
  rw [hmode]
  split
  · rfl
  · exact hmode

theorem finish_machine_instruction_eq
    {advance_time : host.Machine → Nat → MachineOutput host.VideoOutput → host.Machine × MachineOutput host.VideoOutput}
    (h : Worker.finish_machine_instruction advance_time worker = some after) :
    ∃ machine clock, worker.machine = some machine ∧ worker.cpu_clock = some clock ∧ after =
      { worker with
        cpu_clock := some clock.advance_cycle.2
        virtual_instant := worker.virtual_instant + clock.advance_cycle.1
        machine := some (advance_time machine clock.advance_cycle.1 worker.frontend_output).1
        frontend_output := (advance_time machine clock.advance_cycle.1 worker.frontend_output).2
        completed_instructions := worker.completed_instructions + 1 } := by
  obtain ⟨clock, hclock, h⟩ := Option.bind_eq_some_iff.mp h
  obtain ⟨machine, hmachine, h⟩ := Option.bind_eq_some_iff.mp h
  exact ⟨machine, clock, hmachine, hclock, (Option.some.inj h).symm⟩

theorem execute_machine_instruction_ok (h : execute_machine_instruction around worker = some (.ok (), after)) :
    ∃ machine executed clock, worker.machine = some machine ∧
      host.execute_instruction around.storage machine = (.ok (), executed) ∧ worker.cpu_clock = some clock ∧
      Ran around.storage worker executed clock after := by
  obtain ⟨machine, hmachine, h⟩ := Option.bind_eq_some_iff.mp h
  split at h
  · cases h
  · case _ executed hexecuted =>
    obtain ⟨finished, hfinished, h⟩ := Option.bind_eq_some_iff.mp h
    have hafter : finished.report_storage_error around.storage = after := congrArg Prod.snd (Option.some.inj h)
    obtain ⟨same, clock, hsame, hclock, hfinal⟩ := finish_machine_instruction_eq hfinished
    obtain rfl : executed = same := Option.some.inj hsame
    refine ⟨machine, executed, clock, hmachine, hexecuted, hclock, ?_⟩
    obtain ⟨mode, hreported⟩ := report_storage_error_eq finished around.storage
    have hkept : finished.mode = worker.mode := by rw [hfinal]
    have hmode := report_storage_error_mode hkept around.storage
    rw [hafter] at hreported hmode
    rw [hfinal] at hreported
    subst hreported
    exact ⟨rfl, rfl, rfl, rfl, hmode⟩

theorem execute_machine_instruction_error {error : String}
    (h : execute_machine_instruction around worker = some (.error error, after)) :
    ∃ machine executed, worker.machine = some machine ∧
      host.execute_instruction around.storage machine = (.error error, executed) ∧ after.machine = some executed ∧
      after.position = worker.position ∧ after.mode = (worker.report_storage_error around.storage).mode := by
  obtain ⟨machine, hmachine, h⟩ := Option.bind_eq_some_iff.mp h
  split at h
  · case _ executed hexecuted =>
    cases h
    obtain ⟨mode, hreported⟩ := report_storage_error_eq { worker with machine := some executed } around.storage
    have hkept : { worker with machine := some executed }.mode = worker.mode := rfl
    have hmode := report_storage_error_mode hkept around.storage
    refine ⟨machine, executed, hmachine, hexecuted, ?_, ?_, hmode⟩
    · rw [hreported]
    · rw [hreported]
  · obtain ⟨finished, -, h⟩ := Option.bind_eq_some_iff.mp h
    cases h

theorem advance_session_position_true (h : advance_session_position worker = (true, after)) :
    worker.position.completed_instructions.toNat + 1 < 2 ^ 64 ∧
      after = { worker with position := Execution.next_position worker.position } := by
  unfold advance_session_position at h
  split at h
  · case isTrue hroom =>
    cases h
    exact ⟨hroom, rfl⟩
  · cases h

/-- After an instruction and its time, the journal goes on at the next position. -/
theorem executed_tracks {advanced : Worker host.toPlatform}
    (htracks : Tracks manifest begun worker) (h : execute_machine_instruction around worker = some (.ok (), after))
    (hadvanced : advance_session_position after = (true, advanced)) : Tracks manifest begun advanced := by
  obtain ⟨machine, executed, clock, hmachine, hexecuted, hclock, hran⟩ := execute_machine_instruction_ok h
  obtain ⟨hroom, rfl⟩ := advance_session_position_true hadvanced
  intro session hmode
  have hreported := hran.mode.symm.trans hmode
  cases hrecording : worker.mode with
  | Recording before =>
    obtain ⟨hactive, hjournal⟩ := htracks before hrecording
    cases hstorage : around.storage with
    | some error =>
      obtain ⟨failed, hfailed, hactive, hlatched⟩ := report_storage_error_latches hactive hrecording error
      rw [hstorage, hfailed] at hreported
      cases hreported
      exact ⟨hactive, fun hfailure => absurd hfailure hlatched⟩
    | none =>
      rw [hstorage, report_storage_error_none, hrecording] at hreported
      cases hreported
      refine ⟨hactive, fun hfailure => ?_⟩
      obtain ⟨execution, ⟨calls, timeline, runs, hcalls, hframes, hhistory⟩, hat⟩ := hjournal hfailure
      obtain ⟨same, hsame, halike⟩ := hat.machine
      obtain rfl := Option.some.inj (hmachine.symm.trans hsame)
      obtain rfl := Option.some.inj (hclock.symm.trans hat.cpu_clock)
      rw [hstorage] at hexecuted
      obtain ⟨hanswer, hreached⟩ := (bisimulation_indistinguishable host).execute halike
      rw [hexecuted] at hanswer hreached
      have hexecution : host.execute_instruction none execution.machine =
          (.ok (), (host.execute_instruction none execution.machine).2) := Prod.ext hanswer.symm rfl
      have hrun := Execution.run_eq_some hexecution (hat.position ▸ hran.position ▸ hroom)
      refine ⟨_, ⟨calls, timeline, runs + 1, hcalls, hframes, hhistory.snoc_run hrun⟩, ?_, ?_, hran.cpu_clock, _,
        hran.machine, ?_⟩
      · exact congrArg Execution.next_position (hran.position.trans hat.position)
      · exact hran.virtual_instant.trans (congrArg (· + _) hat.virtual_instant)
      · rw [hstorage]
        exact (bisimulation_indistinguishable host).advance_time hreached _ _ _
  | _ =>
    unfold Worker.report_storage_error at hreported
    rw [hrecording] at hreported
    exact absurd (hrecording.symm.trans hreported) nofun

/-! ## Ends -/

/-- The outcome of a session that ends between instructions. -/
def between_instructions : RecordOutcome → Bool
  | .ExecutionError .. => false
  | _ => true

theorem committed_recorded (hcodec : host.codec.Inverts) {outcome : RecordOutcome} {machine : host.Machine}
    (hmode : worker.mode = .Recording session) (hmachine : worker.machine = some machine)
    (hends : session.recorder.failure = none → ∃ execution, Keeps manifest begun session.recorder execution ∧
      execution.Ends (worker.footer machine outcome))
    {file : List U8} (h : worker.committed faults outcome = some file) : begun.Recorded manifest file := by
  unfold Worker.committed at h
  rw [hmode, hmachine] at h
  dsimp only at h
  split at h
  · case _ finished hfinished =>
    have hok := congrArg Prod.fst hfinished
    obtain ⟨execution, hkeeps, hends⟩ := hends (RecorderInner.update_ok hok).1
    exact hkeeps.finalize hcodec hends hok ((congrArg (fun answered => answered.2.committed) hfinished).trans h)
  · cases h

/-- What a session between instructions commits is its Record so far. -/
theorem Tracks.committed (hcodec : host.codec.Inverts) (htracks : Tracks manifest begun worker) {outcome : RecordOutcome}
    (houtcome : between_instructions outcome) {file : List U8} (h : worker.committed faults outcome = some file) :
    begun.Recorded manifest file := by
  cases hmode : worker.mode with
  | Recording session =>
    cases hmachine : worker.machine with
    | none =>
      unfold Worker.committed at h
      rw [hmode, hmachine] at h
      cases h
    | some machine =>
      refine committed_recorded hcodec hmode hmachine (fun hfailure => ?_) h
      obtain ⟨execution, hkeeps, hat⟩ := (htracks session hmode).journal hfailure
      refine ⟨execution, hkeeps, hat.position, ?_⟩
      obtain ⟨same, hsame, halike⟩ := hat.machine
      obtain rfl := Option.some.inj (hmachine.symm.trans hsame)
      have hfingerprint := ((bisimulation_indistinguishable host).fingerprint halike).symm
      cases outcome with
      | ExecutionError => cases houtcome
      | _ => exact hfingerprint
  | _ =>
    unfold Worker.committed at h
    rw [hmode] at h
    cases h

/-- A Recording is over once it was stopped, whether or not its file was committed. -/
theorem stop_recording_ended {outcome : RecordOutcome} {result : Except CommandRejection RuntimeStatus}
    (h : worker.stop_recording faults outcome = some (result, after)) : after.mode.is_recording = false := by
  unfold Worker.stop_recording at h
  split at h
  · obtain ⟨machine, -, h⟩ := Option.map_eq_some_iff.mp h
    dsimp only at h
    split at h
    · cases h
      rfl
    · cases h
      rfl
  · case _ hnone =>
    cases h
    cases hmode : worker.mode with
    | Recording session => exact absurd hmode (hnone session)
    | _ => rfl

theorem stop_recording_records (hcodec : host.codec.Inverts) (h : Records manifest begun station) {outcome : RecordOutcome}
    (houtcome : between_instructions outcome) {result : Except CommandRejection RuntimeStatus}
    (hstop : station.stop_recording faults outcome = some (result, next)) : Records manifest begun next := by
  obtain ⟨⟨answer, stopped⟩, hstopped, hnext⟩ := Option.map_eq_some_iff.mp hstop
  cases hnext
  refine ⟨fun file hfile => ?_, .ended (stop_recording_ended hstopped)⟩
  obtain hcommitted | ⟨-, hdisk⟩ := Option.or_eq_some_iff.mp hfile
  · exact Tracks.committed hcodec h.tracks houtcome hcommitted
  · exact h.disk file hdisk

theorem fail_network_ended {reason : String} (h : worker.fail_network faults reason = some after) :
    after = worker ∨ after.mode.is_recording = false := by
  unfold Worker.fail_network at h
  split at h
  · exact .inl (Option.some.inj h).symm
  · dsimp only at h
    split at h
    · obtain ⟨⟨answer, stopped⟩, hstopped, rfl⟩ := Option.map_eq_some_iff.mp h
      have hended := stop_recording_ended hstopped
      exact .inr hended
    · case isFalse hmode =>
      cases h
      exact .inr (Bool.eq_false_iff.mpr hmode)

theorem fail_network_records (hcodec : host.codec.Inverts) (h : Records manifest begun station) {reason : String}
    (hfail : station.fail_network faults reason = some next) : Records manifest begun next := by
  obtain ⟨failed, hfailed, rfl⟩ := Option.map_eq_some_iff.mp hfail
  refine ⟨fun file hfile => ?_, ?_⟩
  · dsimp only at hfile
    split at hfile
    · exact h.disk file hfile
    · obtain hcommitted | ⟨-, hdisk⟩ := Option.or_eq_some_iff.mp hfile
      · exact Tracks.committed hcodec h.tracks rfl hcommitted
      · exact h.disk file hdisk
  · obtain rfl | hended := fail_network_ended hfailed
    · exact h.tracks
    · exact .ended hended

theorem replace_network_records (hcodec : host.codec.Inverts) (h : Records manifest begun station)
    {config : Option host.NatConfig} {result : Except CommandRejection Unit}
    (hreplace : station.replace_network faults config = some (result, next)) : Records manifest begun next := by
  obtain ⟨⟨answer, replaced⟩, hreplaced, hnext⟩ := Option.map_eq_some_iff.mp hreplace
  cases hnext
  refine ⟨fun file hfile => ?_, ?_⟩
  · dsimp only at hfile
    split at hfile
    · split at hfile
      · exact h.disk file hfile
      · obtain hcommitted | ⟨-, hdisk⟩ := Option.or_eq_some_iff.mp hfile
        · exact Tracks.committed hcodec h.tracks rfl hcommitted
        · exact h.disk file hdisk
    · exact h.disk file hfile
  · unfold Worker.replace_network at hreplaced
    dsimp only at hreplaced
    split at hreplaced
    · cases hreplaced
      exact h.tracks.congr ⟨rfl, rfl, rfl, rfl, rfl, rfl, rfl, rfl, rfl⟩
    · split at hreplaced
      · cases hreplaced
        exact h.tracks.congr ⟨rfl, rfl, rfl, rfl, rfl, rfl, rfl, rfl, rfl⟩
      · obtain ⟨failed, hfailed, hanswer⟩ := Option.map_eq_some_iff.mp hreplaced
        cases hanswer
        obtain rfl | hended := fail_network_ended hfailed
        · exact h.tracks.congr ⟨rfl, rfl, rfl, rfl, rfl, rfl, rfl, rfl, rfl⟩
        · exact .ended hended

theorem fail_session_ended (worker : Worker host.toPlatform) (reason : String) :
    (worker.fail_session reason).mode.is_recording = false := by
  unfold Worker.fail_session
  split
  · rfl
  · rfl
  · case _ hnone _ =>
    cases hmode : worker.mode with
    | Recording session => exact absurd hmode (hnone session)
    | _ => rfl

theorem check_record_failure_tracks (htracks : Tracks manifest begun worker) :
    Tracks manifest begun worker.check_record_failure := by
  unfold Worker.check_record_failure
  split
  · split
    · exact .ended rfl
    · exact htracks
  · exact htracks

/-! ## The network -/

theorem take_failure_records (hcodec : host.codec.Inverts) (h : Records manifest begun station)
    (htake : take_failure around station = some next) : Records manifest begun next := by
  unfold take_failure at htake
  split at htake
  · exact fail_network_records hcodec h htake
  · cases htake
    exact h

theorem process_network_boundary_records (hcodec : host.codec.Inverts) (hhost : Repeatable host)
    (h : Records manifest begun station) (hboundary : process_network_boundary around station = some next) :
    Records manifest begun next := by
  unfold process_network_boundary at hboundary
  split at hboundary
  · cases hboundary
    exact h
  · obtain ⟨pending, -, hboundary⟩ := Option.bind_eq_some_iff.mp hboundary
    have hwaiting : ∀ pending_network_input : Option MachineInput,
        Tracks manifest begun { station.worker with pending_network_input } :=
      fun _ => h.tracks.congr ⟨rfl, rfl, rfl, rfl, rfl, rfl, rfl, rfl, rfl⟩
    dsimp only at hboundary
    split at hboundary
    · exact take_failure_records hcodec (h.with_worker (hwaiting _)) hboundary
    · case _ input =>
      obtain ⟨machine, -, hboundary⟩ := Option.bind_eq_some_iff.mp hboundary
      split at hboundary
      · cases hboundary
        exact h.with_worker (.ended (fail_session_ended _ _))
      · exact take_failure_records hcodec (h.with_worker (hwaiting _)) hboundary
      · obtain ⟨⟨result, received⟩, hreceived, hboundary⟩ := Option.bind_eq_some_iff.mp hboundary
        have htracks := try_receive_input_tracks hhost (hwaiting none) hreceived
        split at hboundary
        · cases hboundary
          exact h.with_worker (.ended (fail_session_ended _ _))
        · case _ blocked hblocked =>
          cases hblocked
          have hheld : Tracks manifest begun { received with pending_network_input := some input } :=
            htracks.congr ⟨rfl, rfl, rfl, rfl, rfl, rfl, rfl, rfl, rfl⟩
          exact take_failure_records hcodec (h.with_worker hheld) hboundary
        · case _ consumed hconsumed =>
          cases hconsumed
          exact take_failure_records hcodec (h.with_worker htracks) hboundary

/-! ## Instructions of a Recording -/

theorem execute_recording_instruction_records (hcodec : host.codec.Inverts) (hhost : Repeatable host)
    (h : Records manifest begun station)
    (hexecute : execute_recording_instruction around station = some (.ok (), next)) : Records manifest begun next := by
  obtain ⟨⟨result, executed⟩, hexecuted, hexecute⟩ := Option.bind_eq_some_iff.mp hexecute
  split at hexecute
  · cases hexecute
  · case _ heq =>
    cases heq
    split at hexecute
    · case _ advanced hadvanced =>
      cases hexecute
      refine h.with_worker ?_
      unfold advance_session_position at hadvanced
      split at hadvanced
      · cases hadvanced
      · cases hadvanced
        exact .ended (fail_session_ended _ _)
    · case _ advanced hadvanced =>
      obtain ⟨bounded, hbounded, hexecute⟩ := Option.bind_eq_some_iff.mp hexecute
      have htracks := executed_tracks h.tracks hexecuted hadvanced
      have hrecords := process_network_boundary_records hcodec hhost (h.with_worker htracks) hbounded
      obtain ⟨⟨recorded, checked⟩, hchecked, hexecute⟩ := Option.bind_eq_some_iff.mp hexecute
      have hkept := record_checkpoint_if_due_tracks (check_record_failure_tracks hrecords.tracks) hchecked
      split at hexecute
      · cases hexecute
        exact hrecords.with_worker (.ended (fail_session_ended _ _))
      · case _ heq =>
        cases heq
        cases hexecute
        exact hrecords.with_worker hkept

/-- A worker whose instruction failed: a recorder without a failure has the journal of an
execution at whose end the instruction fails. -/
def Fails (manifest : host.RecordManifest) (begun : Execution host) (error : String) (worker : Worker host.toPlatform) :
    Prop :=
  ∀ session, worker.mode = .Recording session → session.recorder.failure = none →
    ∃ execution failed other, Keeps manifest begun session.recorder execution ∧ worker.position = execution.position ∧
      worker.machine = some failed ∧ Indistinguishable host failed other ∧
      host.execute_instruction none execution.machine = (.error error, other)

theorem failed_fails {error : String} (htracks : Tracks manifest begun worker)
    (h : execute_machine_instruction around worker = some (.error error, after)) : Fails manifest begun error after := by
  obtain ⟨machine, executed, hmachine, hexecuted, hafter, hposition, hreported⟩ := execute_machine_instruction_error h
  intro session hmode hfailure
  rw [hreported] at hmode
  cases hrecording : worker.mode with
  | Recording before =>
    obtain ⟨hactive, hjournal⟩ := htracks before hrecording
    cases hstorage : around.storage with
    | some storage_error =>
      obtain ⟨failed, hfailed, -, hlatched⟩ := report_storage_error_latches hactive hrecording storage_error
      rw [hstorage, hfailed] at hmode
      cases hmode
      exact absurd hfailure hlatched
    | none =>
      rw [hstorage, report_storage_error_none] at hmode
      obtain rfl := ActiveMode.Recording.inj (hrecording.symm.trans hmode)
      obtain ⟨execution, hkeeps, hat⟩ := hjournal hfailure
      obtain ⟨same, hsame, halike⟩ := hat.machine
      obtain rfl := Option.some.inj (hmachine.symm.trans hsame)
      obtain ⟨hanswer, hreached⟩ := (bisimulation_indistinguishable host).execute halike
      rw [hstorage] at hexecuted
      rw [hexecuted] at hanswer hreached
      exact ⟨execution, executed, _, hkeeps, hposition.trans hat.position, hafter, hreached, Prod.ext hanswer.symm rfl⟩
  | _ =>
    unfold Worker.report_storage_error at hmode
    rw [hrecording] at hmode
    exact absurd (hrecording.symm.trans hmode) nofun

theorem Fails.congr {error : String} (h : Fails manifest begun error worker) (hsame : SameSession worker after) :
    Fails manifest begun error after := by
  intro session hmode hfailure
  obtain ⟨execution, failed, other, hkeeps, hposition, hmachine, halike, hexecution⟩ :=
    h session (hsame.mode.symm.trans hmode) hfailure
  exact ⟨execution, failed, other, hkeeps, hsame.position.trans hposition, hsame.machine.trans hmachine, halike, hexecution⟩

/-! ## Failing instructions -/

theorem check_record_failure_cases (worker : Worker host.toPlatform) :
    worker.check_record_failure = worker ∨ worker.check_record_failure.mode = .RecordCompleted := by
  unfold Worker.check_record_failure
  split
  · split
    · exact .inr rfl
    · exact .inl rfl
  · exact .inl rfl

theorem set_replay_divergence_cases (worker : Worker host.toPlatform) (reason : String) :
    worker.set_replay_divergence reason = worker ∨
      ∃ session, worker.mode = .Replaying session ∧
        (worker.set_replay_divergence reason).mode = .ReplayDiverged session reason := by
  unfold Worker.set_replay_divergence
  split
  · case _ session hmode => exact .inr ⟨session, hmode, rfl⟩
  · exact .inl rfl

theorem check_replay_storage_failure_cases (worker : Worker host.toPlatform) (storage : Option IoError) :
    worker.check_replay_storage_failure storage = worker ∨
      ∃ session reason, (worker.check_replay_storage_failure storage).mode = .ReplayDiverged session reason := by
  unfold Worker.check_replay_storage_failure
  split
  · obtain hsame | ⟨session, -, hdiverged⟩ := set_replay_divergence_cases worker _
    · exact .inl hsame
    · exact .inr ⟨session, _, hdiverged⟩
  · exact .inl rfl

/-- What ends with a failing instruction is a Record that ends in its error. -/
theorem Fails.committed (hcodec : host.codec.Inverts) {error : String} (hfails : Fails manifest begun error worker)
    {file : List U8}
    (h : worker.committed faults (.ExecutionError ((worker.machine.map host.execution_address).getD 0) error) = some file) :
    begun.Recorded manifest file := by
  cases hmode : worker.mode with
  | Recording session =>
    cases hmachine : worker.machine with
    | none =>
      unfold Worker.committed at h
      rw [hmode, hmachine] at h
      cases h
    | some machine =>
      refine committed_recorded hcodec hmode hmachine (fun hfailure => ?_) h
      obtain ⟨execution, failed, other, hkeeps, hposition, hfailed, halike, hexecution⟩ := hfails session hmode hfailure
      obtain rfl := Option.some.inj (hmachine.symm.trans hfailed)
      refine ⟨execution, hkeeps, hposition, other, hexecution, ?_, ?_⟩
      · rw [hmachine]
        exact ((bisimulation_indistinguishable host).execution_address halike).symm
      · exact ((bisimulation_indistinguishable host).fingerprint halike).symm
  | _ =>
    unfold Worker.committed at h
    rw [hmode] at h
    cases h

theorem handle_execution_error_records (hcodec : host.codec.Inverts) {error : String}
    (hdisk : ∀ file, station.disk = some file → begun.Recorded manifest file)
    (hfails : Fails manifest begun error station.worker)
    (h : handle_execution_error around station error = some next) : Records manifest begun next := by
  unfold handle_execution_error at h
  dsimp only at h
  generalize hworker : Worker.check_replay_storage_failure _ _ = worker at h
  split at h
  · case _ session hmode =>
    have hdiverged : ∀ reason, Records manifest begun (station.with_worker (worker.set_replay_divergence reason)) := by
      intro reason
      refine ⟨hdisk, .ended ?_⟩
      unfold Worker.set_replay_divergence
      rw [hmode]
      rfl
    split at h
    · obtain ⟨verified, -, h⟩ := Option.map_eq_some_iff.mp h
      split at h
      · subst h
        refine ⟨hdisk, .ended ?_⟩
        dsimp only [with_worker]
        unfold Worker.complete_replay
        rw [hmode]
        rfl
      · subst h
        exact hdiverged _
    · cases h
      exact hdiverged _
  · case _ session hmode =>
    have hsame : SameSession station.worker worker := by
      obtain hchecked | ⟨diverged, reason, hdiverged⟩ :=
        check_replay_storage_failure_cases ({ station.worker with last_error := some error }.check_record_failure) around.storage
      · rw [hworker] at hchecked
        obtain hrecord | hcompleted := check_record_failure_cases { station.worker with last_error := some error }
        · rw [hchecked, hrecord]
          exact ⟨rfl, rfl, rfl, rfl, rfl, rfl, rfl, rfl, rfl⟩
        · rw [← hchecked, hmode] at hcompleted
          cases hcompleted
      · rw [hworker, hmode] at hdiverged
        cases hdiverged
    obtain ⟨⟨result, stopped⟩, hstopped, h⟩ := Option.bind_eq_some_iff.mp h
    obtain ⟨⟨answer, ended⟩, hended, hstation⟩ := Option.map_eq_some_iff.mp hstopped
    have hover := stop_recording_ended hended
    have hrecords : ∀ file, ((station.with_worker worker).worker.committed around.finalize_faults
        (.ExecutionError ((station.worker.machine.map host.execution_address).getD 0) error)).or station.disk = some file →
          begun.Recorded manifest file := by
      intro file hfile
      obtain hcommitted | ⟨-, hkept⟩ := Option.or_eq_some_iff.mp hfile
      · rw [← hsame.machine] at hcommitted
        exact Fails.committed hcodec (hfails.congr hsame) hcommitted
      · exact hdisk file hkept
    have hcomplete : Records manifest begun stopped := by
      cases hstation
      exact ⟨hrecords, .ended hover⟩
    split at h
    · case _ heq =>
      cases heq
      cases h
      exact hcomplete.congr ⟨rfl, rfl, rfl, rfl, rfl, rfl, rfl, rfl, rfl⟩
    · case _ heq =>
      cases heq
      cases h
      exact hcomplete
  · case _ hreplaying hrecording =>
    cases h
    refine ⟨hdisk, fun session hmode => absurd hmode (hrecording session)⟩

/-! ## Resets -/

theorem append_rejected {action : TimelineAction} {error : RecordError} (htracks : Tracks manifest begun worker)
    (h : append faults worker action = (.error error, after)) : Tracks manifest begun after := by
  intro session hmode
  unfold append at h
  split at h
  · case _ before hbefore =>
    obtain ⟨hrejected, rfl⟩ := Prod.mk.inj h
    cases hmode
    refine ⟨(append_active _ _).trans (htracks before hbefore).active, fun hfailure => ?_⟩
    have hok := (append_failure hfailure).2
    rw [hrejected] at hok
    cases hok
  · cases h

/-- What a reset leaves of the machine and its clocks. -/
theorem reset_machine_cases (h : worker.reset_machine = some after) :
    ∃ machine clock, worker.machine = some machine ∧ worker.cpu_clock = some clock ∧
      after.machine = some (host.reset machine) ∧ after.cpu_clock = some clock.reset ∧ after.virtual_instant = 0 ∧
      after.position = worker.position ∧ after.mode = worker.mode := by
  obtain ⟨machine, hmachine, h⟩ := Option.bind_eq_some_iff.mp h
  obtain ⟨clock, hclock, h⟩ := Option.bind_eq_some_iff.mp h
  obtain rfl := Option.some.inj h
  obtain ⟨frontend_output, hqueued⟩ := Worker.queue_current_outputs_eq
    { worker with
      machine := some (host.reset machine)
      cpu_clock := some clock.reset
      virtual_instant := 0
      pending_network_input := none
      frontend_output := []
      last_error := none
      ignore_breakpoint_once := none }
  refine ⟨machine, clock, hmachine, hclock, ?_⟩
  rw [hqueued]
  exact ⟨rfl, rfl, rfl, rfl, rfl⟩

/-- The reset is written for the machine that is then reset. -/
theorem reset_tracks {appended reset : Worker host.toPlatform} (htracks : Tracks manifest begun worker)
    (hroom : worker.mode.is_recording = true → worker.position.epoch.toNat + 1 < 2 ^ 64)
    (happend : append faults worker .Reset = (.ok (), appended)) (hreset : appended.reset_machine = some reset) :
    Tracks manifest begun
      { reset with
        network_error := none
        position :=
          if reset.mode.is_recording then { epoch := reset.position.epoch + 1, completed_instructions := 0 }
          else reset.position
        state := .Paused } := by
  obtain ⟨machine, clock, hmachine, hclock, hreached, hcpu, hinstant, hposition, hmode⟩ := reset_machine_cases hreset
  unfold append at happend
  split at happend
  · case _ before hbefore =>
    have hrecording : worker.mode.is_recording = true := by rw [hbefore]; rfl
    obtain ⟨-, rfl⟩ := Prod.mk.inj happend
    dsimp only at hmachine hclock hposition hmode
    intro session hsession
    dsimp only at hsession
    obtain rfl := ActiveMode.Recording.inj (hmode.symm.trans hsession)
    refine ⟨(append_active _ _).trans (htracks before hbefore).active, fun hfailure => ?_⟩
    obtain ⟨execution, hkeeps, hat⟩ := (htracks before hbefore).journal (append_failure hfailure).1
    obtain ⟨same, hsame, halike⟩ := hat.machine
    obtain rfl := Option.some.inj (hmachine.symm.trans hsame)
    obtain rfl := Option.some.inj (hclock.symm.trans hat.cpu_clock)
    refine ⟨_, hkeeps.append hat.position (if_pos (hat.position ▸ hroom hrecording)), ?_, hinstant, hcpu, _, hreached,
      (bisimulation_indistinguishable host).reset halike⟩
    dsimp only
    rw [hsession, hposition, hat.position]
    rfl
  · case _ hnone =>
    cases happend
    exact .ended (by
      dsimp only
      rw [hmode]
      cases hworker : worker.mode with
      | Recording session => exact absurd hworker (hnone session)
      | _ => rfl)

theorem reset_recorded_records {result : Except CommandRejection RuntimeStatus} (h : Records manifest begun station)
    (hroom : station.worker.mode.is_recording = true → station.worker.position.epoch.toNat + 1 < 2 ^ 64)
    (hreset : reset_recorded around station = some (result, next)) : Records manifest begun next := by
  unfold reset_recorded at hreset
  split at hreset
  · case _ happend =>
    cases hreset
    exact h.with_worker (append_rejected h.tracks happend)
  · case _ happend =>
    obtain ⟨reset, hmachine, hreset⟩ := Option.bind_eq_some_iff.mp hreset
    obtain ⟨⟨recorded, checked⟩, hchecked, hreset⟩ := Option.bind_eq_some_iff.mp hreset
    have htracks := record_checkpoint_tracks (reset_tracks h.tracks hroom happend hmachine) hchecked
    split at hreset
    · case _ heq =>
      cases heq
      cases hreset
      exact h.with_worker htracks
    · case _ heq =>
      cases heq
      obtain ⟨delivered, hdelivered, hreset⟩ := Option.bind_eq_some_iff.mp hreset
      cases hreset
      have hdeadline : Tracks manifest begun (with_session checked RecordingSession.reset_checkpoint_deadline) :=
        with_session_tracks (fun _ => rfl) htracks
      have hrevised : Tracks manifest begun
          (with_session checked RecordingSession.reset_checkpoint_deadline).advance_revision :=
        hdeadline.congr ⟨rfl, rfl, rfl, rfl, rfl, rfl, rfl, rfl, rfl⟩
      exact h.with_worker (hrevised.congr (.deliver_output hdelivered))

/-- A network session that starts anew changes nothing in the session of the machine. -/
theorem replace_network_same {config : Option host.NatConfig} (h : worker.replace_network faults config = some (.ok (), after)) :
    SameSession worker after := by
  unfold Worker.replace_network at h
  dsimp only at h
  split at h
  · cases h
    exact ⟨rfl, rfl, rfl, rfl, rfl, rfl, rfl, rfl, rfl⟩
  · split at h
    · cases h
      exact ⟨rfl, rfl, rfl, rfl, rfl, rfl, rfl, rfl, rfl⟩
    · obtain ⟨failed, -, hanswer⟩ := Option.map_eq_some_iff.mp h
      cases hanswer

theorem reset_records (hcodec : host.codec.Inverts) {result : Except CommandRejection RuntimeStatus}
    (h : Records manifest begun station) (hreset : reset around station = some (result, next)) :
    Records manifest begun next := by
  unfold reset at hreset
  split at hreset
  · cases hreset
    exact h
  · split at hreset
    · cases hreset
      exact h
    · case isFalse hguard =>
      have hroom : station.worker.mode.is_recording = true → station.worker.position.epoch.toNat + 1 < 2 ^ 64 := by
        intro hrecording
        rw [hrecording, Bool.true_and, decide_eq_true_eq] at hguard
        omega
      split at hreset
      · exact reset_recorded_records h hroom hreset
      · split at hreset
        · cases hreset
        · case _ hreplace =>
          cases hreset
          exact replace_network_records hcodec h hreplace
        · case _ replaced hreplace =>
          have hrecords := replace_network_records hcodec h hreplace
          refine reset_recorded_records hrecords ?_ hreset
          obtain ⟨⟨answer, worker⟩, hreplaced, hanswer⟩ := Option.map_eq_some_iff.mp hreplace
          obtain ⟨rfl, rfl⟩ := Prod.mk.inj hanswer
          have hsame := replace_network_same hreplaced
          dsimp only
          rw [hsame.mode, hsame.position]
          exact hroom

end Station

end se_runtime.runtime
