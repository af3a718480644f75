import SgiEmu.Runtime.Catalog
import SgiEmu.Runtime.Record.RoundTrip
import SgiEmu.Runtime.Worker.Replayed

open se_core se_core.storage se_core.time se_machine se_runtime.record

namespace se_runtime.runtime

variable {host : Host} {worker after : Worker host.toPlatform} {session : ReplaySession}
  {entries : List TimelineEntry} {faults : FileFaults}

/-! ## Snapshots of a Replay -/

/-- The checks on a snapshot's place in a Record. -/
def validate_replay_snapshot {State : Type} (identity : RecordIdentity) (record : Replayer host.RecordManifest)
    (snapshot : ReplaySnapshot State) : Except RecordError Unit :=
  if snapshot.record ≠ identity then .error (invalid_record "Replay snapshot belongs to a different Record")
  else if decide (record.timeline.length < snapshot.timeline_cursor) ||
      decide (record.footer.position < snapshot.position) then
    .error (invalid_record "Replay snapshot contains an invalid execution position")
  else if ((record.timeline.take snapshot.timeline_cursor).getLast?.any fun entry =>
        decide (snapshot.position < entry.position)) ||
      (record.timeline.drop snapshot.timeline_cursor).head?.any fun entry =>
        !decide (snapshot.position < entry.position) then
    .error (invalid_record "Replay snapshot Timeline cursor is inconsistent")
  else if snapshot.last_verified_checkpoint ≠ Station.last_checkpoint record.timeline snapshot.timeline_cursor then
    .error (invalid_record "Replay snapshot checkpoint history is inconsistent")
  else .ok ()

/-- The replayer that starts where a snapshot was taken. -/
def restored (record : Replayer host.RecordManifest) (snapshot : ReplaySnapshot (Station.SnapshotState host)) :
    SnapshotReplayer host.toPlatform :=
  { toReplayer := record
    initial_cursor := snapshot.timeline_cursor
    restore_state := some
      { position := snapshot.position
        completed_instructions := snapshot.state.completed_instructions
        virtual_instant := snapshot.state.virtual_instant
        cpu_clock_remainder := snapshot.state.cpu_clock_remainder
        machine_fingerprint := snapshot.machine_fingerprint
        machine := snapshot.state.machine } }

def install_snapshot (identity : RecordIdentity) (record : Replayer host.RecordManifest)
    (snapshot : ReplaySnapshot (Station.SnapshotState host)) : Except RecordError (SnapshotReplayer host.toPlatform) :=
  (validate_replay_snapshot identity record snapshot).map fun _ => restored record snapshot

/-- The replayers that a Record's file opens, whole or at a snapshot. -/
inductive Opens (host : Host) : SnapshotReplayer host.toPlatform → Prop where
  | record {file : List U8} {record : Replayer host.RecordManifest} (hparsed : parse_record host.codec file = .ok record) :
    Opens host (Station.opened record)
  | snapshot {file : List U8} {record : Replayer host.RecordManifest} {identity : RecordIdentity}
    {snapshot : ReplaySnapshot (Station.SnapshotState host)} {replayer : SnapshotReplayer host.toPlatform}
    (hparsed : parse_record host.codec file = .ok record) (hinstalled : install_snapshot identity record snapshot = .ok replayer) :
    Opens host replayer

/-! ## The place of a Replay -/

namespace ReplaySession

/-- No entry of the session is before the one that precedes it, nor the end before any. -/
def Ordered (session : ReplaySession) : Prop := NonDecreasing (record_positions session.timeline session.footer)

/-- The session took the entries up to a position, has the others ahead, and is not past its end. -/
structure StandsAt (session : ReplaySession) (position : ExecutionPosition) : Prop where
  cursor : session.cursor ≤ session.timeline.length
  taken : ∀ entry ∈ session.timeline.take session.cursor, entry.position.rank ≤ position.rank
  ahead : ∀ entry ∈ session.timeline.drop session.cursor, position.rank < entry.position.rank
  within : position.rank ≤ session.footer.position.rank
  goes_on : position = session.footer.position → Station.between_instructions session.footer.outcome = false

end ReplaySession

/-- The clock of a machine that was configured, as it counts its cycles. -/
def Worker.Clocked (worker : Worker host.toPlatform) : Prop :=
  ∃ clock frequency_hz, ∃ hpositive : 0 < frequency_hz, worker.cpu_clock = some clock ∧
    clock.Counts (CpuClock.cycle frequency_hz hpositive)

/-- In order is in order for any two. -/
theorem nonDecreasing_ranks {positions : List ExecutionPosition} :
    NonDecreasing positions ↔ positions.Pairwise fun before after => before.rank ≤ after.rank := by
  have hstep : NonDecreasing positions ↔ positions.IsChain fun before after => before.rank ≤ after.rank := by
    unfold NonDecreasing
    constructor
    · exact fun h => h.imp fun _ _ hle => Nat.not_lt.mp fun hlt => hle (ExecutionPosition.lt_iff_rank_lt.mpr hlt)
    · exact fun h => h.imp fun _ _ hle hlt => absurd (ExecutionPosition.lt_iff_rank_lt.mp hlt) (Nat.not_lt.mpr hle)
  have htrans : IsTrans ExecutionPosition fun before after => before.rank ≤ after.rank := ⟨fun _ _ _ => Nat.le_trans⟩
  exact hstep.trans List.isChain_iff_pairwise

/-- The entries of an ordered session are in order, and none is past its end. -/
theorem ordered_ranks (h : session.Ordered) :
    (session.timeline.Pairwise fun before after => before.position.rank ≤ after.position.rank) ∧
      ∀ entry ∈ session.timeline, entry.position.rank ≤ session.footer.position.rank := by
  have hpairs := nonDecreasing_ranks.mp h
  unfold record_positions at hpairs
  rw [List.pairwise_append] at hpairs
  obtain ⟨hbefore, -, hend⟩ := hpairs
  rw [List.pairwise_map] at hbefore
  refine ⟨hbefore, fun entry hentry => ?_⟩
  exact hend _ (List.mem_map_of_mem hentry) _ (List.mem_singleton_self _)

/-- Where the next entry is ahead, all that follow it are. -/
theorem ahead_of_head {rank : Nat} (hordered : entries.Pairwise fun before after => before.position.rank ≤ after.position.rank)
    (hhead : ∀ entry ∈ entries.head?, rank < entry.position.rank) : ∀ entry ∈ entries, rank < entry.position.rank := by
  cases entries with
  | nil => exact nofun
  | cons first later =>
    have hfirst := hhead first rfl
    intro entry hentry
    obtain rfl | hlater := List.mem_cons.mp hentry
    · exact hfirst
    · exact Nat.lt_of_lt_of_le hfirst (List.rel_of_pairwise_cons hordered hlater)

/-- Where the last entry is not ahead, none before it is. -/
theorem taken_of_last {rank : Nat} (hordered : entries.Pairwise fun before after => before.position.rank ≤ after.position.rank)
    (hlast : ∀ entry ∈ entries.getLast?, entry.position.rank ≤ rank) : ∀ entry ∈ entries, entry.position.rank ≤ rank := by
  obtain rfl | ⟨before, last, rfl⟩ := List.eq_nil_or_concat' entries
  · exact nofun
  · have hend := hlast last (by rw [List.getLast?_append, List.getLast?_singleton]; rfl)
    intro entry hentry
    obtain hbefore | hhere := List.mem_append.mp hentry
    · exact Nat.le_trans ((List.pairwise_append.mp hordered).2.2 entry hbefore last (List.mem_singleton_self last)) hend
    · rw [List.mem_singleton.mp hhere]
      exact hend

/-- The cursor of a session counts the entries that are not ahead of it. -/
theorem cursor_eq {position : ExecutionPosition} (h : session.StandsAt position) :
    session.cursor = session.timeline.countP fun entry => !decide (position < entry.position) := by
  have htaken : (session.timeline.take session.cursor).countP (fun entry => !decide (position < entry.position)) =
      (session.timeline.take session.cursor).length := by
    refine List.countP_eq_length.mpr fun entry hentry => ?_
    rw [Bool.not_eq_true', decide_eq_false_iff_not]
    exact fun hlt => absurd (ExecutionPosition.lt_iff_rank_lt.mp hlt) (Nat.not_lt.mpr (h.taken entry hentry))
  have hahead : (session.timeline.drop session.cursor).countP (fun entry => !decide (position < entry.position)) = 0 := by
    refine List.countP_eq_zero.mpr fun entry hentry => ?_
    rw [Bool.not_eq_true', decide_eq_false_iff_not, not_not]
    exact ExecutionPosition.lt_iff_rank_lt.mpr (h.ahead entry hentry)
  have hparts := congrArg (List.countP fun entry : TimelineEntry => !decide (position < entry.position))
    (List.take_append_drop session.cursor session.timeline)
  rw [List.countP_append, htaken, hahead, List.length_take, Nat.min_eq_left h.cursor] at hparts
  exact hparts

/-! ## Replays of any Record -/

theorem reset_machine_clocked (h : worker.Clocked) (hreset : worker.reset_machine = some after) : after.Clocked := by
  obtain ⟨clock, frequency_hz, hpositive, hclock, hcounts⟩ := h
  obtain ⟨machine, same, -, hsame, -, hcpu, -⟩ := Station.reset_machine_cases hreset
  obtain rfl := Option.some.inj (hclock.symm.trans hsame)
  exact ⟨_, frequency_hz, hpositive, hcpu, hcounts.at_remainder hpositive⟩

/-- An action keeps the clock of a Replay. -/
theorem replay_action_clocked {action : TimelineAction} (hclocked : worker.Clocked)
    (h : worker.replay_action action = some (.ok (), after)) : after.Clocked := by
  cases action with
  | MachineInput input =>
    obtain ⟨machine, -, h⟩ := Option.map_eq_some_iff.mp h
    dsimp only at h
    split at h
    · cases h
      exact hclocked
    · cases h
    · cases h
  | Reset =>
    change (if _ then _ else _) = _ at h
    split at h
    · obtain ⟨reset, hreset, h⟩ := Option.map_eq_some_iff.mp h
      cases h
      have hreset_clocked := reset_machine_clocked hclocked hreset
      exact hreset_clocked
    · cases h
  | Checkpoint digest =>
    obtain ⟨machine, -, h⟩ := Option.map_eq_some_iff.mp h
    split at h
    · cases h
      exact hclocked
    · cases h

/-- An action never takes a Replay back. -/
theorem replay_action_forward {action : TimelineAction} (h : worker.replay_action action = some (.ok (), after)) :
    worker.position.rank ≤ after.position.rank := by
  cases action with
  | MachineInput input =>
    obtain ⟨machine, -, h⟩ := Option.map_eq_some_iff.mp h
    dsimp only at h
    split at h
    · cases h
      exact Nat.le_refl _
    · cases h
    · cases h
  | Reset =>
    change (if _ then _ else _) = _ at h
    split at h
    · case isTrue hroom =>
      obtain ⟨reset, hreset, h⟩ := Option.map_eq_some_iff.mp h
      cases h
      obtain ⟨machine, clock, -, -, -, -, -, hposition, -⟩ := Station.reset_machine_cases hreset
      dsimp only
      rw [hposition]
      exact Nat.le_of_lt (Execution.rank_reset hroom)
    · cases h
  | Checkpoint digest =>
    obtain ⟨machine, -, h⟩ := Option.map_eq_some_iff.mp h
    split at h
    · cases h
      exact Nat.le_refl _
    · cases h

/-- The entries that are taken are those that are due, and the ones left are ahead. -/
theorem replay_entries_stands (hmode : worker.mode = .Replaying session)
    (hentries : session.timeline.drop session.cursor = entries) (hwithin : session.cursor ≤ session.timeline.length)
    (htaken : ∀ entry ∈ session.timeline.take session.cursor, entry.position.rank ≤ worker.position.rank)
    (hclocked : worker.Clocked) (h : worker.replay_entries session entries = some (.ok (), after)) :
    ∃ cursor, after.mode = .Replaying { session with cursor } ∧ cursor ≤ session.timeline.length ∧
      (∀ entry ∈ session.timeline.take cursor, entry.position.rank ≤ after.position.rank) ∧
      (∀ entry ∈ (session.timeline.drop cursor).head?, after.position.rank < entry.position.rank) ∧ after.Clocked := by
  induction entries generalizing session worker with
  | nil =>
    cases h
    refine ⟨session.cursor, hmode, hwithin, htaken, ?_, hclocked⟩
    rw [hentries]
    exact nofun
  | cons entry entries ih =>
    unfold Worker.replay_entries at h
    split at h
    · cases h
    · case isFalse hpassed =>
      split at h
      · case isTrue hdue =>
        split at h
        · cases h
        · cases h
        · case _ acted haction =>
          have hforward := replay_action_forward haction
          have hlength := congrArg List.length hentries
          rw [List.length_drop, List.length_cons] at hlength
          have hroom : session.cursor < session.timeline.length := by omega
          have hhere : session.timeline[session.cursor] = entry := by
            have hsplit := List.drop_eq_getElem_cons hroom
            rw [hentries] at hsplit
            exact (List.cons.inj hsplit).1.symm
          have hrest : session.advance.timeline.drop session.advance.cursor = entries := by
            change session.timeline.drop (session.cursor + 1) = entries
            rw [← List.drop_drop, hentries]
            rfl
          have hadvanced : acted.mode = .Replaying session.advance := (Onward.replay_action haction).2
          have hmore : ∀ taken ∈ session.advance.timeline.take session.advance.cursor,
              taken.position.rank ≤ acted.position.rank := by
            intro taken hmember
            change taken ∈ session.timeline.take (session.cursor + 1) at hmember
            rw [List.take_succ_eq_append_getElem hroom, List.mem_append, List.mem_singleton, hhere] at hmember
            obtain hbefore | rfl := hmember
            · exact Nat.le_trans (htaken taken hbefore) hforward
            · rw [hdue]
              exact hforward
          have hacting : Worker.Clocked { worker with mode := .Replaying session.advance } := hclocked
          obtain ⟨cursor, hcursor, hend, htook, hnext⟩ :=
            ih hadvanced hrest hroom hmore (replay_action_clocked hacting haction) h
          exact ⟨cursor, hcursor, hend, htook, hnext⟩
      · case isFalse hdue =>
        cases h
        refine ⟨session.cursor, hmode, hwithin, htaken, ?_, hclocked⟩
        rw [hentries]
        intro head hhead
        cases hhead
        have hle := Nat.not_lt.mp fun hlt => hpassed (ExecutionPosition.lt_iff_rank_lt.mpr hlt)
        exact Nat.lt_of_le_of_ne hle fun hrank => hdue (ExecutionPosition.rank_inj.mp hrank).symm

/-- A session in order, standing at a position, and its machine with a clock. -/
def Placed (worker : Worker host.toPlatform) : Prop :=
  ∀ session, worker.mode = .Replaying session → session.Ordered ∧ session.StandsAt worker.position ∧ worker.Clocked

theorem placed_outside (hmode : worker.mode.is_replay = false) : Placed worker := by
  intro session hreplaying
  rw [hreplaying] at hmode
  cases hmode

theorem placed_congr (h : Placed worker) (hmode : after.mode = worker.mode) (hposition : after.position = worker.position)
    (hclock : after.cpu_clock = worker.cpu_clock) : Placed after := by
  intro session hreplaying
  unfold Worker.Clocked
  rw [hposition, hclock]
  exact h session (hmode.symm.trans hreplaying)

theorem placed_failed (worker : Worker host.toPlatform) (reason : String) : Placed (worker.fail_session reason) := by
  intro session hreplaying
  unfold Worker.fail_session at hreplaying
  split at hreplaying
  · cases hreplaying
  · cases hreplaying
  · case _ hnone => exact absurd hreplaying (hnone session)

theorem placed_diverged (worker : Worker host.toPlatform) (reason : String) :
    Placed (worker.set_replay_divergence reason) := by
  intro session hreplaying
  unfold Worker.set_replay_divergence at hreplaying
  split at hreplaying
  · cases hreplaying
  · case _ hnone => exact absurd hreplaying (hnone session)

/-- After a boundary without an error a Replay stands at its position. -/
theorem process_replay_boundary_stands (hmode : worker.mode = .Replaying session) (hordered : session.Ordered)
    (hwithin : session.cursor ≤ session.timeline.length)
    (htaken : ∀ entry ∈ session.timeline.take session.cursor, entry.position.rank ≤ worker.position.rank)
    (hclocked : worker.Clocked) (h : worker.process_replay_boundary = some (.ok (), after)) : Placed after := by
  unfold Worker.process_replay_boundary at h
  rw [hmode] at h
  dsimp only at h
  split at h
  · case _ taken hentries =>
    obtain ⟨cursor, hcursor, hend, htook, hnext, hstays⟩ :=
      replay_entries_stands hmode rfl hwithin htaken hclocked hentries
    rw [hcursor] at h
    dsimp only at h
    unfold Worker.finish_replay_boundary at h
    split at h
    · cases h
    · case isFalse hpassed =>
      have hahead := ahead_of_head ((ordered_ranks hordered).1.sublist (List.drop_sublist cursor session.timeline)) hnext
      have hreached := Nat.not_lt.mp fun hlt => hpassed (ExecutionPosition.lt_iff_rank_lt.mpr hlt)
      have hplaced : (taken.position = session.footer.position → Station.between_instructions session.footer.outcome = false) →
          Placed taken := by
        intro hgoes same hsame
        obtain rfl := ActiveMode.Replaying.inj (hcursor.symm.trans hsame)
        exact ⟨hordered, ⟨hend, htook, hahead, hreached, hgoes⟩, hstays⟩
      split at h
      · case isTrue hbefore =>
        cases h
        exact hplaced fun hat => absurd hat hbefore
      · split at h
        · cases h
        · split at h
          · case _ houtcome =>
            cases h
            refine hplaced fun _ => ?_
            rw [show session.footer.outcome = _ from houtcome]
            rfl
          · obtain ⟨verified, -, h⟩ := Option.map_eq_some_iff.mp h
            cases verified with
            | error reason => cases h
            | ok =>
              cases h
              intro reached hreached
              rw [complete_replay_eq hcursor] at hreached
              cases hreached
  · case _ hinterrupted => exact absurd h (hinterrupted after)

namespace Station

variable {station next : Station host} {around : Surroundings}

/-- No step begins a Replay. -/
theorem placed_onward (h : Onward worker after) (houtside : ∀ session, worker.mode ≠ .Replaying session) : Placed after := by
  intro session hreplaying
  have hproceeds := h.mode
  rw [hreplaying] at hproceeds
  generalize worker.mode = before at hproceeds houtside
  cases hproceeds with
  | same => exact absurd rfl (houtside session)
  | replayed before cursor => exact absurd rfl (houtside before)

/-- The boundary after an instruction, at the position after it. -/
theorem finish_replay_instruction_stands (hmode : worker.mode = .Replaying session) (hordered : session.Ordered)
    (hwithin : session.cursor ≤ session.timeline.length)
    (htaken : ∀ entry ∈ session.timeline.take session.cursor, entry.position.rank ≤ worker.position.rank)
    (hclocked : worker.Clocked) (h : finish_replay_instruction worker = some after) : Placed after := by
  unfold finish_replay_instruction at h
  split at h
  · obtain ⟨⟨result, bounded⟩, hbounded, rfl⟩ := Option.map_eq_some_iff.mp h
    cases result with
    | ok => exact process_replay_boundary_stands hmode hordered hwithin htaken hclocked hbounded
    | error reason => exact placed_diverged bounded reason
  · case isFalse hdue =>
    cases h
    obtain ⟨hnext, hend⟩ := boundary_not_due hmode (Bool.eq_false_iff.mpr hdue)
    intro same hsame
    obtain rfl := ActiveMode.Replaying.inj (hmode.symm.trans hsame)
    have hahead := ahead_of_head ((ordered_ranks hordered).1.sublist (List.drop_sublist session.cursor session.timeline)) hnext
    refine ⟨hordered, ⟨hwithin, htaken, hahead, Nat.le_of_lt hend, fun hat => ?_⟩, hclocked⟩
    rw [hat] at hend
    exact absurd hend (Nat.lt_irrefl _)

theorem execute_replay_instruction_placed (h : Placed station.worker)
    (hexecute : execute_replay_instruction around station = some (.ok (), next)) : Placed next.worker := by
  by_cases hreplaying : ∃ session, station.worker.mode = .Replaying session
  · obtain ⟨session, hmode⟩ := hreplaying
    obtain ⟨hordered, hstands, clock, frequency_hz, hpositive, hclock, hcounts⟩ := h session hmode
    obtain ⟨machine, -, hexecute⟩ := Option.bind_eq_some_iff.mp hexecute
    split at hexecute
    · cases hexecute
    · dsimp only at hexecute
      split at hexecute
      · cases hexecute
        exact placed_diverged _ _
      · obtain ⟨finished, hfinished, hexecute⟩ := Option.bind_eq_some_iff.mp hexecute
        obtain ⟨same, running, -, hrunning, hfinal⟩ := finish_machine_instruction_eq hfinished
        obtain rfl := Option.some.inj (hclock.symm.trans hrunning)
        have hkept : finished.mode = .Replaying session ∧ finished.position = station.worker.position ∧
            finished.cpu_clock = some clock.advance_cycle.2 := by
          rw [hfinal]
          exact ⟨hmode, rfl, rfl⟩
        split at hexecute
        · case _ advanced hadvanced =>
          cases hexecute
          unfold advance_session_position at hadvanced
          split at hadvanced
          · cases hadvanced
          · cases hadvanced
            exact placed_failed _ _
        · case _ advanced hadvanced =>
          obtain ⟨bounded, hbounded, hexecute⟩ := Option.bind_eq_some_iff.mp hexecute
          cases hexecute
          obtain ⟨hroom, hadvanced⟩ := advance_session_position_true hadvanced
          have hadvanced_mode : advanced.mode = .Replaying session := by
            rw [hadvanced]
            exact hkept.1
          have hforward : station.worker.position.rank ≤ advanced.position.rank := by
            rw [hadvanced]
            change _ ≤ (Execution.next_position finished.position).rank
            rw [Execution.rank_next_position hroom, hkept.2.1]
            exact Nat.le_succ _
          obtain hhealthy | ⟨diverged, reason, hdiverged⟩ := check_replay_storage_failure_cases advanced around.storage
          · rw [hhealthy] at hbounded
            refine finish_replay_instruction_stands hadvanced_mode hordered hstands.cursor (fun entry hentry => ?_) ?_ hbounded
            · exact Nat.le_trans (hstands.taken entry hentry) hforward
            · refine ⟨_, frequency_hz, hpositive, ?_, hcounts.advance_cycle⟩
              rw [hadvanced]
              exact hkept.2.2
          · refine placed_onward (finish_replay_instruction_onward hbounded) fun reached hreached => ?_
            cases hdiverged.symm.trans hreached
  · exact placed_onward (execute_replay_instruction_onward hexecute) fun session hmode => hreplaying ⟨session, hmode⟩

/-- A failing instruction ends a Replay. -/
theorem handle_execution_error_placed {error : String} (h : handle_execution_error around station error = some next) :
    Placed next.worker := by
  have honward := handle_execution_error_onward h
  unfold handle_execution_error at h
  dsimp only at h
  generalize Worker.check_replay_storage_failure _ _ = worker at h
  split at h
  · case _ session hmode =>
    split at h
    · obtain ⟨verified, -, h⟩ := Option.map_eq_some_iff.mp h
      cases verified with
      | ok =>
        cases h
        intro reached hreached
        dsimp only [with_worker] at hreached
        rw [complete_replay_eq hmode] at hreached
        cases hreached
      | error reason =>
        cases h
        exact placed_diverged worker reason
    · cases h
      exact placed_diverged worker _
  · case _ recording hmode =>
    obtain ⟨⟨answer, stopped⟩, hstopped, h⟩ := Option.bind_eq_some_iff.mp h
    have hended := stop_recording_onward hstopped
    have hplaced : Placed stopped.worker := placed_onward hended fun session hreplaying => by
      cases hmode.symm.trans hreplaying
    split at h
    · case _ heq =>
      cases heq
      cases h
      exact placed_congr hplaced rfl rfl rfl
    · case _ heq =>
      cases heq
      cases h
      exact hplaced
  · case _ hreplaying _ =>
    cases h
    exact fun session hmode => absurd hmode (hreplaying session)

theorem execute_instruction_placed (h : Placed station.worker)
    (hexecute : execute_instruction around station = some (.ok (), next)) : Placed next.worker := by
  by_cases hreplaying : ∃ session, station.worker.mode = .Replaying session
  · obtain ⟨session, hmode⟩ := hreplaying
    rw [execute_instruction_replaying hmode] at hexecute
    exact execute_replay_instruction_placed h hexecute
  · exact placed_onward (execute_instruction_onward hexecute) fun session hmode => hreplaying ⟨session, hmode⟩

theorem step_once_placed {result : Except CommandRejection RuntimeStatus} (h : Placed station.worker)
    (hstep : step_once around station = some (result, next)) : Placed next.worker := by
  refine @step_once_keeps host (fun reached => Placed reached.worker) station next around result ?_ ?_ ?_ h hstep
  · exact fun hplaced hsame _ => placed_congr hplaced hsame.mode hsame.position hsame.cpu_clock
  · exact fun hplaced _ hexecute => execute_instruction_placed hplaced hexecute
  · exact fun _ _ _ _ _ hhandled => handle_execution_error_placed hhandled

theorem execute_batch_placed {around : Nat → Surroundings} (h : Placed station.worker)
    (hrunning : station.worker.state = .Running) (hexecute : execute_batch around station = some next) :
    Placed next.worker := by
  by_cases hreplaying : ∃ session, station.worker.mode = .Replaying session
  · obtain ⟨session, hmode⟩ := hreplaying
    obtain ⟨executed, hexecuted, hexecute⟩ := Option.bind_eq_some_iff.mp hexecute
    obtain ⟨flushed, hflushed, hexecute⟩ := Option.bind_eq_some_iff.mp hexecute
    cases hexecute
    have hsame := SameSession.flush_machine_output hflushed
    refine placed_congr ?_ hsame.mode hsame.position hsame.cpu_clock
    unfold execute_session_batch at hexecuted
    rw [hmode] at hexecuted
    refine @execute_instructions_keeps host (fun reached => Placed reached.worker) (fun _ => True) execute_replay_instruction
      station executed ?_ ?_ ?_ _ _ (fun _ => trivial) h hrunning hexecuted
    · exact fun hplaced hsame _ => placed_congr hplaced hsame.mode hsame.position hsame.cpu_clock
    · exact fun _ hplaced _ hinstruction => execute_replay_instruction_placed hplaced hinstruction
    · exact fun _ _ _ _ hhandled => handle_execution_error_placed hhandled
  · exact placed_onward (execute_batch_onward hrunning hexecute) fun session hmode => hreplaying ⟨session, hmode⟩

/-! ## Replays that were opened -/

/-- A session of an opened Record is in order, and its cursor is at the place of its snapshot. -/
theorem opens_session {replayer : SnapshotReplayer host.toPlatform} (h : Opens host replayer) :
    replayer.into_session.1.Ordered ∧ replayer.into_session.1.cursor ≤ replayer.into_session.1.timeline.length ∧
      match replayer.restore_state with
      | none => replayer.initial_cursor = 0
      | some restore => ∀ entry ∈ replayer.timeline.take replayer.initial_cursor,
          entry.position.rank ≤ restore.position.rank := by
  cases h with
  | record hparsed =>
    obtain ⟨payloads, -, -, hordered⟩ := parse_record_grammar hparsed
    exact ⟨hordered, Nat.zero_le _, rfl⟩
  | @snapshot file record identity snapshot _ hparsed hinstalled =>
    obtain ⟨payloads, -, -, hordered⟩ := parse_record_grammar hparsed
    unfold install_snapshot validate_replay_snapshot at hinstalled
    split at hinstalled
    · cases hinstalled
    · split at hinstalled
      · cases hinstalled
      · case isFalse hposition =>
        split at hinstalled
        · cases hinstalled
        · case isFalse hcursor =>
          split at hinstalled
          · cases hinstalled
          · cases hinstalled
            rw [Bool.or_eq_true, not_or, decide_eq_true_eq, Nat.not_lt] at hposition
            rw [Bool.or_eq_true, not_or] at hcursor
            refine ⟨hordered, hposition.1, ?_⟩
            have hsession : ReplaySession.Ordered
                { timeline := record.timeline, cursor := snapshot.timeline_cursor, footer := record.footer } := hordered
            refine taken_of_last ((ordered_ranks hsession).1.sublist (List.take_sublist _ _)) fun entry hentry => ?_
            have hend : (record.timeline.take snapshot.timeline_cursor).getLast? = some entry := hentry
            have hlast := hcursor.1
            rw [hend, Option.any_some, decide_eq_true_eq] at hlast
            exact Nat.not_lt.mp fun hlt => hlast (ExecutionPosition.lt_iff_rank_lt.mpr hlt)

/-- The clock of an installation is that of its machine, at the remainder of a snapshot if there is one. -/
theorem installation_clocked {configuration : RuntimeConfiguration host.toPlatform} {cpu_clock : CpuClock}
    {next : NextSession host.toPlatform} {installation : Installation host.toPlatform} {frequency_hz : Nat}
    (hclock : CpuClock.new frequency_hz = some cpu_clock)
    (hinstallation : worker.next_installation configuration cpu_clock next = .ok installation) :
    ∃ clock frequency_hz, ∃ hpositive : 0 < frequency_hz, some installation.cpu_clock = some clock ∧
      clock.Counts (CpuClock.cycle frequency_hz hpositive) := by
  obtain ⟨-, -, hrestore⟩ := next_installation_cases hinstallation
  have hpositive : 0 < frequency_hz := by
    refine Nat.pos_of_ne_zero fun hzero => ?_
    unfold CpuClock.new at hclock
    rw [if_pos hzero] at hclock
    cases hclock
  have hcounts := CpuClock.new_counts hpositive hclock
  refine ⟨_, frequency_hz, hpositive, rfl, ?_⟩
  split at hrestore
  · rw [hrestore.2.1]
    exact hcounts
  · obtain ⟨hsmall, hcpu⟩ := CpuClock.restore_remainder_ok_iff.mp hrestore.2.1
    rw [hcpu]
    rw [hcounts.frequency] at hsmall
    exact hcounts.at_remainder hsmall

/-- A configuration whose Replay, if it is one, was opened from files. -/
def OpensReplay (configuration : RuntimeConfiguration host.toPlatform) : Prop :=
  ∀ replayer, configuration.mode = .Replaying replayer → Opens host replayer

theorem configure_placed {configuration : RuntimeConfiguration host.toPlatform}
    {result : Except CommandRejection RuntimeStatus} (hopens : OpensReplay configuration) (h : Placed worker)
    (hconfigure : worker.configure faults configuration = some (result, after)) : Placed after := by
  obtain ⟨rfl, -⟩ | ⟨installation, hprepare, hreplaced⟩ := configure_cases hconfigure
  · exact h
  · obtain ⟨hidle, -, session, cpu_clock, hsession, hclock, hinstallation⟩ := prepare_cases hprepare
    obtain ⟨rejection, -, hreplace⟩ | ⟨replaced, started, -, -, hstarted, hsame, -⟩ := hreplaced
    · obtain ⟨nat, error, -, -, -, rfl⟩ | ⟨network, hok, -⟩ := Worker.replace_network_cases hidle hreplace
      · exact placed_congr h rfl rfl rfl
      · cases hok
    · refine placed_congr ?_ hsame.mode hsame.position hsame.cpu_clock
      obtain ⟨hmode, -, hrestore⟩ := next_installation_cases hinstallation
      have hinstalled : (replaced.install installation).mode = session.mode := hmode
      unfold Worker.next_session at hsession
      split at hsession
      · cases hsession
        refine placed_onward (start_session_onward hstarted) fun reached hreached => ?_
        cases hinstalled.symm.trans hreached
      · dsimp only at hsession
        split at hsession
        · cases hsession
        · cases hsession
          refine placed_onward (start_session_onward hstarted) fun reached hreached => ?_
          cases hinstalled.symm.trans hreached
      · case _ replayer hreplaying =>
        cases hsession
        obtain ⟨hordered, hwithin, hplace⟩ := opens_session (hopens replayer hreplaying)
        have htaken : ∀ entry ∈ replayer.timeline.take replayer.initial_cursor,
            entry.position.rank ≤ (replaced.install installation).position.rank := by
          change ∀ entry ∈ _, _ ≤ installation.position.rank
          dsimp only at hrestore
          split at hrestore
          · case _ hnone =>
            rw [hnone] at hplace
            dsimp only at hplace
            rw [hplace, List.take_zero]
            exact nofun
          · case _ restore hsome =>
            rw [hsome] at hplace
            obtain ⟨-, -, -, -, hposition, -⟩ := hrestore
            rw [hposition]
            exact hplace
        have hclocked : (replaced.install installation).Clocked := installation_clocked hclock hinstallation
        obtain ⟨⟨answer, bounded⟩, hbounded, rfl⟩ := Option.map_eq_some_iff.mp hstarted
        cases answer with
        | ok => exact process_replay_boundary_stands hinstalled hordered hwithin htaken hclocked hbounded
        | error reason => exact placed_diverged bounded reason

/-! ## Runs -/

/-- A turn in which a Replay, if one is configured, was opened from files. -/
def Event.Opens : Event host → Prop
  | .Command _ (.Configure configuration) => OpensReplay configuration
  | _ => True

theorem handle_command_placed {command : Command host} {answer : Reply host} (hopens : Event.Opens (.Command around command))
    (h : Placed station.worker) (hhandled : handle_command around station command = some (answer, next)) :
    Placed next.worker := by
  by_cases hconfigure : ∃ configuration, command = .Configure configuration
  · obtain ⟨configuration, rfl⟩ := hconfigure
    obtain ⟨⟨result, reached⟩, hconfigured, hhandled⟩ := Option.map_eq_some_iff.mp hhandled
    cases hhandled
    exact configure_placed hopens h hconfigured
  · have hstays : ∀ configuration, command ≠ .Configure configuration := fun configuration hsame =>
      hconfigure ⟨configuration, hsame⟩
    by_cases hreplay : station.worker.mode.is_replay = true
    · obtain ⟨result, rfl, hstep⟩ | hsame := handle_command_replay hreplay hstays hhandled
      · exact step_once_placed h hstep
      · exact placed_congr h hsame.mode hsame.position hsame.cpu_clock
    · refine placed_outside ?_
      cases command with
      | Configure configuration => exact absurd rfl (hstays configuration)
      | ToggleBreakpoint address =>
        cases hhandled
        change (toggle_breakpoint station.worker address).2.mode.is_replay = false
        unfold toggle_breakpoint
        split
        · exact Bool.eq_false_iff.mpr hreplay
        · exact Bool.eq_false_iff.mpr hreplay
      | _ =>
        rw [(handle_command_onward rfl hhandled).mode.is_replay]
        exact Bool.eq_false_iff.mpr hreplay

theorem turn_placed {event : Event host} (hopens : event.Opens) (h : Placed station.worker)
    (hturn : turn station event = some next) : Placed next.worker := by
  cases event with
  | Command around command =>
    obtain ⟨⟨answer, reached⟩, hhandled, rfl⟩ := Option.map_eq_some_iff.mp hturn
    exact handle_command_placed hopens h hhandled
  | Batch around =>
    change (if _ then _ else _) = _ at hturn
    split at hturn
    · case isTrue hrunning => exact execute_batch_placed h hrunning hturn
    · cases hturn
      exact h

theorem turns_placed {events : List (Event host)} (hopens : ∀ event ∈ events, event.Opens) (h : Placed station.worker)
    (hturns : station.turns events = some next) : Placed next.worker := by
  induction events generalizing station with
  | nil =>
    cases hturns
    exact h
  | cons event events ih =>
    obtain ⟨middle, hturn, hturns⟩ := Option.bind_eq_some_iff.mp hturns
    obtain ⟨hfirst, hrest⟩ := List.forall_mem_cons.mp hopens
    exact ih hrest (turn_placed hfirst h hturn) hturns

end Station

open Station in
/-- Whatever Record is replayed and whatever happens to the worker, a Replay that goes on has
taken the entries up to its position and no other, and is not past the end of the Record. -/
theorem replay_cursor {station next : Station host} {events : List (Event host)}
    (hbegin : station.worker.mode.is_replay = false) (hopens : ∀ event ∈ events, Event.Opens event)
    (hturns : station.turns events = some next) (hmode : next.worker.mode = .Replaying session) :
    session.cursor = (session.timeline.countP fun entry => !decide (next.worker.position < entry.position)) ∧
      ¬session.footer.position < next.worker.position := by
  obtain ⟨hordered, hstands, -⟩ := turns_placed hopens (placed_outside hbegin) hturns session hmode
  refine ⟨cursor_eq hstands, fun hlt => ?_⟩
  exact absurd (ExecutionPosition.lt_iff_rank_lt.mp hlt) (Nat.not_lt.mpr hstands.within)

/-- Three steps of a Replay, from which it goes on behind the reset. -/
def tally_steps : List (Station.Event tally_host) := List.replicate 3 (.Command calm .Step)

open Station in
/-- A Replay of the counting machine that has come behind the reset. -/
theorem tally_replaying :
    ∃ (idle : Worker tally_host.toPlatform) (file : List U8) (next : Station tally_host) (session : ReplaySession),
      idle.mode = .Normal ∧ parse_record RecorderInner.serial_codec file = .ok tally_record ∧
        Station.turns ⟨idle, none⟩
          (.Command calm (.Configure ⟨(0 : Nat), .Replaying (@opened tally_host tally_record)⟩) :: tally_steps) = some next ∧
        next.worker.mode = .Replaying session ∧ session.timeline = tally_record.timeline ∧
        next.worker.position = { epoch := 1, completed_instructions := 1 } := by
  obtain ⟨idle, recording, replaying, status, result, finished, file, hnew, -, -, -, hrecord, hidle, -⟩ := tally_committed
  cases hnew
  exact ⟨_, file, _, _, hidle, hrecord, rfl, rfl, rfl, rfl⟩

open Station in
theorem tally_opens {file : List U8} (hparsed : parse_record RecorderInner.serial_codec file = .ok tally_record) :
    ∀ event ∈ .Command calm (.Configure ⟨(0 : Nat), .Replaying (opened tally_record)⟩) :: tally_steps,
      @Event.Opens tally_host event := by
  intro event hevent
  obtain rfl | hstep := List.mem_cons.mp hevent
  · intro replayer hsame
    cases hsame
    exact .record hparsed
  · rw [List.eq_of_mem_replicate hstep]
    trivial

/-- Behind the reset four entries are taken and the byte received later is not. -/
theorem replay_cursor_tally :
    ∃ (next : Station tally_host) (session : ReplaySession),
      next.worker.mode = .Replaying session ∧ session.timeline = tally_timeline ∧ session.cursor = 4 := by
  obtain ⟨idle, file, next, session, hidle, hparsed, hturns, hmode, htimeline, hposition⟩ := tally_replaying
  obtain ⟨hcursor, -⟩ :=
    replay_cursor (congrArg ActiveMode.is_replay hidle) (tally_opens hparsed) hturns hmode
  refine ⟨next, session, hmode, htimeline, ?_⟩
  rw [hcursor, htimeline, hposition]
  decide

end se_runtime.runtime
