import SgiEmu.Runtime.Worker.Recorded

open se_core se_core.storage se_core.time se_machine se_runtime.record

namespace se_runtime.runtime

variable {host : Host} {worker after : Worker host.toPlatform} {execution next last : Execution host}
  {session : ReplaySession} {entry : TimelineEntry} {entries : List TimelineEntry} {runs : Nat}

/-! ## Output that reaches its endpoints -/

/-- One entry for each endpoint, which has the kind of the output and is meant for it. -/
structure Deliverable (catalog : EndpointCatalog) (output : MachineOutput host.VideoOutput) : Prop where
  once : (output.map Prod.fst).Nodup
  fits : ∀ published ∈ output, ∃ descriptor, catalog.get published.1 = some descriptor ∧
    descriptor.kind = published.2.kind ∧ descriptor.direction.accepts_output = true

/-- The machines of the host keep their endpoints and publish what fits them. -/
structure Publishes (host : Host) : Prop where
  execute : ∀ storage machine,
    host.endpoint_catalog (host.execute_instruction storage machine).2 = host.endpoint_catalog machine
  advance : ∀ storage machine elapsed output,
    host.endpoint_catalog (host.advance_time storage machine elapsed output).1 = host.endpoint_catalog machine
  receive : ∀ machine input, host.endpoint_catalog (host.try_receive_input machine input).2 = host.endpoint_catalog machine
  reset : ∀ machine, host.endpoint_catalog (host.reset machine) = host.endpoint_catalog machine
  elapsed : ∀ storage machine elapsed output, Deliverable (host.endpoint_catalog machine) output →
    Deliverable (host.endpoint_catalog machine) (host.advance_time storage machine elapsed output).2
  current : ∀ machine output, Deliverable (host.endpoint_catalog machine) output →
    Deliverable (host.endpoint_catalog machine) (host.publish_current_outputs machine output)

/-- What the worker has to deliver fits its machine. -/
def Worker.HasDeliverable (worker : Worker host.toPlatform) : Prop :=
  ∀ machine, worker.machine = some machine → Deliverable (host.endpoint_catalog machine) worker.frontend_output

/-- What a Replay leaves alone while it goes on. -/
structure Flows (worker after : Worker host.toPlatform) : Prop where
  network_error : after.network_error = worker.network_error
  rests : after.state = .Running → worker.state = .Running
  output : Publishes host → worker.HasDeliverable → after.HasDeliverable

theorem Flows.refl (worker : Worker host.toPlatform) : Flows worker worker := ⟨rfl, id, fun _ => id⟩

theorem Flows.trans {third : Worker host.toPlatform} (h : Flows worker after) (hthird : Flows after third) :
    Flows worker third :=
  ⟨hthird.network_error.trans h.network_error, fun hrunning => h.rests (hthird.rests hrunning),
    fun hpublishes houtput => hthird.output hpublishes (h.output hpublishes houtput)⟩

theorem deliverable_nil (catalog : EndpointCatalog) : Deliverable catalog ([] : MachineOutput host.VideoOutput) :=
  ⟨.nil, nofun⟩

theorem queue_current_outputs_flows (worker : Worker host.toPlatform) : Flows worker worker.queue_current_outputs := by
  unfold Worker.queue_current_outputs
  split
  · case _ machine hmachine =>
    refine ⟨rfl, id, fun hpublishes houtput same hsame => ?_⟩
    obtain rfl := Option.some.inj (hmachine.symm.trans hsame)
    exact hpublishes.current machine _ (houtput machine hmachine)
  · exact .refl worker

theorem reset_machine_flows (h : worker.reset_machine = some after) : Flows worker after := by
  obtain ⟨machine, -, h⟩ := Option.bind_eq_some_iff.mp h
  obtain ⟨clock, -, h⟩ := Option.bind_eq_some_iff.mp h
  obtain rfl := Option.some.inj h
  refine Flows.trans ?_ (queue_current_outputs_flows _)
  exact ⟨rfl, id, fun _ _ _ _ => deliverable_nil _⟩

/-! ## Entries of a timeline -/

/-- A machine that is there is reset with its clock. -/
theorem reset_machine_stands (hat : At worker execution) :
    ∃ after machine, worker.reset_machine = some after ∧ after.machine = some machine ∧
      Indistinguishable host machine (host.reset execution.machine) ∧ after.cpu_clock = some execution.cpu_clock.reset ∧
      after.virtual_instant = 0 ∧ after.position = worker.position ∧ after.mode = worker.mode := by
  obtain ⟨machine, hmachine, halike⟩ := hat.machine
  obtain ⟨after, hreset⟩ : ∃ after, worker.reset_machine = some after := by
    unfold Worker.reset_machine
    rw [hmachine, hat.cpu_clock]
    exact ⟨_, rfl⟩
  obtain ⟨same, clock, hsame, hclock, hreached, hcpu, hinstant, hposition, hmode⟩ := Station.reset_machine_cases hreset
  obtain rfl := Option.some.inj (hmachine.symm.trans hsame)
  obtain rfl := Option.some.inj (hclock.symm.trans hat.cpu_clock)
  exact ⟨after, host.reset machine, hreset, hreached, (bisimulation_indistinguishable host).reset halike, hcpu, hinstant,
    hposition, hmode⟩

/-- A machine like that of the execution takes the entry as the execution does. -/
theorem replay_action_takes (hat : At worker execution) (htake : execution.take entry = some next) :
    ∃ after, worker.replay_action entry.action = some (.ok (), after) ∧ after.mode = worker.mode ∧ At after next ∧
      Flows worker after := by
  obtain ⟨machine, hmachine, halike⟩ := hat.machine
  have hkinds := bisimulation_indistinguishable host
  obtain ⟨position, action⟩ := entry
  cases action with
  | MachineInput input =>
    unfold Execution.take at htake
    dsimp only at htake
    unfold Worker.replay_action
    dsimp only
    split at htake
    · case _ received hreceived =>
      cases htake
      obtain ⟨hanswer, hreached⟩ := hkinds.receive halike input
      rw [hreceived] at hanswer hreached
      rw [hmachine, Option.map_some, hanswer]
      refine ⟨_, rfl, rfl, ⟨hat.position, hat.virtual_instant, hat.cpu_clock, _, rfl, hreached⟩, rfl, id,
        fun hpublishes houtput same hsame => ?_⟩
      obtain rfl := Option.some.inj hsame
      rw [hpublishes.receive]
      exact houtput machine hmachine
    · cases htake
  | Reset =>
    unfold Execution.take at htake
    dsimp only at htake
    unfold Worker.replay_action
    dsimp only
    split at htake
    · case isTrue hroom =>
      cases htake
      obtain ⟨reset, machine, hreset, hreached, halike, hcpu, hinstant, hposition, hmode⟩ := reset_machine_stands hat
      have hflows := reset_machine_flows hreset
      rw [hat.position, if_pos hroom, hreset, Option.map_some]
      refine ⟨_, rfl, hmode, ⟨?_, hinstant, hcpu, machine, hreached, halike⟩, hflows.network_error, hflows.rests,
        hflows.output⟩
      rw [hposition, hat.position]
    · cases htake
  | Checkpoint digest =>
    unfold Execution.take at htake
    dsimp only at htake
    unfold Worker.replay_action
    dsimp only
    split at htake
    · case isTrue hdigest =>
      cases htake
      rw [hmachine, Option.map_some, if_pos ((hkinds.fingerprint halike).trans hdigest)]
      exact ⟨worker, rfl, rfl, hat, .refl worker⟩
    · cases htake

/-- The entries that are due are taken, and nothing else. -/
theorem replay_entries_takes (hmode : worker.mode = .Replaying session)
    (hentries : session.timeline.drop session.cursor = entries) (hwithin : session.cursor ≤ session.timeline.length)
    (hat : At worker execution) (hhistory : (Execution.timed host).History execution entries runs last) :
    ∃ after cursor reached, worker.replay_entries session entries = some (.ok (), after) ∧
      after.mode = .Replaying { session with cursor } ∧ cursor ≤ session.timeline.length ∧ At after reached ∧
      Flows worker after ∧
      (Execution.timed host).History reached (session.timeline.drop cursor) runs last ∧
      ∀ entry ∈ (session.timeline.drop cursor).head?, entry.position.rank ≠ reached.position.rank := by
  induction entries generalizing session worker execution with
  | nil =>
    refine ⟨worker, session.cursor, execution, rfl, hmode, hwithin, hat, .refl worker, ?_, ?_⟩
    · rw [hentries]
      exact hhistory
    · rw [hentries]
      exact nofun
  | cons entry entries ih =>
    have hle := hhistory.now_le_due entry List.mem_cons_self
    change execution.position.rank ≤ entry.position.rank at hle
    rw [← hat.position] at hle
    unfold Worker.replay_entries
    rw [if_neg (fun hlt => absurd (ExecutionPosition.lt_iff_rank_lt.mp hlt) (Nat.not_lt.mpr hle))]
    split
    · case isTrue hdue =>
      obtain ⟨next, htake, htail⟩ := hhistory.take_due (congrArg ExecutionPosition.rank (hdue.trans hat.position))
      have hadvanced : At { worker with mode := .Replaying session.advance } execution :=
        ⟨hat.position, hat.virtual_instant, hat.cpu_clock, hat.machine⟩
      obtain ⟨acted, haction, hsame, hacted, hflows⟩ := replay_action_takes hadvanced htake
      have hrest : session.advance.timeline.drop session.advance.cursor = entries := by
        change session.timeline.drop (session.cursor + 1) = entries
        rw [← List.drop_drop, hentries]
        rfl
      have hlength := congrArg List.length hentries
      rw [List.length_drop, List.length_cons] at hlength
      have hroom : session.advance.cursor ≤ session.advance.timeline.length := by
        change session.cursor + 1 ≤ session.timeline.length
        omega
      obtain ⟨after, cursor, reached, hreplayed, hcursor, hend, hafter, hmore, hleft, hnext⟩ :=
        ih hsame hrest hroom hacted htail
      rw [haction]
      have hbefore : Flows worker { worker with mode := .Replaying session.advance } := ⟨rfl, id, fun _ => id⟩
      exact ⟨after, cursor, reached, hreplayed, hcursor, hend, hafter, (hbefore.trans hflows).trans hmore, hleft, hnext⟩
    · case isFalse hdue =>
      refine ⟨worker, session.cursor, execution, rfl, hmode, hwithin, hat, .refl worker, ?_, ?_⟩
      · rw [hentries]
        exact hhistory
      · rw [hentries]
        intro head hhead
        cases hhead
        exact fun hrank => hdue ((ExecutionPosition.rank_inj.mp hrank).trans hat.position.symm)

/-! ## The way to the end of a Record -/

/-- The rest of the timeline, after so many instructions, leads to the end of the Record. -/
structure Leads (worker : Worker host.toPlatform) (session : ReplaySession) (runs : Nat) : Prop where
  cursor : session.cursor ≤ session.timeline.length
  way : ∃ execution last, At worker execution ∧
    (Execution.timed host).History execution (session.timeline.drop session.cursor) runs last ∧ last.Ends session.footer

/-- So many instructions are left, and one that fails if the Record ends in its error. -/
def instructions_left (outcome : RecordOutcome) (runs : Nat) : Nat :=
  if Station.between_instructions outcome then runs else runs + 1

/-- A worker that replays a Record to its end, with the number of instructions to go. -/
inductive Replays (footer : RecordFooter) (worker : Worker host.toPlatform) : Nat → Prop where
  | replaying (session : ReplaySession) (runs : Nat) (hmode : worker.mode = .Replaying session)
    (hfooter : session.footer = footer) (hleads : Leads worker session runs)
    (hnext : ∀ entry ∈ (session.timeline.drop session.cursor).head?, entry.position.rank ≠ worker.position.rank)
    (hfails : runs = 0 → Station.between_instructions footer.outcome = false) :
    Replays footer worker (instructions_left footer.outcome runs)
  | completed (session : ReplaySession) (machine : host.Machine) (hmode : worker.mode = .ReplayCompleted session)
    (hconsumed : session.timeline_consumed = true) (hstate : worker.state ≠ .Running) (hposition : worker.position = footer.position)
    (hmachine : worker.machine = some machine)
    (hfingerprint : host.machine_state_fingerprint machine = footer.final_fingerprint) : Replays footer worker 0

/-- At the end no entry is left, and before it there is an instruction to go. -/
theorem end_consumed (hhistory : (Execution.timed host).History execution entries runs last)
    (hnext : ∀ entry ∈ entries.head?, entry.position.rank ≠ execution.position.rank) :
    (execution.position = last.position → entries = [] ∧ runs = 0 ∧ execution = last) ∧
      (runs = 0 → entries = [] ∧ execution = last) := by
  obtain hend | ⟨further, next, rfl, -, hbefore, -⟩ := hhistory.run_until_due hnext
  · exact ⟨fun _ => hend, fun _ => ⟨hend.1, hend.2.2⟩⟩
  · exact ⟨fun hposition => absurd (congrArg ExecutionPosition.rank hposition) (Nat.ne_of_lt hbefore), nofun⟩

theorem complete_replay_eq (hmode : worker.mode = .Replaying session) :
    worker.complete_replay =
      { worker with state := .Paused, session_error := none, mode := .ReplayCompleted session }.advance_revision := by
  unfold Worker.complete_replay
  rw [hmode]

/-- Between instructions the Record ends with its fingerprint. -/
theorem ends_fingerprint {footer : RecordFooter} (h : last.Ends footer)
    (houtcome : Station.between_instructions footer.outcome = true) :
    host.machine_state_fingerprint last.machine = footer.final_fingerprint := by
  have hends := h.2
  split at hends
  · case _ herror =>
    rw [herror] at houtcome
    cases houtcome
  · exact hends

theorem complete_replay_replays (hmode : worker.mode = .Replaying session) {machine : host.Machine}
    (hconsumed : session.timeline_consumed = true) (hposition : worker.position = session.footer.position) (hmachine : worker.machine = some machine)
    (hfingerprint : host.machine_state_fingerprint machine = session.footer.final_fingerprint) :
    Flows worker worker.complete_replay ∧ Replays session.footer worker.complete_replay 0 := by
  rw [complete_replay_eq hmode]
  exact ⟨⟨rfl, nofun, fun _ => id⟩, .completed session machine rfl hconsumed nofun hposition hmachine hfingerprint⟩

/-- Where no entry is due, a Replay on its way goes on or is complete. -/
theorem finish_replay_boundary_leads (hmode : worker.mode = .Replaying session)
    (hcursor : session.cursor ≤ session.timeline.length) (hat : At worker execution)
    (hhistory : (Execution.timed host).History execution (session.timeline.drop session.cursor) runs last)
    (hnext : ∀ entry ∈ (session.timeline.drop session.cursor).head?, entry.position.rank ≠ execution.position.rank)
    (hends : last.Ends session.footer) :
    ∃ after, worker.finish_replay_boundary session = some (.ok (), after) ∧ Flows worker after ∧
      Replays session.footer after (instructions_left session.footer.outcome runs) := by
  have hleads : Leads worker session runs := ⟨hcursor, execution, last, hat, hhistory, hends⟩
  have hwaiting : ∀ entry ∈ (session.timeline.drop session.cursor).head?, entry.position.rank ≠ worker.position.rank := by
    rw [hat.position]
    exact hnext
  obtain ⟨hconsumed, hlast⟩ := end_consumed hhistory hnext
  have hwithin : ¬session.footer.position < worker.position := by
    intro hlt
    rw [hends.1, hat.position] at hlt
    exact absurd (ExecutionPosition.lt_iff_rank_lt.mp hlt) (Nat.not_lt.mpr hhistory.now_le)
  unfold Worker.finish_replay_boundary
  rw [if_neg hwithin]
  split
  · case isTrue hbefore =>
    refine ⟨worker, rfl, .refl worker, .replaying session runs hmode rfl hleads hwaiting fun hruns => ?_⟩
    obtain ⟨-, rfl⟩ := hlast hruns
    exact absurd (hat.position.trans hends.1.symm) hbefore
  · case isFalse hhere =>
    have hposition := not_not.mp hhere
    obtain ⟨hempty, rfl, rfl⟩ := hconsumed (hat.position.symm.trans (hposition.trans hends.1))
    have hall : session.timeline_consumed = true := by
      have hlength := List.drop_eq_nil_iff.mp hempty
      exact beq_iff_eq.mpr (Nat.le_antisymm hcursor hlength)
    rw [hall, if_neg Bool.noConfusion]
    obtain ⟨machine, hmachine, halike⟩ := hat.machine
    split
    · case _ address description houtcome =>
      refine ⟨worker, rfl, .refl worker, .replaying session 0 hmode rfl hleads hwaiting fun _ => ?_⟩
      rw [houtcome]
      rfl
    · case _ houtcome =>
      have hbetween : Station.between_instructions session.footer.outcome = true := by
        cases hkind : session.footer.outcome with
        | ExecutionError address description => exact absurd hkind (houtcome address description)
        | _ => rfl
      have hfingerprint : host.machine_state_fingerprint machine = session.footer.final_fingerprint :=
        ((bisimulation_indistinguishable host).fingerprint halike).trans (ends_fingerprint hends hbetween)
      have hverified : worker.verify_replay_final_fingerprint session = some (.ok ()) := by
        unfold Worker.verify_replay_final_fingerprint
        rw [hmachine, Option.map_some, if_pos hfingerprint]
      obtain ⟨hflows, hreplays⟩ := complete_replay_replays hmode hall hposition hmachine hfingerprint
      rw [hverified]
      refine ⟨worker.complete_replay, rfl, hflows, ?_⟩
      unfold instructions_left
      rw [if_pos hbetween]
      exact hreplays

/-- A boundary on the way to the end of a Record never fails. -/
theorem process_replay_boundary_leads (hmode : worker.mode = .Replaying session) (hleads : Leads worker session runs) :
    ∃ after, worker.process_replay_boundary = some (.ok (), after) ∧ Flows worker after ∧
      Replays session.footer after (instructions_left session.footer.outcome runs) := by
  obtain ⟨execution, last, hat, hhistory, hends⟩ := hleads.way
  obtain ⟨taken, cursor, reached, hentries, hcursor, hwithin, hreached, hflows, hleft, hnext⟩ :=
    replay_entries_takes hmode rfl hleads.cursor hat hhistory
  obtain ⟨after, hfinished, hmore, hreplays⟩ := finish_replay_boundary_leads hcursor hwithin hreached hleft hnext hends
  unfold Worker.process_replay_boundary
  rw [hmode]
  dsimp only
  rw [hentries]
  dsimp only
  rw [hcursor]
  exact ⟨after, hfinished, hflows.trans hmore, hreplays⟩

/-! ## Instructions of a Replay -/

namespace Station

variable {station : Station host} {around : Surroundings} {footer : RecordFooter} {left : Nat} {error : String}

/-- The instruction failed at the end of the Record, and as recorded. -/
structure FailsAsRecorded (error : String) (worker : Worker host.toPlatform) (session : ReplaySession)
    (machine : host.Machine) : Prop where
  mode : worker.mode = .Replaying session
  consumed : session.timeline_consumed = true
  position : worker.position = session.footer.position
  outcome : session.footer.outcome = .ExecutionError (host.execution_address machine) error
  fingerprint : host.machine_state_fingerprint machine = session.footer.final_fingerprint
  machine : worker.machine = some machine

/-- The error with which a Record ends completes its Replay. -/
theorem handle_execution_error_completes (hstorage : around.storage = none) {machine : host.Machine}
    (h : FailsAsRecorded error station.worker session machine) :
    ∃ next, handle_execution_error around station error = some next ∧ Replays session.footer next.worker 0 ∧
      Flows station.worker next.worker := by
  obtain ⟨worker, disk⟩ := station
  obtain ⟨hmode, hconsumed, hposition, houtcome, hfingerprint, hmachine⟩ := h
  dsimp only at hmode hposition hmachine ⊢
  have hchecked : ({ worker with last_error := some error }.check_record_failure).check_replay_storage_failure
      around.storage = { worker with last_error := some error } := by
    rw [hstorage]
    unfold Worker.check_record_failure Worker.check_replay_storage_failure
    dsimp only
    rw [hmode]
  have haddress : (worker.machine.map host.execution_address).getD 0 = host.execution_address machine := by
    rw [hmachine]
    rfl
  unfold handle_execution_error
  dsimp only
  rw [hchecked, haddress]
  generalize hfailed : ({ worker with last_error := some error } : Worker host.toPlatform) = failed
  have hfailed_mode : failed.mode = .Replaying session := by rw [← hfailed]; exact hmode
  have hfailed_position : failed.position = session.footer.position := by rw [← hfailed]; exact hposition
  have hfailed_machine : failed.machine = some machine := by rw [← hfailed]; exact hmachine
  have hexpected : expected_error failed session (host.execution_address machine) error = true := by
    unfold expected_error
    rw [hfailed_position, hconsumed, houtcome, decide_eq_true rfl, beq_self_eq_true]
    rfl
  have hverified : Worker.verify_replay_final_fingerprint session failed = some (.ok ()) := by
    unfold Worker.verify_replay_final_fingerprint
    rw [hfailed_machine, Option.map_some, if_pos hfingerprint]
  obtain ⟨hflows, hreplays⟩ := complete_replay_replays hfailed_mode hconsumed hfailed_position hfailed_machine hfingerprint
  have hbefore : Flows worker failed := by
    rw [← hfailed]
    exact ⟨rfl, id, fun _ => id⟩
  rw [hfailed_mode]
  dsimp only
  rw [if_pos hexpected, hverified]
  exact ⟨_, rfl, hreplays, hbefore.trans hflows⟩

/-- Where no boundary is due, the next entry and the end are ahead. -/
theorem boundary_not_due (hmode : worker.mode = .Replaying session) (h : replay_boundary_due worker = false) :
    (∀ entry ∈ (session.timeline.drop session.cursor).head?, worker.position.rank < entry.position.rank) ∧
      worker.position.rank < session.footer.position.rank := by
  have hhead : session.next_entry = (session.timeline.drop session.cursor).head? := by
    unfold ReplaySession.next_entry
    rw [List.head?_drop]
  unfold replay_boundary_due at h
  rw [hmode] at h
  dsimp only at h
  rw [hhead] at h
  split at h
  · case _ entry hentry =>
    rw [Bool.not_eq_false', decide_eq_true_eq] at h
    have hlt := ExecutionPosition.lt_iff_rank_lt.mp h
    rw [hentry]
    split at hlt
    · case isTrue hfooter =>
      have hbefore := ExecutionPosition.lt_iff_rank_lt.mp hfooter
      refine ⟨fun head hhead => ?_, hlt⟩
      cases hhead
      exact Nat.lt_trans hlt hbefore
    · case isFalse hfooter =>
      have hbefore := Nat.not_lt.mp fun hrank => hfooter (ExecutionPosition.lt_iff_rank_lt.mpr hrank)
      refine ⟨fun head hhead => ?_, Nat.lt_of_lt_of_le hlt hbefore⟩
      cases hhead
      exact hlt
  · case _ hentry =>
    rw [Bool.not_eq_false', decide_eq_true_eq] at h
    rw [hentry]
    exact ⟨nofun, ExecutionPosition.lt_iff_rank_lt.mp h⟩

/-- After an instruction a Replay on its way meets the next boundary if it is due. -/
theorem finish_replay_instruction_leads (hmode : worker.mode = .Replaying session) (hleads : Leads worker session runs) :
    ∃ after, finish_replay_instruction worker = some after ∧ Flows worker after ∧
      Replays session.footer after (instructions_left session.footer.outcome runs) := by
  unfold finish_replay_instruction
  split
  · obtain ⟨after, hboundary, hflows, hreplays⟩ := process_replay_boundary_leads hmode hleads
    rw [hboundary]
    exact ⟨after, rfl, hflows, hreplays⟩
  · case isFalse hdue =>
    obtain ⟨hahead, hend⟩ := boundary_not_due hmode (Bool.eq_false_iff.mpr hdue)
    have hnext : ∀ entry ∈ (session.timeline.drop session.cursor).head?, entry.position.rank ≠ worker.position.rank :=
      fun entry hentry => Nat.ne_of_gt (hahead entry hentry)
    refine ⟨worker, rfl, .refl worker, .replaying session runs hmode rfl hleads hnext fun hruns => ?_⟩
    obtain ⟨execution, last, hat, hhistory, hends⟩ := hleads.way
    rw [hat.position] at hnext
    obtain ⟨hempty, rfl⟩ := (end_consumed hhistory hnext).2 hruns
    rw [hat.position, hends.1] at hend
    exact absurd hend (Nat.lt_irrefl _)

theorem execute_replay_instruction_error {machine executed : host.Machine} (hmachine : station.worker.machine = some machine)
    (hexecute : host.execute_instruction around.storage machine = (.error error, executed)) :
    execute_replay_instruction around station =
      some (.error error, station.with_worker { station.worker with machine := some executed }) := by
  unfold execute_replay_instruction
  simp only [hmachine, hexecute, Option.bind_eq_bind, Option.bind_some]

theorem execute_replay_instruction_ok {machine executed : host.Machine} {finished advanced bounded : Worker host.toPlatform}
    (hmachine : station.worker.machine = some machine)
    (hexecute : host.execute_instruction around.storage machine = (.ok (), executed))
    (hexpects : expects_execution_error station.worker = false)
    (hfinish : Worker.finish_machine_instruction (host.advance_time around.storage)
      { station.worker with machine := some executed } = some finished)
    (hadvance : advance_session_position finished = (true, advanced))
    (hbound : finish_replay_instruction (advanced.check_replay_storage_failure around.storage) = some bounded) :
    execute_replay_instruction around station = some (.ok (), station.with_worker bounded) := by
  unfold execute_replay_instruction
  simp only [hmachine, hexecute, hexpects, hfinish, hadvance, hbound, Option.bind_eq_bind, Option.bind_some,
    Bool.false_eq_true, if_false]

/-- At the end of a Record that ends in an error, the instruction fails as recorded. -/
theorem execute_replay_instruction_fails (hstorage : around.storage = none)
    (hmode : station.worker.mode = .Replaying session) (hcursor : session.cursor = session.timeline.length)
    (hat : At station.worker last) (hends : last.Ends session.footer)
    (houtcome : between_instructions session.footer.outcome = false) :
    ∃ error next machine, execute_replay_instruction around station = some (.error error, next) ∧
      FailsAsRecorded error next.worker session machine ∧ Flows station.worker next.worker := by
  obtain ⟨machine, hmachine, halike⟩ := hat.machine
  obtain ⟨hanswer, hexecuted⟩ := (bisimulation_indistinguishable host).execute halike
  obtain ⟨hposition, hends⟩ := hends
  split at hends
  · case _ address description hrecorded =>
    obtain ⟨failed, hfailed, haddress, hfingerprint⟩ := hends
    rw [hfailed] at hanswer hexecuted
    have hresult : host.execute_instruction none machine = (.error description, (host.execute_instruction none machine).2) :=
      Prod.ext hanswer rfl
    refine ⟨description, station.with_worker { station.worker with machine := some (host.execute_instruction none machine).2 },
      (host.execute_instruction none machine).2, ?_, ?_, ?_⟩
    · refine execute_replay_instruction_error hmachine ?_
      rw [hstorage]
      exact hresult
    · refine ⟨hmode, beq_iff_eq.mpr hcursor, hat.position.trans hposition.symm, ?_, ?_, rfl⟩
      · rw [hrecorded, ← haddress, (bisimulation_indistinguishable host).execution_address hexecuted]
      · exact ((bisimulation_indistinguishable host).fingerprint hexecuted).trans hfingerprint
    · refine ⟨rfl, id, fun hpublishes houtput same hsame => ?_⟩
      obtain rfl := Option.some.inj hsame
      rw [hpublishes.execute]
      exact houtput machine hmachine
  · case _ hnone =>
    cases hkind : session.footer.outcome with
    | ExecutionError address description => exact absurd hkind (hnone address description)
    | _ =>
      rw [hkind] at houtcome
      cases houtcome

/-- Before the end of the Record the instruction succeeds, and what is due after it follows. -/
theorem execute_replay_instruction_runs (hstorage : around.storage = none) (hmode : station.worker.mode = .Replaying session)
    (hcursor : session.cursor ≤ session.timeline.length) (hat : At station.worker execution)
    (hrun : execution.run = some next)
    (hhistory : (Execution.timed host).History next (session.timeline.drop session.cursor) runs last)
    (hends : last.Ends session.footer) :
    ∃ reached, execute_replay_instruction around station = some (.ok (), reached) ∧ Flows station.worker reached.worker ∧
      Replays session.footer reached.worker (instructions_left session.footer.outcome runs) := by
  obtain ⟨executed, hexecution, hroom, rfl⟩ := Execution.run_cases hrun
  obtain ⟨machine, hmachine, halike⟩ := hat.machine
  obtain ⟨hanswer, hlike⟩ := (bisimulation_indistinguishable host).execute halike
  rw [hexecution] at hanswer hlike
  have hexecute : host.execute_instruction none machine = (.ok (), (host.execute_instruction none machine).2) :=
    Prod.ext hanswer rfl
  generalize hreached : (host.execute_instruction none machine).2 = reached at hexecute hlike
  have hexpects : expects_execution_error station.worker = false := by
    have hbefore := Nat.lt_of_lt_of_le (Execution.rank_lt_run hrun) hhistory.now_le
    unfold expects_execution_error
    rw [hmode]
    dsimp only
    have hposition : (station.worker.position == session.footer.position) = false := by
      rw [beq_eq_false_iff_ne, hat.position, hends.1]
      intro hsame
      rw [hsame] at hbefore
      exact absurd hbefore (Nat.lt_irrefl _)
    rw [hposition]
    rfl
  obtain ⟨finished, hfinished⟩ : ∃ finished, Worker.finish_machine_instruction (host.advance_time none)
      { station.worker with machine := some reached } = some finished := by
    unfold Worker.finish_machine_instruction
    dsimp only
    rw [hat.cpu_clock]
    exact ⟨_, rfl⟩
  obtain ⟨same, clock, hsame, hclock, hfinal⟩ := finish_machine_instruction_eq hfinished
  obtain rfl : reached = same := Option.some.inj hsame
  obtain rfl := Option.some.inj (hclock.symm.trans hat.cpu_clock)
  have hfinished_position : finished.position = execution.position := by
    rw [hfinal]
    exact hat.position
  have hadvance : advance_session_position finished =
      (true, { finished with position := Execution.next_position finished.position }) := by
    unfold advance_session_position
    rw [hfinished_position, if_pos hroom]
    rfl
  generalize hadvanced : ({ finished with position := Execution.next_position finished.position } :
    Worker host.toPlatform) = advanced at hadvance
  have hadvanced_mode : advanced.mode = .Replaying session := by
    rw [← hadvanced, hfinal]
    exact hmode
  have hadvanced_at : At advanced
      { position := Execution.next_position execution.position
        virtual_instant := execution.virtual_instant + execution.cpu_clock.advance_cycle.1
        cpu_clock := execution.cpu_clock.advance_cycle.2
        machine := (host.advance_time none executed execution.cpu_clock.advance_cycle.1 []).1 } := by
    rw [← hadvanced, hfinal]
    exact ⟨congrArg Execution.next_position hat.position, congrArg (· + _) hat.virtual_instant, rfl, _, rfl,
      (bisimulation_indistinguishable host).advance_time hlike _ _ _⟩
  have hflows : Flows station.worker advanced := by
    rw [← hadvanced, hfinal]
    refine ⟨rfl, id, fun hpublishes houtput other hother => ?_⟩
    obtain rfl := Option.some.inj hother
    rw [hpublishes.advance]
    refine hpublishes.elapsed none reached _ _ ?_
    rw [← hreached, hpublishes.execute]
    exact houtput machine hmachine
  obtain ⟨after, hbound, hmore, hreplays⟩ :=
    finish_replay_instruction_leads hadvanced_mode ⟨hcursor, _, last, hadvanced_at, hhistory, hends⟩
  have hunchecked : advanced.check_replay_storage_failure around.storage = advanced := by
    rw [hstorage]
    rfl
  rw [← hstorage] at hexecute hfinished
  rw [← hunchecked] at hbound
  exact ⟨station.with_worker after, execute_replay_instruction_ok hmachine hexecute hexpects hfinished hadvance hbound,
    hflows.trans hmore, hreplays⟩

/-- On the way, a Replay executes the instruction that the Recording executed. -/
theorem execute_replay_instruction_replays (hstorage : around.storage = none) {footer : RecordFooter} {left : Nat}
    (h : Replays footer station.worker left) (hmode : station.worker.mode = .Replaying session) :
    (∃ reached further, execute_replay_instruction around station = some (.ok (), reached) ∧ left = further + 1 ∧
        Replays footer reached.worker further ∧ Flows station.worker reached.worker) ∨
      ∃ error reached machine, execute_replay_instruction around station = some (.error error, reached) ∧ left = 1 ∧
        session.footer = footer ∧ FailsAsRecorded error reached.worker session machine ∧
        Flows station.worker reached.worker := by
  generalize hworker : station.worker = worker at h
  cases h with
  | completed _ _ hcompleted =>
    rw [hworker] at hmode
    cases hmode.symm.trans hcompleted
  | replaying same runs hsame hfooter hleads hnext hfails =>
    subst hworker
    obtain rfl := ActiveMode.Replaying.inj (hmode.symm.trans hsame)
    subst hfooter
    obtain ⟨execution, last, hat, hhistory, hends⟩ := hleads.way
    rw [hat.position] at hnext
    obtain ⟨hempty, rfl, rfl⟩ | ⟨further, next, rfl, hrun, -, htail⟩ := hhistory.run_until_due hnext
    · have houtcome := hfails rfl
      have hlength := Nat.le_antisymm hleads.cursor (List.drop_eq_nil_iff.mp hempty)
      obtain ⟨error, reached, machine, hexecute, hfailed, hflows⟩ :=
        execute_replay_instruction_fails hstorage hmode hlength hat hends houtcome
      refine .inr ⟨error, reached, machine, hexecute, ?_, rfl, hfailed, hflows⟩
      unfold instructions_left
      rw [houtcome]
      rfl
    · obtain ⟨reached, hexecute, hflows, hreplays⟩ :=
        execute_replay_instruction_runs hstorage hmode hleads.cursor hat hrun htail hends
      refine .inl ⟨reached, _, hexecute, ?_, hreplays, hflows⟩
      unfold instructions_left
      split
      · rfl
      · rfl

/-! ## Runs of a Replay -/

/-- What is left alone of a worker whose execution does not move; it may be set running. -/
structure Unmoved (worker after : Worker host.toPlatform) : Prop where
  machine : after.machine = worker.machine
  cpu_clock : after.cpu_clock = worker.cpu_clock
  virtual_instant : after.virtual_instant = worker.virtual_instant
  position : after.position = worker.position
  completed_instructions : after.completed_instructions = worker.completed_instructions
  mode : after.mode = worker.mode
  runs : after.state = .Running → worker.state = .Running ∨ worker.require_runnable = .ok ()

theorem Unmoved.refl (worker : Worker host.toPlatform) : Unmoved worker worker := ⟨rfl, rfl, rfl, rfl, rfl, rfl, .inl⟩

theorem Unmoved.of_same (h : SameSession worker after) (hrests : after.state = .Running → worker.state = .Running) :
    Unmoved worker after :=
  ⟨h.machine, h.cpu_clock, h.virtual_instant, h.position, h.completed_instructions, h.mode, fun hrunning =>
    .inl (hrests hrunning)⟩

theorem completed_not_runnable (hmode : worker.mode = .ReplayCompleted session) : worker.require_runnable ≠ .ok () := by
  intro hrunnable
  unfold Worker.require_runnable at hrunnable
  split at hrunnable
  · cases hrunnable
  · split at hrunnable
    · cases hrunnable
    · rw [hmode] at hrunnable
      cases hrunnable

theorem replays_unmoved {footer : RecordFooter} {left : Nat} (h : Replays footer worker left) (hsame : Unmoved worker after) :
    Replays footer after left := by
  cases h with
  | replaying session runs hmode hfooter hleads hnext hfails =>
    obtain ⟨execution, last, hat, hhistory, hends⟩ := hleads.way
    have hafter : At after execution :=
      ⟨hsame.position.trans hat.position, hsame.virtual_instant.trans hat.virtual_instant,
        hsame.cpu_clock.trans hat.cpu_clock, hsame.machine ▸ hat.machine⟩
    refine .replaying session runs (hsame.mode.trans hmode) hfooter
      ⟨hleads.cursor, execution, last, hafter, hhistory, hends⟩ ?_ hfails
    rw [hsame.position]
    exact hnext
  | completed session machine hmode hconsumed hstate hposition hmachine hfingerprint =>
    refine .completed session machine (hsame.mode.trans hmode) hconsumed (fun hrunning => ?_)
      (hsame.position.trans hposition) (hsame.machine.trans hmachine) hfingerprint
    obtain hbefore | hrunnable := hsame.runs hrunning
    · exact hstate hbefore
    · exact completed_not_runnable hmode hrunnable

theorem replays_congr {footer : RecordFooter} {left : Nat} (h : Replays footer worker left) (hsame : SameSession worker after)
    (hrests : after.state = .Running → worker.state = .Running) : Replays footer after left :=
  replays_unmoved h (.of_same hsame hrests)

/-- On the way to the end of the Record, or at it. -/
def OnTheWay (footer : RecordFooter) (station : Station host) : Prop := ∃ left, Replays footer station.worker left

variable {reached : Station host} {footer : RecordFooter}

theorem on_the_way_unmoved (h : OnTheWay footer station) (hsame : Unmoved station.worker after) :
    OnTheWay footer (station.with_worker after) := by
  obtain ⟨left, hreplays⟩ := h
  exact ⟨left, replays_unmoved hreplays hsame⟩

theorem on_the_way_congr (h : OnTheWay footer station) (hsame : SameSession station.worker after)
    (hrests : after.state = .Running → station.worker.state = .Running) : OnTheWay footer (station.with_worker after) := by
  obtain ⟨left, hreplays⟩ := h
  exact ⟨left, replays_congr hreplays hsame hrests⟩

/-- The worker is in a Replay, and only a Replay that goes on can be executed. -/
theorem on_the_way_mode (h : OnTheWay footer station) :
    station.worker.mode.is_replay = true ∧ station.worker.mode.is_recording = false ∧
      ((station.worker.state = .Running ∨ station.worker.require_runnable = .ok ()) →
        ∃ session, station.worker.mode = .Replaying session) := by
  obtain ⟨left, hreplays⟩ := h
  cases hreplays with
  | replaying session runs hmode =>
    rw [hmode]
    exact ⟨rfl, rfl, fun _ => ⟨session, rfl⟩⟩
  | completed session machine hmode _ hstate =>
    rw [hmode]
    refine ⟨rfl, rfl, fun hruns => ?_⟩
    obtain hrunning | hrunnable := hruns
    · exact absurd hrunning hstate
    · exact absurd hrunnable (completed_not_runnable hmode)

/-- The instruction of a Replay, and the handling of its error. -/
theorem execute_replay_instruction_on_the_way {result : Except String Unit} (hstorage : around.storage = none)
    (h : OnTheWay footer station) (hmode : station.worker.mode = .Replaying session)
    (hexecute : execute_replay_instruction around station = some (result, reached)) :
    match result with
    | .ok () => OnTheWay footer reached
    | .error error => ∃ machine, session.footer = footer ∧ FailsAsRecorded error reached.worker session machine := by
  obtain ⟨left, hreplays⟩ := h
  obtain ⟨next, further, hnext, -, hleft, -⟩ | ⟨error, next, machine, hnext, -, hfooter, hfailed, -⟩ :=
    execute_replay_instruction_replays hstorage hreplays hmode
  · cases hexecute.symm.trans hnext
    exact ⟨further, hleft⟩
  · cases hexecute.symm.trans hnext
    exact ⟨machine, hfooter, hfailed⟩

theorem handle_execution_error_on_the_way (hstorage : around.storage = none) {machine : host.Machine}
    (hfooter : session.footer = footer) (h : FailsAsRecorded error station.worker session machine)
    (hhandled : handle_execution_error around station error = some reached) : OnTheWay footer reached := by
  obtain ⟨next, hnext, hreplays, -⟩ := handle_execution_error_completes hstorage h
  obtain rfl := Option.some.inj (hhandled.symm.trans hnext)
  exact ⟨0, hfooter ▸ hreplays⟩

theorem execute_instruction_replaying (hmode : station.worker.mode = .Replaying session) :
    execute_instruction around station = execute_replay_instruction around station := by
  unfold execute_instruction
  rw [hmode]
  rfl

theorem step_once_on_the_way (hstorage : around.storage = none) {result : Except CommandRejection RuntimeStatus}
    (h : OnTheWay footer station) (hstep : step_once around station = some (result, reached)) :
    OnTheWay footer reached := by
  refine @step_once_keeps host (OnTheWay footer) station reached around result ?_ ?_ ?_ h hstep
  · exact fun hway hsame hrests => on_the_way_congr hway hsame hrests
  · intro before next hway hrunnable hexecute
    obtain ⟨session, hmode⟩ := (on_the_way_mode hway).2.2 (.inr hrunnable)
    rw [execute_instruction_replaying hmode] at hexecute
    exact execute_replay_instruction_on_the_way hstorage hway hmode hexecute
  · intro before next flushed last error hway hrunnable hexecute hsame _ hhandled
    obtain ⟨session, hmode⟩ := (on_the_way_mode hway).2.2 (.inr hrunnable)
    rw [execute_instruction_replaying hmode] at hexecute
    obtain ⟨machine, hfooter, hfailed⟩ := execute_replay_instruction_on_the_way hstorage hway hmode hexecute
    have hflushed : FailsAsRecorded error (next.with_worker flushed).worker session machine :=
      ⟨hsame.mode.trans hfailed.mode, hfailed.consumed, hsame.position.trans hfailed.position, hfailed.outcome,
        hfailed.fingerprint, hsame.machine.trans hfailed.machine⟩
    exact handle_execution_error_on_the_way hstorage hfooter hflushed hhandled

theorem execute_batch_on_the_way {around : Nat → Surroundings} (hstorage : ∀ index, (around index).storage = none)
    (h : OnTheWay footer station) (hrunning : station.worker.state = .Running)
    (hexecute : execute_batch around station = some reached) : OnTheWay footer reached := by
  obtain ⟨executed, hexecuted, hexecute⟩ := Option.bind_eq_some_iff.mp hexecute
  obtain ⟨flushed, hflushed, hexecute⟩ := Option.bind_eq_some_iff.mp hexecute
  cases hexecute
  refine on_the_way_congr ?_ (.flush_machine_output hflushed) fun hgoing =>
    (flush_machine_output_state hflushed).symm.trans hgoing
  obtain ⟨session, hmode⟩ := (on_the_way_mode h).2.2 (.inl hrunning)
  unfold execute_session_batch at hexecuted
  rw [hmode] at hexecuted
  refine @execute_instructions_keeps host (OnTheWay footer) (fun surroundings => surroundings.storage = none)
    execute_replay_instruction station executed ?_ ?_ ?_ _ _ hstorage h hrunning hexecuted
  · exact fun hway hsame hrests => on_the_way_congr hway hsame hrests
  · intro surroundings before next hhealthy hway hgoing hinstruction
    obtain ⟨session, hmode⟩ := (on_the_way_mode hway).2.2 (.inl hgoing)
    exact execute_replay_instruction_on_the_way hhealthy hway hmode hinstruction
  · intro surroundings before next last error hhealthy hway hgoing hinstruction hhandled
    obtain ⟨session, hmode⟩ := (on_the_way_mode hway).2.2 (.inl hgoing)
    obtain ⟨machine, hfooter, hfailed⟩ := execute_replay_instruction_on_the_way hhealthy hway hmode hinstruction
    exact handle_execution_error_on_the_way hhealthy hfooter hfailed hhandled

end Station

end se_runtime.runtime
