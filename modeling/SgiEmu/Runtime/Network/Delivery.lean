import SgiEmu.Runtime.Network

open se_core se_machine se_machine.ip12 se_network.queue se_network.session

namespace se_runtime.network

open Session

variable {M : Type} {routing : InputRouting M} {machine : M} {trace events : List Event} {session next : Session M}

/-! ## What a run has shown -/

namespace Session

def Event.accepted : Event → Option (List U8)
  | .Accepted frame => some frame
  | _ => none

def Event.consumed : Event → Option MachineInput
  | .Consumed input => some input
  | _ => none

def Event.latched : Event → Option String
  | .Latched reason => some reason
  | _ => none

def Event.reported : Event → Option String
  | .Reported reason => some reason
  | _ => none

end Session

def accepted (trace : List Event) : List (List U8) :=
  trace.filterMap Event.accepted

def consumed (trace : List Event) : List MachineInput :=
  trace.filterMap Event.consumed

def latched (trace : List Event) : List String :=
  trace.filterMap Event.latched

def reported (trace : List Event) : List String :=
  trace.filterMap Event.reported

@[simp] theorem accepted_append : accepted (trace ++ events) = accepted trace ++ accepted events :=
  List.filterMap_append

@[simp] theorem consumed_append : consumed (trace ++ events) = consumed trace ++ consumed events :=
  List.filterMap_append

@[simp] theorem latched_append : latched (trace ++ events) = latched trace ++ latched events :=
  List.filterMap_append

@[simp] theorem reported_append : reported (trace ++ events) = reported trace ++ reported events :=
  List.filterMap_append

/-! ## Received frames -/

/-- The input that has left the queue and that the machine has not consumed. -/
def Session.in_hand (session : Session M) : Option MachineInput :=
  match session.boundary with
  | .ClearReceive frame => frame.map network_input
  | _ => session.pending_network_input

theorem Session.in_hand_eq (h : ∀ frame, session.boundary ≠ .ClearReceive frame) :
    session.in_hand = session.pending_network_input := by
  unfold Session.in_hand
  cases hboundary : session.boundary with
  | ClearReceive frame => exact absurd hboundary (h frame)
  | _ => rfl

/-- The receive bit and the queue agree outside the sections, and inside them up to the
operation that remains. -/
structure Ready (session : Session M) : Prop where
  publish : session.worker = .PublishFrame →
    (∀ frame, session.boundary ≠ .ClearReceive frame) ∧ session.shared.rx.frames ≠ []
  clear : ∀ frame, session.boundary = .ClearReceive frame → session.shared.rx.frames = []
  free : session.rx_free → (session.shared.receive_pending = true ↔ session.shared.rx.frames ≠ [])

/-- No frame is missing between its acceptance and its consumption. -/
structure Conserves (trace : List Event) (session : Session M) : Prop where
  valid : session.shared.rx.Valid
  frames : (accepted trace).map network_input =
    consumed trace ++ session.in_hand.toList ++ session.shared.rx.frames.map network_input
  held : ∀ input, session.in_hand = some input → ∃ frame, input = network_input frame ∧ frame.length ≤ MAX_FRAME_BYTES
  receives : session.boundary = .Receive ∨ session.boundary = .Pop ∨ (∃ frame, session.boundary = .ClearReceive frame) →
    session.pending_network_input = none

namespace Conserves

/-- A step that touches neither the queue nor the held input. -/
theorem congr (h : Conserves trace session) (hrx : next.shared.rx = session.shared.rx)
    (hhand : next.in_hand = session.in_hand)
    (hreceives : next.boundary = .Receive ∨ next.boundary = .Pop ∨ (∃ frame, next.boundary = .ClearReceive frame) →
      next.pending_network_input = none)
    (haccepted : accepted events = []) (hconsumed : consumed events = []) : Conserves (trace ++ events) next := by
  obtain ⟨hvalid, hframes, hheld, _⟩ := h
  refine ⟨?_, ?_, ?_, hreceives⟩
  · rw [hrx]
    exact hvalid
  · rw [accepted_append, consumed_append, haccepted, hconsumed, List.append_nil, List.append_nil, hhand, hrx]
    exact hframes
  · rw [hhand]
    exact hheld

/-- The same, for a step of the runtime that keeps the held input and ends outside the
receive section. -/
theorem moves (h : Conserves trace session) (hrx : next.shared.rx = session.shared.rx)
    (hpending : next.pending_network_input = session.pending_network_input)
    (hbefore : ∀ frame, session.boundary ≠ .ClearReceive frame)
    (hafter : next.boundary ≠ .Receive ∧ next.boundary ≠ .Pop ∧ ∀ frame, next.boundary ≠ .ClearReceive frame)
    (haccepted : accepted events = []) (hconsumed : consumed events = []) : Conserves (trace ++ events) next := by
  obtain ⟨hreceive, hpop, hclear⟩ := hafter
  have hhand : next.in_hand = session.in_hand := by
    rw [Session.in_hand_eq hclear, Session.in_hand_eq hbefore, hpending]
  refine h.congr hrx hhand ?_ haccepted hconsumed
  rintro (hboundary | hboundary | ⟨frame, hboundary⟩)
  · exact absurd hboundary hreceive
  · exact absurd hboundary hpop
  · exact absurd hboundary (hclear frame)

end Conserves

/-- A delivery within the bound is never refused with an error: the input stays held, or
the machine consumes it. -/
theorem deliver_cases (recorded : Bool) (hboundary : session.boundary = .Deliver) (h : Conserves trace session) :
    ((session.deliver routing recorded).1 = [] ∧
        (session.deliver routing recorded).2.pending_network_input = session.pending_network_input ∧
        (session.deliver routing recorded).2.boundary = .Failure ∨
      ∃ input, session.pending_network_input = some input ∧ (session.deliver routing recorded).1 = [.Consumed input] ∧
        (session.deliver routing recorded).2.pending_network_input = none ∧
        (session.deliver routing recorded).2.boundary = if recorded then .Failure else .Instruction) ∧
      (session.deliver routing recorded).2.shared = session.shared ∧
      (session.deliver routing recorded).2.worker = session.worker ∧
      (session.deliver routing recorded).2.network_error = session.network_error := by
  have hhand : session.in_hand = session.pending_network_input := Session.in_hand_eq (by simp [hboundary])
  unfold Session.deliver
  cases hpending : session.pending_network_input with
  | none => exact ⟨Or.inl ⟨rfl, rfl, rfl⟩, rfl, rfl, rfl⟩
  | some input =>
    obtain ⟨frame, rfl, hbound⟩ := h.held input (hhand.trans hpending)
    simp only [network_input]
    rw [routing.input_readiness_ethernet session.machine hbound,
      routing.try_receive_input_ethernet session.machine hbound]
    cases routing.ethernet_receive_ready session.machine with
    | false => exact ⟨Or.inl ⟨rfl, rfl, rfl⟩, rfl, rfl, rfl⟩
    | true =>
      cases (routing.receive_ethernet session.machine frame).1 with
      | false => exact ⟨Or.inl ⟨rfl, rfl, rfl⟩, rfl, rfl, rfl⟩
      | true =>
        cases recorded with
        | true => exact ⟨Or.inr ⟨_, rfl, rfl, rfl, rfl⟩, rfl, rfl, rfl⟩
        | false => exact ⟨Or.inr ⟨_, rfl, rfl, rfl, rfl⟩, rfl, rfl, rfl⟩

/-- A failure is taken past the queue and the held input. -/
theorem Session.take_failure_cases (session : Session M) :
    session.take_failure.1 = session.shared.acknowledge_failure.1.toList.map .Reported ∧
      session.take_failure.2.shared = session.shared.fetch_and (~~~FAILURE_PENDING) ∧
      session.take_failure.2.worker = session.worker ∧
      session.take_failure.2.boundary = .Instruction ∧
      session.take_failure.2.pending_network_input = session.pending_network_input := by
  have hshared : session.shared.acknowledge_failure.2 = session.shared.fetch_and (~~~FAILURE_PENDING) := rfl
  unfold Session.take_failure
  generalize session.shared.acknowledge_failure = answer at hshared ⊢
  obtain ⟨_ | reason, shared⟩ := answer
  · exact ⟨rfl, hshared, rfl, rfl, rfl⟩
  · unfold Session.fail_network
    dsimp only
    split
    · exact ⟨rfl, hshared, rfl, rfl, rfl⟩
    · exact ⟨rfl, hshared, rfl, rfl, rfl⟩

theorem step_conserves (h : Conserves trace session) (hstep : Step routing session events next) :
    Conserves (trace ++ events) next := by
  cases hstep with
  | push_received_frame bytes hidle hfree =>
    obtain ⟨hvalid, hframes, hheld, hreceives⟩ := h
    obtain ⟨hpushed, ⟨haccept, hqueue⟩ | ⟨hrefuse, hqueue⟩⟩ := FrameQueue.push_spec hvalid bytes
    · refine ⟨hpushed, ?_, hheld, hreceives⟩
      simp only [Shared.push_received_frame, haccept, if_true, hqueue, accepted_append, consumed_append, List.map_append,
        hframes]
      simp only [accepted, consumed, List.filterMap_cons, List.filterMap_nil, List.append_assoc]
      rfl
    · refine ⟨hpushed, ?_, hheld, hreceives⟩
      simp only [Shared.push_received_frame, hrefuse, hqueue, Bool.false_eq_true, if_false, List.append_nil]
      exact hframes
  | publish_frame hpublish => exact h.congr rfl rfl h.receives rfl rfl
  | latch_failure reason hidle =>
    refine h.congr ?_ rfl h.receives rfl rfl
    simp only [Shared.latch_failure]
    split <;> rfl
  | publish_failure hpublish => exact h.congr rfl rfl h.receives rfl rfl
  | stop hstop => exact h.congr rfl rfl h.receives rfl rfl
  | instruction machine hinstruction => exact h.congr rfl rfl h.receives rfl rfl
  | process_network_boundary hinstruction =>
    have hhand : session.in_hand = session.pending_network_input := Session.in_hand_eq (by simp [hinstruction])
    unfold Session.process_network_boundary
    split
    · exact h.congr rfl rfl h.receives rfl rfl
    · split
      case isTrue hnone => exact h.congr rfl hhand.symm (fun _ => Option.isNone_iff_eq_none.mp hnone) rfl rfl
      case isFalse => exact h.moves rfl rfl (by simp [hinstruction]) (by simp) rfl rfl
  | load_receive hreceive =>
    have hhand : session.in_hand = session.pending_network_input := Session.in_hand_eq (by simp [hreceive])
    have hnone := h.receives (Or.inl hreceive)
    unfold Session.load_receive
    split
    · exact h.congr rfl hhand.symm (fun _ => hnone) rfl rfl
    · exact h.congr rfl hhand.symm (fun _ => hnone) rfl rfl
  | try_receive_frame hpop hfree =>
    have hhand : session.in_hand = session.pending_network_input := Session.in_hand_eq (by simp [hpop])
    have hnone := h.receives (Or.inr (Or.inl hpop))
    obtain ⟨hvalid, hframes, hheld, hreceives⟩ := h
    obtain ⟨hpopped, hqueue, hbound, _⟩ := FrameQueue.pop_spec hvalid
    rw [hhand, hnone, hqueue, List.map_append] at hframes
    have hinput : ∀ input, (session.shared.rx.pop.1.map network_input) = some input →
        ∃ frame, input = network_input frame ∧ frame.length ≤ MAX_FRAME_BYTES := by
      intro input hsome
      obtain ⟨frame, hframe, rfl⟩ := Option.map_eq_some_iff.mp hsome
      exact ⟨frame, rfl, hbound frame hframe⟩
    have hlist : (session.shared.rx.pop.1.map network_input).toList = session.shared.rx.pop.1.toList.map network_input := by
      cases session.shared.rx.pop.1 <;> rfl
    unfold Session.try_receive_frame Shared.pop_received_frame
    dsimp only
    split
    · refine ⟨hpopped, ?_, hinput, fun _ => hnone⟩
      simp only [List.append_nil, Session.in_hand, hlist, List.append_assoc]
      simpa only [Option.toList_none, List.nil_append, List.append_nil, List.append_assoc] using hframes
    · have hor : (session.shared.rx.pop.1.map network_input).or session.pending_network_input =
          session.shared.rx.pop.1.map network_input := by
        rw [hnone, Option.or_none]
      refine ⟨hpopped, ?_, ?_, ?_⟩
      · simp only [List.append_nil, Session.in_hand, hold, hor, hlist, List.append_assoc]
        simpa only [Option.toList_none, List.nil_append, List.append_nil, List.append_assoc] using hframes
      · simp only [Session.in_hand, hold, hor]
        exact hinput
      · rintro (hboundary | hboundary | ⟨frame, hboundary⟩)
        all_goals simp [hold] at hboundary
  | clear_receive frame hclear =>
    have hnone := h.receives (Or.inr (Or.inr ⟨frame, hclear⟩))
    refine h.congr rfl ?_ ?_ rfl rfl
    · simp only [Session.in_hand, hold, hclear, hnone, Option.or_none]
    · rintro (hboundary | hboundary | ⟨frame, hboundary⟩)
      all_goals simp [hold] at hboundary
  | deliver recorded hdeliver =>
    have hhand : session.in_hand = session.pending_network_input := Session.in_hand_eq (by simp [hdeliver])
    have hcases := @deliver_cases M routing trace session recorded hdeliver h
    generalize session.deliver routing recorded = delivered at hcases ⊢
    obtain ⟨⟨hevents, hpending, hboundary⟩ | ⟨input, hinput, hevents, hpending, hboundary⟩, hshared, _, _⟩ := hcases
    · refine h.moves (by rw [hshared]) hpending (by simp [hdeliver]) (by simp [hboundary]) ?_ ?_
      · rw [hevents]
        rfl
      · rw [hevents]
        rfl
    · have hempty : delivered.2.in_hand = none := by
        unfold Session.in_hand
        rw [hboundary, hpending]
        cases recorded <;> rfl
      refine ⟨by rw [hshared]; exact h.valid, ?_, ?_, fun _ => hpending⟩
      · have hframes := h.frames
        rw [hhand, hinput] at hframes
        have haccepted : accepted [Event.Consumed input] = [] := rfl
        have hconsumed : consumed [Event.Consumed input] = [input] := rfl
        rw [accepted_append, consumed_append, hevents, hempty, hshared, haccepted, hconsumed, List.append_nil, hframes]
        simp only [Option.toList_some, Option.toList_none, List.append_nil]
      · rw [hempty]
        intro input hsome
        simp at hsome
  | load_failure hfailure =>
    unfold Session.load_failure
    split
    · exact h.moves rfl rfl (by simp [hfailure]) (by simp) rfl rfl
    · exact h.moves rfl rfl (by simp [hfailure]) (by simp) rfl rfl
  | take_failure htake hfree =>
    obtain ⟨hevents, hshared, _, hboundary, hpending⟩ := session.take_failure_cases
    refine h.moves ?_ hpending (by simp [htake]) (by simp [hboundary]) ?_ ?_
    · rw [hshared]
      rfl
    · rw [hevents]
      cases session.shared.acknowledge_failure.1 <;> rfl
    · rw [hevents]
      cases session.shared.acknowledge_failure.1 <;> rfl

/-! ## Readiness -/

namespace Ready

/-- A step outside the receive sections that leaves the queue and its bit alone. -/
theorem congr (h : Ready session) (hrx : next.shared.rx = session.shared.rx)
    (hbit : next.shared.receive_pending = session.shared.receive_pending)
    (hworker : next.worker = .PublishFrame ↔ session.worker = .PublishFrame)
    (hboundary : ∀ frame, next.boundary = .ClearReceive frame ↔ session.boundary = .ClearReceive frame) : Ready next := by
  obtain ⟨hpublish, hclear, hfree⟩ := h
  refine ⟨fun hnext => ?_, fun frame hnext => ?_, fun hnext => ?_⟩
  · obtain ⟨hother, hqueued⟩ := hpublish (hworker.mp hnext)
    rw [hrx]
    exact ⟨fun frame hcleared => hother frame ((hboundary frame).mp hcleared), hqueued⟩
  · rw [hrx]
    exact hclear frame ((hboundary frame).mp hnext)
  · rw [hrx, hbit]
    apply hfree
    exact ⟨fun hpublished => hnext.1 (hworker.mpr hpublished),
      fun frame hcleared => hnext.2 frame ((hboundary frame).mpr hcleared)⟩

/-- The same, for a step of the runtime between two points outside the receive section. -/
theorem moves (h : Ready session) (hrx : next.shared.rx = session.shared.rx)
    (hbit : next.shared.receive_pending = session.shared.receive_pending) (hworker : next.worker = session.worker)
    (hbefore : ∀ frame, session.boundary ≠ .ClearReceive frame) (hafter : ∀ frame, next.boundary ≠ .ClearReceive frame) :
    Ready next :=
  h.congr hrx hbit (by rw [hworker]) fun frame => iff_of_false (hafter frame) (hbefore frame)

end Ready

theorem start_ready (machine : M) : Ready (Session.start machine) := by
  refine ⟨fun hpublish => ?_, fun frame hclear => ?_, fun _ => ?_⟩
  · cases hpublish
  · cases hclear
  · simp [Session.start, Shared.default, Shared.receive_pending, FrameQueue.default]

theorem step_ready (hconserves : Conserves trace session) (h : Ready session)
    (hstep : Step routing session events next) : Ready next := by
  cases hstep with
  | push_received_frame bytes hidle hfree =>
    obtain ⟨_, ⟨haccept, hqueue⟩ | ⟨hrefuse, hqueue⟩⟩ := FrameQueue.push_spec hconserves.valid bytes
    · have hqueued : (session.shared.rx.push bytes).2.frames ≠ [] := by
        rw [hqueue]
        simp
      refine ⟨fun _ => ⟨hfree.2, hqueued⟩, fun frame hclear => absurd hclear (hfree.2 frame), fun hnext => ?_⟩
      -- Outside the section the queue was not empty, so its bit is already set.
      have hnonempty : session.shared.rx.frames ≠ [] := by
        intro hempty
        have his_empty := FrameQueue.is_empty_iff.mpr hempty
        apply hnext.1
        simp only [Shared.push_received_frame, haccept, his_empty, Bool.and_self, if_true]
      have hbit := (h.free hfree).mpr hnonempty
      exact iff_of_true hbit hqueued
    · refine h.congr ?_ rfl ?_ fun frame => Iff.rfl
      · simp only [Shared.push_received_frame, hqueue]
      · simp only [Shared.push_received_frame, hrefuse, Bool.false_and, Bool.false_eq_true, if_false, hidle]
  | publish_frame hpublish =>
    obtain ⟨hother, hqueued⟩ := h.publish hpublish
    refine ⟨fun hnext => ?_, fun frame hclear => absurd hclear (hother frame), fun _ => ?_⟩
    · simp at hnext
    · exact iff_of_true session.shared.fetch_or_receive.1 hqueued
  | latch_failure reason hidle =>
    refine h.congr ?_ ?_ ?_ fun frame => Iff.rfl
    · simp only [Shared.latch_failure]
      split <;> rfl
    · simp only [Shared.latch_failure]
      split <;> rfl
    · simp only [Shared.latch_failure, hidle]
      split <;> simp
  | publish_failure hpublish =>
    refine h.congr rfl session.shared.fetch_or_failure.2 ?_ fun frame => Iff.rfl
    simp [hpublish]
  | stop hstop =>
    refine h.congr rfl rfl ?_ fun frame => Iff.rfl
    simp [hstop]
  | instruction machine hinstruction => exact h.congr rfl rfl Iff.rfl fun frame => Iff.rfl
  | process_network_boundary hinstruction =>
    unfold Session.process_network_boundary
    split
    · exact h
    · split
      · exact h.moves rfl rfl rfl (by simp [hinstruction]) (by simp)
      · exact h.moves rfl rfl rfl (by simp [hinstruction]) (by simp)
  | load_receive hreceive =>
    unfold Session.load_receive
    split
    · exact h.moves rfl rfl rfl (by simp [hreceive]) (by simp)
    · exact h.moves rfl rfl rfl (by simp [hreceive]) (by simp)
  | try_receive_frame hpop hfree =>
    have hbit := h.free hfree
    obtain ⟨_, hqueue, _, hnone⟩ := FrameQueue.pop_spec hconserves.valid
    unfold Session.try_receive_frame Shared.pop_received_frame
    dsimp only
    split
    case isTrue hempty =>
      refine ⟨fun hpublish => absurd hpublish hfree.1, fun frame _ => FrameQueue.is_empty_iff.mp hempty, fun hnext => ?_⟩
      exact absurd rfl (hnext.2 _)
    case isFalse hqueued =>
      rw [FrameQueue.is_empty_iff] at hqueued
      have hheld : session.shared.rx.frames ≠ [] := by
        rw [hqueue]
        intro hempty
        exact hqueued (List.append_eq_nil_iff.mp hempty).2
      refine ⟨fun hpublish => absurd hpublish hfree.1, fun frame hclear => ?_, fun _ => ?_⟩
      · simp [hold] at hclear
      · exact iff_of_true (hbit.mpr hheld) hqueued
  | clear_receive frame hclear =>
    have hempty := h.clear frame hclear
    refine ⟨fun hpublish => ?_, fun frame hnext => ?_, fun _ => ?_⟩
    · exact absurd hclear ((h.publish hpublish).1 frame)
    · simp [hold] at hnext
    · have hcleared := session.shared.fetch_and_receive.1
      simp only [hold, hcleared, Bool.false_eq_true, false_iff, not_not]
      exact hempty
  | deliver recorded hdeliver =>
    obtain ⟨hcases, hshared, hworker, _⟩ := @deliver_cases M routing trace session recorded hdeliver hconserves
    have hafter : ∀ frame, (session.deliver routing recorded).2.boundary ≠ .ClearReceive frame := by
      intro frame
      obtain ⟨_, _, hboundary⟩ | ⟨_, _, _, _, hboundary⟩ := hcases
      · simp [hboundary]
      · rw [hboundary]
        cases recorded <;> simp
    exact h.moves (by rw [hshared]) (by rw [hshared]) hworker (by simp [hdeliver]) hafter
  | load_failure hfailure =>
    unfold Session.load_failure
    split
    · exact h.moves rfl rfl rfl (by simp [hfailure]) (by simp)
    · exact h.moves rfl rfl rfl (by simp [hfailure]) (by simp)
  | take_failure htake hfree =>
    obtain ⟨_, hshared, hworker, hboundary, _⟩ := session.take_failure_cases
    refine h.moves ?_ ?_ hworker (by simp [htake]) (by simp [hboundary])
    · rw [hshared]
      rfl
    · rw [hshared]
      exact session.shared.fetch_and_failure.2

/-! ## Failures -/

/-- The first latched failure is reported once its bit is cleared, and nothing before or
after it. -/
structure Reports (trace : List Event) (session : Session M) : Prop where
  first : session.shared.failure = (latched trace).head?
  publishing : session.worker = .PublishFailure → latched trace ≠ []
  unpublished : latched trace = [] ∨ session.worker = .PublishFailure →
    session.shared.failure_pending = false ∧ reported trace = []
  published : latched trace ≠ [] → session.worker ≠ .PublishFailure →
    session.shared.failure_pending = true ∧ reported trace = [] ∨
      session.shared.failure_pending = false ∧ reported trace = (latched trace).head?.toList
  taking : session.boundary = .TakeFailure → session.shared.failure_pending = true

namespace Reports

/-- A step that shows no failure and leaves the failure and its bit alone. -/
theorem congr (h : Reports trace session) (hlatched : latched events = []) (hreported : reported events = [])
    (hfailure : next.shared.failure = session.shared.failure)
    (hbit : next.shared.failure_pending = session.shared.failure_pending)
    (hworker : next.worker = .PublishFailure ↔ session.worker = .PublishFailure)
    (htaking : next.boundary = .TakeFailure → session.boundary = .TakeFailure ∨ session.shared.failure_pending = true) :
    Reports (trace ++ events) next := by
  obtain ⟨hfirst, hpublishing, hunpublished, hpublished, htake⟩ := h
  refine ⟨?_, ?_, ?_, ?_, ?_⟩
  · rw [latched_append, hlatched, List.append_nil, hfailure]
    exact hfirst
  · rw [latched_append, hlatched, List.append_nil, hworker]
    exact hpublishing
  · rw [latched_append, reported_append, hlatched, hreported, List.append_nil, List.append_nil, hworker, hbit]
    exact hunpublished
  · rw [latched_append, reported_append, hlatched, hreported, List.append_nil, List.append_nil, ne_eq (a := next.worker),
      hworker, hbit]
    exact hpublished
  · intro hnext
    rw [hbit]
    obtain hbefore | hset := htaking hnext
    · exact htake hbefore
    · exact hset

end Reports

theorem start_reports (machine : M) : Reports [] (Session.start machine) := by
  refine ⟨rfl, fun hpublish => ?_, fun _ => ⟨?_, rfl⟩, fun hlatched => absurd rfl hlatched, fun htake => ?_⟩
  · cases hpublish
  · simp [Session.start, Shared.default, Shared.failure_pending]
  · cases htake

theorem step_reports (hconserves : Conserves trace session) (h : Reports trace session)
    (hstep : Step routing session events next) : Reports (trace ++ events) next := by
  cases hstep with
  | push_received_frame bytes hidle hfree =>
    have hworker : (session.shared.push_received_frame bytes).2.1 = .PublishFailure ↔ session.worker = .PublishFailure := by
      simp only [Shared.push_received_frame, hidle]
      split <;> simp
    have hshown : ∀ accepted : Bool, latched (if accepted = true then [Event.Accepted bytes] else []) = [] ∧
        reported (if accepted = true then [Event.Accepted bytes] else []) = [] := by
      intro accepted
      cases accepted <;> exact ⟨rfl, rfl⟩
    exact h.congr (hshown _).1 (hshown _).2 rfl rfl hworker Or.inl
  | publish_frame hpublish =>
    exact h.congr rfl rfl rfl session.shared.fetch_or_receive.2 (by simp [hpublish]) Or.inl
  | latch_failure reason hidle =>
    obtain ⟨hfirst, _, hunpublished, hpublished, htake⟩ := h
    have hworker : session.worker ≠ .PublishFailure := by simp [hidle]
    cases hlatched : latched trace with
    | nil =>
      have hnone : session.shared.failure = none := by rw [hfirst, hlatched]; rfl
      obtain ⟨hbit, hreported⟩ := hunpublished (Or.inl hlatched)
      have hlatch : session.shared.latch_failure reason = (.PublishFailure, { session.shared with failure := some reason }) := by
        simp only [Shared.latch_failure, hnone, Option.isNone_none, if_true]
      rw [hlatch]
      refine ⟨?_, fun _ => ?_, fun _ => ⟨hbit, ?_⟩, fun _ hnext => absurd rfl hnext, htake⟩
      · rw [latched_append, hlatched]
        rfl
      · rw [latched_append]
        simp [latched, Event.latched]
      · rw [reported_append, hreported]
        rfl
    | cons first rest =>
      have hsome : session.shared.failure = some first := by rw [hfirst, hlatched]; rfl
      have hlatch : session.shared.latch_failure reason = (.Stop, session.shared) := by
        simp only [Shared.latch_failure, hsome, Option.isNone_some, Bool.false_eq_true, if_false]
      have hpublished := hpublished (by rw [hlatched]; simp) hworker
      rw [hlatch]
      refine ⟨?_, fun hnext => ?_, ?_, fun _ _ => ?_, htake⟩
      · rw [latched_append, hlatched]
        exact hsome
      · cases hnext
      · rintro (hempty | hnext)
        · rw [latched_append, hlatched] at hempty
          simp at hempty
        · cases hnext
      · rw [latched_append, reported_append]
        rw [hlatched] at hpublished ⊢
        have hreported : reported [Event.Latched reason] = [] := rfl
        rw [hreported, List.append_nil]
        exact hpublished
  | publish_failure hpublish =>
    obtain ⟨hbit, hreported⟩ := h.unpublished (Or.inr hpublish)
    have hset := session.shared.fetch_or_failure.1
    rw [List.append_nil]
    refine ⟨h.first, fun hnext => ?_, ?_, fun _ _ => Or.inl ⟨hset, hreported⟩, fun _ => hset⟩
    · cases hnext
    · rintro (hempty | hnext)
      · exact absurd hempty (h.publishing hpublish)
      · cases hnext
  | stop hstop => exact h.congr rfl rfl rfl rfl (by simp [hstop]) Or.inl
  | instruction machine hinstruction => exact h.congr rfl rfl rfl rfl Iff.rfl Or.inl
  | process_network_boundary hinstruction =>
    unfold Session.process_network_boundary
    split
    · exact h.congr rfl rfl rfl rfl Iff.rfl Or.inl
    · split
      · exact h.congr rfl rfl rfl rfl Iff.rfl (by simp)
      · exact h.congr rfl rfl rfl rfl Iff.rfl (by simp)
  | load_receive hreceive =>
    unfold Session.load_receive
    split
    · exact h.congr rfl rfl rfl rfl Iff.rfl (by simp)
    · exact h.congr rfl rfl rfl rfl Iff.rfl (by simp)
  | try_receive_frame hpop hfree =>
    unfold Session.try_receive_frame Shared.pop_received_frame
    dsimp only
    split
    · exact h.congr rfl rfl rfl rfl Iff.rfl (by simp)
    · exact h.congr rfl rfl rfl rfl Iff.rfl (by simp [hold])
  | clear_receive frame hclear =>
    exact h.congr rfl rfl rfl session.shared.fetch_and_receive.2 Iff.rfl (by simp [hold])
  | deliver recorded hdeliver =>
    obtain ⟨hcases, hshared, hworker, _⟩ := @deliver_cases M routing trace session recorded hdeliver hconserves
    obtain ⟨hevents, _, hboundary⟩ | ⟨input, _, hevents, _, hboundary⟩ := hcases
    · exact h.congr (by rw [hevents]; rfl) (by rw [hevents]; rfl) (by rw [hshared]) (by rw [hshared]) (by rw [hworker])
        (by simp [hboundary])
    · refine h.congr (by rw [hevents]; rfl) (by rw [hevents]; rfl) (by rw [hshared]) (by rw [hshared]) (by rw [hworker]) ?_
      rw [hboundary]
      cases recorded <;> simp
  | load_failure hfailure =>
    unfold Session.load_failure
    split
    case isTrue hset => exact h.congr rfl rfl rfl rfl Iff.rfl fun _ => Or.inr hset
    case isFalse => exact h.congr rfl rfl rfl rfl Iff.rfl (by simp)
  | take_failure htake hfree =>
    obtain ⟨hevents, hshared, hworker, hboundary, _⟩ := session.take_failure_cases
    have hset := h.taking htake
    have hlatched : latched trace ≠ [] := by
      intro hempty
      have hclear := (h.unpublished (Or.inl hempty)).1
      rw [hset] at hclear
      cases hclear
    have hreported : reported trace = [] := by
      obtain ⟨_, hreported⟩ | ⟨hclear, _⟩ := h.published hlatched hfree.1
      · exact hreported
      · rw [hset] at hclear
        cases hclear
    have hanswer : session.shared.acknowledge_failure.1 = (latched trace).head? := by
      simp only [Shared.acknowledge_failure, hset, if_true, h.first]
    have hshown : ∀ failure : Option String, latched (failure.toList.map Event.Reported) = [] ∧
        reported (failure.toList.map Event.Reported) = failure.toList := by
      intro failure
      cases failure <;> exact ⟨rfl, rfl⟩
    have hclear := session.shared.fetch_and_failure.1
    rw [hevents, hanswer]
    refine ⟨?_, fun hnext => ?_, ?_, fun _ _ => Or.inr ⟨?_, ?_⟩, fun hnext => ?_⟩
    · rw [latched_append, (hshown _).1, List.append_nil, hshared]
      exact h.first
    · rw [hworker] at hnext
      exact absurd hnext hfree.1
    · rw [latched_append, (hshown _).1, List.append_nil, hworker]
      rintro (hempty | hnext)
      · exact absurd hempty hlatched
      · exact absurd hnext hfree.1
    · rw [hshared]
      exact hclear
    · rw [reported_append, (hshown _).2, latched_append, (hshown _).1, hreported, List.append_nil, List.nil_append]
    · rw [hboundary] at hnext
      cases hnext

/-! ## Runs -/

theorem start_conserves (machine : M) : Conserves [] (Session.start machine) := by
  refine ⟨FrameQueue.valid_default, rfl, fun input hheld => ?_, fun _ => rfl⟩
  simp [Session.start, Session.in_hand] at hheld

theorem Run.invariants (hrun : Run routing machine trace session) :
    Conserves trace session ∧ Ready session ∧ Reports trace session := by
  induction hrun with
  | start => exact ⟨start_conserves machine, start_ready machine, start_reports machine⟩
  | step _ hstep ih =>
    obtain ⟨hconserves, hready, hreports⟩ := ih
    exact ⟨step_conserves hconserves hstep, step_ready hconserves hready hstep, step_reports hconserves hreports hstep⟩

/-- Whatever the order of the steps: the receive bit tells of a queued frame, the accepted
frames are those consumed, the one in hand and those queued, in that order, the queue keeps
its bounds, and of the latched failures the first is reported, once, by the first check
that follows its publication. -/
theorem Run.delivers (hrun : Run routing machine trace session) :
    (session.rx_free → (session.shared.receive_pending = true ↔ session.shared.rx.frames ≠ [])) ∧
      (accepted trace).map network_input =
        consumed trace ++ session.in_hand.toList ++ session.shared.rx.frames.map network_input ∧
      session.shared.rx.Valid ∧
      (reported trace = [] ∨ ∃ first, (latched trace).head? = some first ∧ reported trace = [first]) ∧
      (∀ first, (latched trace).head? = some first → session.worker ≠ .PublishFailure → reported trace = [] →
        session.shared.has_pending_work = true ∧ session.load_failure.boundary = .TakeFailure ∧
          session.take_failure.1 = [.Reported first]) ∧
      (session.boundary = .Deliver → (session.deliver routing true).2.boundary = .Failure) := by
  obtain ⟨hconserves, hready, hreports⟩ := hrun.invariants
  refine ⟨hready.free, hconserves.frames, hconserves.valid, ?_, fun first hfirst hworker hsilent => ?_, fun hdeliver => ?_⟩
  · by_cases hlatched : latched trace = []
    · exact Or.inl (hreports.unpublished (Or.inl hlatched)).2
    · by_cases hworker : session.worker = .PublishFailure
      · exact Or.inl (hreports.unpublished (Or.inr hworker)).2
      · obtain ⟨_, hreported⟩ | ⟨_, hreported⟩ := hreports.published hlatched hworker
        · exact Or.inl hreported
        · obtain ⟨first, hfirst⟩ := Option.ne_none_iff_exists'.mp (mt List.head?_eq_none_iff.mp hlatched)
          rw [hfirst] at hreported
          exact Or.inr ⟨first, hfirst, hreported⟩
  · have hlatched : latched trace ≠ [] := by
      intro hempty
      rw [hempty] at hfirst
      cases hfirst
    have hset : session.shared.failure_pending = true := by
      obtain ⟨hset, _⟩ | ⟨_, hreported⟩ := hreports.published hlatched hworker
      · exact hset
      · rw [hsilent, hfirst] at hreported
        cases hreported
    have hanswer : session.shared.acknowledge_failure.1 = some first := by
      simp only [Shared.acknowledge_failure, hset, if_true, hreports.first, hfirst]
    refine ⟨Shared.has_pending_work_of_failure hset, ?_, ?_⟩
    · simp only [Session.load_failure, hset, if_true]
    · rw [session.take_failure_cases.1, hanswer]
      rfl
  · obtain ⟨⟨_, _, hboundary⟩ | ⟨_, _, _, _, hboundary⟩, _⟩ :=
      @deliver_cases M routing trace session true hdeliver hconserves
    · exact hboundary
    · exact hboundary

/-- A machine without input devices whose Ethernet receiver is closed. -/
def closed_receiver : InputRouting Unit where
  has_sgi_keyboard _ := false
  has_sgi_mouse _ := false
  has_video_output _ := false
  translates_keyboard_key _ := false
  ethernet_receive_ready _ := false
  receive_ethernet machine _ := (false, machine)
  receive_frontend machine _ := (.error .UnknownEndpoint, machine)

/-- A session whose worker is idle. -/
def idle_session (frames : List (List U8)) (bytes : Nat) (pending : U8) (boundary : BoundarySection)
    (pending_network_input : Option MachineInput) : Session Unit :=
  { shared := { rx := ⟨frames, bytes⟩, failure := none, pending, stopped := false }
    worker := .Idle
    boundary
    pending_network_input
    machine := ()
    network_error := none }

/-- A frame that is pushed, taken from the queue and refused stays in hand. -/
theorem Run.delivers_closed_receiver :
    (accepted [.Accepted [7]]).map network_input =
      consumed [.Accepted [7]] ++ (idle_session [] 0 0 .Failure (some (network_input [7]))).in_hand.toList ++
        (idle_session [] 0 0 .Failure (some (network_input [7]))).shared.rx.frames.map network_input := by
  have hpushed : Run closed_receiver () [.Accepted [7]]
      { idle_session [[7]] 1 0 .Instruction none with worker := .PublishFrame } :=
    Run.start.step (.push_received_frame (Session.start ()) [7] rfl ⟨nofun, nofun⟩)
  have hpublished : Run closed_receiver () [.Accepted [7]] (idle_session [[7]] 1 1 .Instruction none) :=
    hpushed.step (.publish_frame _ rfl)
  have hentered : Run closed_receiver () [.Accepted [7]] (idle_session [[7]] 1 1 .Receive none) :=
    hpublished.step (.process_network_boundary _ rfl)
  have hloaded : Run closed_receiver () [.Accepted [7]] (idle_session [[7]] 1 1 .Pop none) :=
    hentered.step (.load_receive _ rfl)
  have hpopped : Run closed_receiver () [.Accepted [7]] (idle_session [] 0 1 (.ClearReceive (some [7])) none) :=
    hloaded.step (.try_receive_frame _ rfl ⟨nofun, nofun⟩)
  have hcleared : Run closed_receiver () [.Accepted [7]] (idle_session [] 0 0 .Deliver (some (network_input [7]))) :=
    hpopped.step (.clear_receive (idle_session [] 0 1 (.ClearReceive (some [7])) none) (some [7]) rfl)
  have hdelivered : Run closed_receiver () [.Accepted [7]] (idle_session [] 0 0 .Failure (some (network_input [7]))) :=
    hcleared.step (.deliver _ true rfl)
  exact (Run.delivers hdelivered).2.1

end se_runtime.network
