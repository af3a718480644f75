import SgiEmu.Runtime.Record.Frames
import Mathlib.Data.List.Chain

open se_core se_machine Library.Chunks

namespace se_runtime.record

variable {Manifest : Type} {codec : RecordCodec Manifest} {bytes rest : List U8} {frame : RecordFrame Manifest}
  {frames : List (RecordFrame Manifest)} {payloads : List (List U8)} {parsed next : ParsedFrames Manifest}

/-- Positions in the order the timeline asks for: none is before its predecessor. -/
def NonDecreasing (positions : List ExecutionPosition) : Prop :=
  positions.IsChain fun previous current => ¬current < previous

/-- The bytes of a sequence of frames. -/
def stream_bytes (codec : RecordCodec Manifest) (payloads : List (List U8)) : List U8 :=
  (payloads.map (frame_bytes codec)).flatten

/-- Frames taken one after the other, none of them after a footer. -/
inductive Accepts : ParsedFrames Manifest → List (RecordFrame Manifest) → ParsedFrames Manifest → Prop where
  | nil (parsed : ParsedFrames Manifest) : Accepts parsed [] parsed
  | cons {parsed middle next : ParsedFrames Manifest} {frame : RecordFrame Manifest}
    {frames : List (RecordFrame Manifest)} : parsed.footer = none → parsed.accept frame = .ok middle →
    Accepts middle frames next → Accepts parsed (frame :: frames) next

/-! ## The loop -/

theorem parse_frames_cons {payload : List U8} (h : Carries codec payload frame) (hfooter : parsed.footer = none)
    (haccept : parsed.accept frame = .ok next) :
    parse_frames codec (frame_bytes codec payload ++ rest) parsed = parse_frames codec rest next := by
  have hempty : (frame_bytes codec payload ++ rest).isEmpty = false := rfl
  have hfooter : parsed.footer.isSome = false := by rw [hfooter]; rfl
  rw [parse_frames, hempty, hfooter]
  simp only [Bool.false_eq_true, if_false]
  split
  case h_1 error hread =>
    rw [read_frame_whole h rest] at hread
    cases hread
  case h_2 read remaining hread =>
    rw [read_frame_whole h rest] at hread
    cases hread
    rw [haccept]

theorem parse_frames_refuses {payload : List U8} (h : Carries codec payload frame) {error : RecordError}
    (haccept : parsed.accept frame = .error error) :
    ∃ error, parse_frames codec (frame_bytes codec payload ++ rest) parsed = .error error := by
  have hempty : (frame_bytes codec payload ++ rest).isEmpty = false := rfl
  rw [parse_frames, hempty]
  simp only [Bool.false_eq_true, if_false]
  split
  · exact ⟨_, rfl⟩
  · split
    case h_1 error hread =>
      rw [read_frame_whole h rest] at hread
      cases hread
    case h_2 read remaining hread =>
      rw [read_frame_whole h rest] at hread
      cases hread
      rw [haccept]
      exact ⟨error, rfl⟩

theorem parse_frames_after_footer (hbytes : bytes ≠ []) (hfooter : parsed.footer ≠ none) :
    ∃ error, parse_frames codec bytes parsed = .error error := by
  have hempty : bytes.isEmpty = false := by
    rw [List.isEmpty_eq_false_iff]
    exact hbytes
  have hfooter : parsed.footer.isSome = true := Option.isSome_iff_ne_none.mpr hfooter
  rw [parse_frames, hempty, hfooter]
  exact ⟨_, rfl⟩

theorem parse_frames_nil : parse_frames codec [] parsed = .ok parsed := by
  rw [parse_frames]
  rfl

theorem parse_frames_accepts (hframes : List.Forall₂ (Carries codec) payloads frames) (h : Accepts parsed frames next) :
    parse_frames codec (stream_bytes codec payloads ++ rest) parsed = parse_frames codec rest next := by
  induction h generalizing payloads with
  | nil parsed =>
    cases hframes
    rfl
  | cons hfooter haccept _ ih =>
    cases hframes with
    | cons hcarries hframes =>
      rw [stream_bytes, List.map_cons, List.flatten_cons, List.append_assoc, parse_frames_cons hcarries hfooter haccept]
      exact ih hframes

/-- Frames that are not accepted are refused, whatever follows them. -/
theorem accepts_or_refuses (hframes : List.Forall₂ (Carries codec) payloads frames) (parsed : ParsedFrames Manifest) :
    (∃ next, Accepts parsed frames next) ∨
      ∀ rest, ∃ error, parse_frames codec (stream_bytes codec payloads ++ rest) parsed = .error error := by
  induction hframes generalizing parsed with
  | nil => exact Or.inl ⟨parsed, .nil parsed⟩
  | @cons payload frame payloads frames hcarries _ ih =>
    have hstream : ∀ rest, stream_bytes codec (payload :: payloads) ++ rest =
        frame_bytes codec payload ++ (stream_bytes codec payloads ++ rest) := by
      intro rest
      rw [stream_bytes, List.map_cons, List.flatten_cons, List.append_assoc]
      rfl
    by_cases hfooter : parsed.footer = none
    · cases haccept : parsed.accept frame with
      | error error =>
        refine Or.inr fun rest => ?_
        rw [hstream]
        exact parse_frames_refuses hcarries haccept
      | ok middle =>
        obtain ⟨next, hnext⟩ | hrefuses := ih middle
        · exact Or.inl ⟨next, .cons hfooter haccept hnext⟩
        · refine Or.inr fun rest => ?_
          rw [hstream, parse_frames_cons hcarries hfooter haccept]
          exact hrefuses rest
    · refine Or.inr fun rest => ?_
      rw [hstream]
      exact parse_frames_after_footer (List.cons_ne_nil _ _) hfooter

/-- Whatever the loop takes is a sequence of frames it accepts. -/
theorem parse_frames_sound (h : parse_frames codec bytes parsed = .ok next) :
    ∃ payloads frames, List.Forall₂ (Carries codec) payloads frames ∧ bytes = stream_bytes codec payloads ∧
      Accepts parsed frames next := by
  induction bytes, parsed using parse_frames.induct codec with
  | case1 bytes parsed hempty =>
    rw [List.isEmpty_iff] at hempty
    subst hempty
    rw [parse_frames_nil] at h
    cases h
    exact ⟨[], [], .nil, rfl, .nil _⟩
  | case2 bytes parsed hempty hfooter =>
    rw [parse_frames, if_neg hempty, if_pos hfooter] at h
    cases h
  | case3 bytes parsed hempty hfooter error hread =>
    rw [parse_frames, if_neg hempty, if_neg hfooter] at h
    split at h
    · cases h
    case h_2 read remaining hread' =>
      rw [hread] at hread'
      cases hread'
  | case4 bytes parsed hempty hfooter frame rest hread error haccept =>
    rw [parse_frames, if_neg hempty, if_neg hfooter] at h
    split at h
    · cases h
    case h_2 read remaining hread' =>
      rw [hread] at hread'
      cases hread'
      rw [haccept] at h
      cases h
  | case5 bytes parsed hempty hfooter frame rest hread middle haccept ih =>
    rw [parse_frames, if_neg hempty, if_neg hfooter] at h
    split at h
    · cases h
    case h_2 read remaining hread' =>
      rw [hread] at hread'
      cases hread'
      rw [haccept] at h
      obtain ⟨payloads, frames, hframes, hrest, haccepts⟩ := ih h
      obtain ⟨payload, hcarries, hbytes⟩ := read_frame_sound hread
      refine ⟨payload :: payloads, frame :: frames, .cons hcarries hframes, ?_, ?_⟩
      · rw [stream_bytes, List.map_cons, List.flatten_cons, hbytes, hrest, stream_bytes]
      · exact .cons (Option.not_isSome_iff_eq_none.mp hfooter) haccept haccepts

/-! ## The grammar -/

/-- The frames of a complete Record. -/
def record_frames (manifest : Manifest) (timeline : List TimelineEntry) (footer : RecordFooter) :
    List (RecordFrame Manifest) :=
  .Manifest manifest :: timeline.map .Timeline ++ [.Footer footer]

/-- The positions a complete Record is read in. -/
def record_positions (timeline : List TimelineEntry) (footer : RecordFooter) : List ExecutionPosition :=
  timeline.map (·.position) ++ [footer.position]

/-- What the frames read so far are: none, a manifest with the timeline that follows it, or
a complete Record. -/
inductive Reads : List (RecordFrame Manifest) → ParsedFrames Manifest → Prop where
  | start : Reads [] .start
  | timeline (manifest : Manifest) (entries : List TimelineEntry) (frame_index : Nat)
    (hordered : NonDecreasing (entries.map (·.position))) :
    Reads (.Manifest manifest :: entries.map .Timeline)
      { manifest := some manifest
        timeline := entries
        footer := none
        last_position := (entries.map (·.position)).getLast?
        frame_index := frame_index + 1 }
  | footer (manifest : Manifest) (entries : List TimelineEntry) (footer : RecordFooter)
    (last_position : Option ExecutionPosition) (frame_index : Nat)
    (hordered : NonDecreasing (record_positions entries footer)) :
    Reads (record_frames manifest entries footer)
      { manifest := some manifest, timeline := entries, footer := some footer, last_position, frame_index }

theorem nonDecreasing_snoc {positions : List ExecutionPosition} {position : ExecutionPosition} :
    NonDecreasing (positions ++ [position]) ↔
      NonDecreasing positions ∧ (positions.getLast?.any fun previous => decide (position < previous)) = false := by
  unfold NonDecreasing
  rw [List.isChain_append]
  constructor
  · rintro ⟨hpositions, _, hlast⟩
    refine ⟨hpositions, ?_⟩
    cases hend : positions.getLast? with
    | none => rfl
    | some previous =>
      have hle := hlast previous (by rw [hend]; rfl) position rfl
      simp only [Option.any_some, hle, decide_false]
  · rintro ⟨hpositions, hlast⟩
    refine ⟨hpositions, .singleton _, ?_⟩
    intro previous hprevious current hcurrent
    rw [Option.mem_def] at hprevious
    cases hcurrent
    rw [hprevious, Option.any_some, decide_eq_false_iff_not] at hlast
    exact hlast

theorem accept_reads (h : Reads frames parsed) (hfooter : parsed.footer = none) (haccept : parsed.accept frame = .ok next) :
    Reads (frames ++ [frame]) next := by
  cases h with
  | start =>
    cases frame with
    | Manifest manifest =>
      cases haccept
      exact Reads.timeline manifest [] 0 .nil
    | Timeline entry => cases haccept
    | Footer footer => cases haccept
  | timeline manifest entries frame_index hordered =>
    cases frame with
    | Manifest value =>
      simp [ParsedFrames.accept] at haccept
    | Timeline entry =>
      simp only [ParsedFrames.accept, ParsedFrames.require_manifest, Option.isNone_some, Bool.false_eq_true, if_false,
        ParsedFrames.update_position] at haccept
      split at haccept
      · cases haccept
      case h_2 last_position hupdate =>
        split at hupdate
        · cases hupdate
        case isFalse hlast =>
          cases hupdate
          cases haccept
          have hordered : NonDecreasing ((entries ++ [entry]).map (·.position)) := by
            rw [List.map_append]
            exact nonDecreasing_snoc.mpr ⟨hordered, Bool.eq_false_iff.mpr hlast⟩
          have hreads := Reads.timeline manifest (entries ++ [entry]) (frame_index + 1) hordered
          simp only [List.map_append, List.map_cons, List.map_nil, List.getLast?_append, List.getLast?_singleton,
            Option.some_or] at hreads
          exact hreads
    | Footer footer =>
      simp only [ParsedFrames.accept, ParsedFrames.require_manifest, Option.isNone_some, Bool.false_eq_true,
        if_false] at haccept
      split at haccept
      · cases haccept
      case isFalse hlast =>
        cases haccept
        exact Reads.footer manifest entries footer _ _ (nonDecreasing_snoc.mpr ⟨hordered, Bool.eq_false_iff.mpr hlast⟩)
  | footer => cases hfooter

theorem accepts_reads {before : List (RecordFrame Manifest)} (hbefore : Reads before parsed)
    (h : Accepts parsed frames next) : Reads (before ++ frames) next := by
  induction h generalizing before with
  | nil parsed =>
    rw [List.append_nil]
    exact hbefore
  | @cons parsed middle next frame frames hfooter haccept _ ih =>
    have hreads := ih (accept_reads hbefore hfooter haccept)
    rw [List.append_assoc] at hreads
    exact hreads

/-- A complete Record in order is accepted. -/
theorem record_frames_accepted {manifest : Manifest} {timeline : List TimelineEntry} {footer : RecordFooter}
    (hordered : NonDecreasing (record_positions timeline footer)) :
    ∃ next, Accepts .start (record_frames manifest timeline footer) next ∧ next.manifest = some manifest ∧
      next.timeline = timeline ∧ next.footer = some footer := by
  have hstep : ∀ (entries done : List TimelineEntry) (frame_index : Nat),
      NonDecreasing (record_positions (done ++ entries) footer) →
      ∃ next : ParsedFrames Manifest,
        Accepts { manifest := some manifest, timeline := done, footer := none
                  last_position := (done.map (·.position)).getLast?, frame_index }
          (entries.map .Timeline ++ [.Footer footer]) next ∧
        next.manifest = some manifest ∧ next.timeline = done ++ entries ∧ next.footer = some footer := by
    intro entries
    induction entries with
    | nil =>
      intro done frame_index hordered
      rw [List.append_nil, record_positions, nonDecreasing_snoc] at hordered
      refine ⟨{ manifest := some manifest, timeline := done, footer := some footer
                last_position := (done.map (·.position)).getLast?, frame_index := frame_index + 1 },
        .cons rfl ?_ (.nil _), rfl, (List.append_nil done).symm, rfl⟩
      simp only [ParsedFrames.accept, ParsedFrames.require_manifest, Option.isNone_some, Bool.false_eq_true, if_false,
        hordered.2]
    | cons entry entries ih =>
      intro done frame_index hordered
      have hsplit : done ++ entry :: entries = (done ++ [entry]) ++ entries := by
        rw [List.append_assoc]
        rfl
      rw [hsplit] at hordered ⊢
      obtain ⟨next, haccepts, hmanifest, htimeline, hfooter⟩ := ih (done ++ [entry]) (frame_index + 1) hordered
      have hentry : NonDecreasing ((done.map (·.position)) ++ [entry.position]) := by
        unfold NonDecreasing at hordered ⊢
        rw [record_positions, List.map_append, List.map_append, List.append_assoc] at hordered
        exact (List.isChain_append.mp hordered).1
      refine ⟨next, .cons rfl ?_ haccepts, hmanifest, htimeline, hfooter⟩
      simp only [ParsedFrames.accept, ParsedFrames.require_manifest, Option.isNone_some, Bool.false_eq_true, if_false,
        ParsedFrames.update_position, (nonDecreasing_snoc.mp hentry).2, List.map_append, List.map_cons, List.map_nil,
        List.getLast?_append, List.getLast?_singleton, Option.some_or]
  obtain ⟨next, haccepts, hmanifest, htimeline, hfooter⟩ := hstep timeline [] 1 hordered
  exact ⟨next, .cons rfl rfl haccepts, hmanifest, htimeline, hfooter⟩

end se_runtime.record
