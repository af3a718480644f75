import SgiEmu.Runtime.Record.Parse

open se_core se_machine Library.Chunks

namespace se_runtime.record

variable {Manifest : Type} {codec : RecordCodec Manifest} {bytes file : List U8} {frames : List (RecordFrame Manifest)}
  {payloads : List (List U8)} {parsed next : ParsedFrames Manifest} {manifest : Manifest}
  {timeline : List TimelineEntry} {footer : RecordFooter}

/-! ## Whole files -/

theorem length_file_header : file_header.length = FILE_HEADER_BYTES := rfl

/-- The three reads of the header, and what remains for the frames. -/
theorem file_header_reads (bytes : List U8) :
    ¬(file_header ++ bytes).length < FILE_HEADER_BYTES ∧
      (file_header ++ bytes).take 8 = FILE_MAGIC ∧
      ((file_header ++ bytes).take FILE_HEADER_BYTES).drop 8 = to_le_bytes FORMAT_VERSION ∧
      (file_header ++ bytes).drop FILE_HEADER_BYTES = bytes := by
  refine ⟨?_, rfl, rfl, rfl⟩
  rw [List.length_append, length_file_header]
  omega

theorem parse_record_eq_ok (h : parse_frames codec bytes .start = .ok parsed) (hmanifest : parsed.manifest = some manifest)
    (hfooter : parsed.footer = some footer) :
    parse_record codec (file_header ++ bytes) = .ok ⟨manifest, parsed.timeline, footer⟩ := by
  obtain ⟨hlong, hmagic, hversion, hbytes⟩ := file_header_reads bytes
  rw [parse_record, if_neg hlong, hmagic, hversion, hbytes, h]
  simp only [ne_eq, not_true_eq_false, if_false, hmanifest, hfooter]

theorem parse_record_header_error (h : ∀ parsed, parse_frames codec bytes .start = .ok parsed → parsed.footer = none) :
    ∃ error, parse_record codec (file_header ++ bytes) = .error error := by
  obtain ⟨hlong, hmagic, hversion, hbytes⟩ := file_header_reads bytes
  rw [parse_record, if_neg hlong, hmagic, hversion, hbytes]
  simp only [ne_eq, not_true_eq_false, if_false]
  cases hparsed : parse_frames codec bytes .start with
  | error error => exact ⟨error, rfl⟩
  | ok parsed =>
    have hfooter := h parsed hparsed
    simp only [hfooter]
    cases parsed.manifest with
    | none => exact ⟨_, rfl⟩
    | some manifest => exact ⟨_, rfl⟩

theorem parse_record_sound {replayer : Replayer Manifest} (h : parse_record codec file = .ok replayer) :
    ∃ bytes parsed, file = file_header ++ bytes ∧ parse_frames codec bytes .start = .ok parsed ∧
      parsed.manifest = some replayer.manifest ∧ parsed.timeline = replayer.timeline ∧
      parsed.footer = some replayer.footer := by
  unfold parse_record at h
  split at h
  · cases h
  · split at h
    · cases h
    case isFalse hmagic =>
      split at h
      · cases h
      case isFalse hversion =>
        split at h
        · cases h
        case h_2 parsed hparsed =>
          split at h
          · cases h
          · cases h
          case h_3 manifest footer hmanifest hfooter =>
            cases h
            refine ⟨_, parsed, ?_, hparsed, hmanifest, rfl, hfooter⟩
            have htake : (file.take FILE_HEADER_BYTES).take 8 = file.take 8 := by
              rw [List.take_take]
              rfl
            have hheader : file.take FILE_HEADER_BYTES = file_header := by
              rw [← List.take_append_drop 8 (file.take FILE_HEADER_BYTES), htake, not_not.mp hmagic, not_not.mp hversion]
              rfl
            rw [← hheader, List.take_append_drop]

/-- An accepted file is its header and the frames of one complete Record, in order. -/
theorem parse_record_grammar {replayer : Replayer Manifest} (h : parse_record codec file = .ok replayer) :
    ∃ payloads,
      List.Forall₂ (Carries codec) payloads (record_frames replayer.manifest replayer.timeline replayer.footer) ∧
      file = file_header ++ stream_bytes codec payloads ∧
      NonDecreasing (record_positions replayer.timeline replayer.footer) := by
  obtain ⟨bytes, parsed, hfile, hparsed, hmanifest, htimeline, hfooter⟩ := parse_record_sound h
  obtain ⟨payloads, frames, hframes, hbytes, haccepts⟩ := parse_frames_sound hparsed
  have hreads := accepts_reads .start haccepts
  rw [List.nil_append] at hreads
  cases hreads with
  | start => cases hfooter
  | timeline => cases hfooter
  | footer manifest entries footer last_position frame_index hordered =>
    cases hmanifest
    cases hfooter
    subst htimeline
    exact ⟨payloads, hframes, hfile.trans (congrArg _ hbytes), hordered⟩

theorem parse_record_complete (hframes : List.Forall₂ (Carries codec) payloads (record_frames manifest timeline footer))
    (hordered : NonDecreasing (record_positions timeline footer)) :
    parse_record codec (file_header ++ stream_bytes codec payloads) = .ok ⟨manifest, timeline, footer⟩ := by
  obtain ⟨next, haccepts, hmanifest, rfl, hfooter⟩ := @record_frames_accepted _ manifest _ _ hordered
  have hparsed : parse_frames codec (stream_bytes codec payloads ++ []) .start = parse_frames codec [] next :=
    parse_frames_accepts hframes haccepts
  rw [List.append_nil, parse_frames_nil] at hparsed
  exact parse_record_eq_ok hparsed hmanifest hfooter

/-- After a whole Record the loop has its footer. -/
theorem reads_record_frames (h : Reads (record_frames manifest timeline footer) parsed) : parsed.footer ≠ none := by
  generalize hframes : record_frames manifest timeline footer = frames at h
  cases h with
  | start => cases hframes
  | timeline first entries frame_index hordered =>
    have hmem : RecordFrame.Footer footer ∈ record_frames manifest timeline footer := by
      rw [record_frames, List.mem_append]
      exact Or.inr List.mem_cons_self
    rw [hframes] at hmem
    simp at hmem
  | footer => exact Option.some_ne_none _

/-- Before its footer the loop has none. -/
theorem reads_without_footer (h : Reads frames parsed) (hframes : ∀ footer, RecordFrame.Footer footer ∉ frames) :
    parsed.footer = none := by
  cases h with
  | start => rfl
  | timeline => rfl
  | footer manifest entries footer =>
    apply absurd _ (hframes footer)
    rw [record_frames, List.mem_append]
    exact Or.inr List.mem_cons_self

/-- Nothing may follow the footer. -/
theorem parse_record_extension (hframes : List.Forall₂ (Carries codec) payloads (record_frames manifest timeline footer))
    {extra : List U8} (hextra : extra ≠ []) :
    ∃ error, parse_record codec (file_header ++ stream_bytes codec payloads ++ extra) = .error error := by
  rw [List.append_assoc]
  apply parse_record_header_error
  intro parsed hparsed
  obtain ⟨next, haccepts⟩ | hrefuses := accepts_or_refuses hframes .start
  · have hreads := accepts_reads .start haccepts
    rw [List.nil_append] at hreads
    rw [parse_frames_accepts hframes haccepts] at hparsed
    obtain ⟨error, herror⟩ := @parse_frames_after_footer _ codec extra next hextra (reads_record_frames hreads)
    rw [herror] at hparsed
    cases hparsed
  · obtain ⟨error, herror⟩ := hrefuses extra
    rw [herror] at hparsed
    cases hparsed

/-- The chunks before a cut carry the frames before the cut. -/
theorem carries_before {before after : List (List U8)} {chunk : List U8}
    (hframes : List.Forall₂ (Carries codec) payloads frames)
    (hchunks : payloads.map (frame_bytes codec) = before ++ chunk :: after) :
    ∃ first payload rest firsts frame lasts,
      payloads = first ++ payload :: rest ∧ frames = firsts ++ frame :: lasts ∧
        List.Forall₂ (Carries codec) first firsts ∧ Carries codec payload frame ∧
        before = first.map (frame_bytes codec) ∧ chunk = frame_bytes codec payload := by
  obtain ⟨first, tail, rfl, hfirst, htail⟩ := List.map_eq_append_iff.mp hchunks
  obtain ⟨payload, rest, rfl, hpayload, _⟩ := List.map_eq_cons_iff.mp htail
  have hfirsts := List.forall₂_take first.length hframes
  have htails := List.forall₂_drop first.length hframes
  rw [List.take_left] at hfirsts
  rw [List.drop_left] at htails
  obtain ⟨frame, lasts, hcarries, _, hlasts⟩ := List.forall₂_cons_left_iff.mp htails
  refine ⟨first, payload, rest, _, frame, lasts, rfl, ?_, hfirsts, hcarries, hfirst.symm, hpayload.symm⟩
  rw [← hlasts, List.take_append_drop]

/-- A file cut anywhere has no footer. -/
theorem parse_record_prefix (hframes : List.Forall₂ (Carries codec) payloads (record_frames manifest timeline footer))
    {front : List U8} (hfront : front <+: file_header ++ stream_bytes codec payloads)
    (hproper : front ≠ file_header ++ stream_bytes codec payloads) :
    ∃ error, parse_record codec front = .error error := by
  by_cases hshort : front.length < FILE_HEADER_BYTES
  · rw [parse_record, if_pos hshort]
    exact ⟨_, rfl⟩
  · have hheader : file_header <+: front :=
      List.prefix_of_prefix_length_le (List.prefix_append _ _) hfront (Nat.le_of_not_lt hshort)
    obtain ⟨body, rfl⟩ := hheader
    have hbody : body <+: stream_bytes codec payloads := (List.prefix_append_right_inj _).mp hfront
    have hcut : body ≠ stream_bytes codec payloads := by
      rintro rfl
      exact hproper rfl
    obtain ⟨before, chunk, after, torn, hchunks, rfl, htorn, hpiece⟩ := prefix_flatten_cases hbody hcut
    obtain ⟨first, payload, rest, firsts, frame, lasts, _, hsplit, hfirst, hcarries, rfl, rfl⟩ :=
      carries_before hframes hchunks
    have hnofooter : ∀ other, RecordFrame.Footer other ∉ firsts := by
      intro other hmem
      have hinit := congrArg List.dropLast hsplit
      rw [record_frames, List.dropLast_concat, List.dropLast_append_of_ne_nil (List.cons_ne_nil frame lasts)] at hinit
      have hmem : RecordFrame.Footer other ∈ RecordFrame.Manifest manifest :: timeline.map .Timeline := by
        rw [hinit, List.mem_append]
        exact Or.inl hmem
      simp at hmem
    apply parse_record_header_error
    intro parsed hparsed
    obtain ⟨next, haccepts⟩ | hrefuses := accepts_or_refuses hfirst .start
    · have hreads := accepts_reads .start haccepts
      rw [List.nil_append] at hreads
      have hfooter := reads_without_footer hreads hnofooter
      have hloop := @parse_frames_accepts _ codec torn _ _ _ _ hfirst haccepts
      rw [stream_bytes] at hloop
      rw [hloop] at hparsed
      by_cases hempty : torn = []
      · rw [hempty, parse_frames_nil] at hparsed
        cases hparsed
        exact hfooter
      · rw [parse_frames, if_neg (by rw [List.isEmpty_iff]; exact hempty), if_neg (by rw [hfooter]; simp)] at hparsed
        split at hparsed
        · cases hparsed
        case h_2 hread =>
          rw [read_frame_torn hcarries.length htorn hpiece] at hread
          cases hread
    · obtain ⟨error, herror⟩ := hrefuses torn
      rw [stream_bytes] at herror
      rw [herror] at hparsed
      cases hparsed

end se_runtime.record
