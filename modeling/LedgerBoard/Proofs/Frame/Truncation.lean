import LedgerBoard.Proofs.Frame.Composition
import LedgerBoard.Proofs.Frame.RoundTrip

/-!
# Frames cut short

A text of a frame that is cut anywhere is not read: a line without its line feed is no line, a
counted body that is too short is refused for its count, and any other body needs its NUL. What was
read before the cut is right, so no error but these can show up.
-/

namespace LedgerBoard.Frame

/-- A front part of a text that is not the whole text. -/
def Cut (front text : List Char) : Prop :=
  ∃ rest, rest ≠ [] ∧ text = front ++ rest

variable {front text written : List Char}

/-- A cut lies in the first of two parts, or in the second one. -/
theorem Cut.of_append {first second : List Char} (cut : Cut front (first ++ second)) :
    Cut front first ∨ ∃ inner, front = first ++ inner ∧ Cut inner second := by
  rcases cut with ⟨rest, some_rest, split⟩
  rcases List.append_eq_append_iff.mp split with ⟨inner, rfl, rfl⟩ | ⟨between, rfl, rfl⟩
  · exact .inr ⟨inner, rfl, rest, some_rest, rfl⟩
  · by_cases empty : between = []
    · subst between
      exact .inr ⟨[], by simp, second, some_rest, rfl⟩
    · exact .inl ⟨between, empty, rfl⟩

theorem Cut.prefix_of_concat {c : Char} (cut : Cut front (text ++ [c])) : front <+: text := by
  rcases cut.of_append with ⟨rest, -, rfl⟩ | ⟨inner, rfl, rest, some_rest, split⟩
  · exact List.prefix_append front rest
  · cases inner with
    | nil => simp
    | cons first others => simp [some_rest] at split

theorem LineText.exists_unbroken {line : List Char} (line_text : LineText line written) :
    ∃ unbroken, '\n' ∉ unbroken ∧ written = unbroken ++ ['\n'] := by
  cases line_text with
  | feed unbroken no_return => exact ⟨line, unbroken, rfl⟩
  | returnFeed unbroken => exact ⟨line ++ ['\r'], by simpa using unbroken, by simp⟩

theorem readLine_of_unbroken (unbroken : '\n' ∉ text) : readLine text = .error .incomplete := by
  cases read : readLine text with
  | error cause => rw [eq_incomplete_of_readLine read]
  | ok found =>
      rcases readLine_eq_ok_iff.mp read with ⟨written, rfl, line_text⟩
      rcases line_text.exists_unbroken with ⟨before, -, rfl⟩
      simp at unbroken

theorem LineText.readLine_of_cut {line : List Char} (line_text : LineText line written)
    (cut : Cut front written) : readLine front = .error .incomplete := by
  rcases line_text.exists_unbroken with ⟨unbroken, no_feed, rfl⟩
  apply readLine_of_unbroken
  intro mem
  exact no_feed (cut.prefix_of_concat.subset mem)

/-- Headers that are cut short lack the line feed of some line, be it the empty one. -/
theorem HeaderText.readHeaders_of_cut {command : Command} {headers : List Header}
    (header_text : HeaderText command headers written) (cut : Cut front written) :
    readHeaders command front = .error .incomplete := by
  induction header_text generalizing front with
  | done empty_line =>
      rw [readHeaders_eq, empty_line.readLine_of_cut cut]
      rfl
  | @more header headers line text rest header_line line_text others ih =>
      rw [readHeaders_eq]
      rcases cut.of_append with cut_line | ⟨inner, rfl, cut_rest⟩
      · rw [line_text.readLine_of_cut cut_line]
        rfl
      · have line_read : readLine (text ++ inner) = .ok (line, inner) :=
          readLine_eq_ok_iff.mpr ⟨text, rfl, line_text⟩
        have solid : line.isEmpty = false := by simpa using header_line.ne_nil
        rw [line_read, Outcome.bind_eq_error_iff]
        refine .inr ⟨_, rfl, ?_⟩
        simp only [solid, Bool.false_eq_true, if_false, readHeader_eq_ok_iff.mpr header_line,
          ih cut_rest]
        rfl

theorem announcedLength?_of_delimits {headers : List Header} {body : String}
    (delimited : Delimits headers body) :
    announcedLength? headers = .ok (some body.utf8ByteSize) ∨
      announcedLength? headers = .ok none ∧ Char.ofNat 0 ∉ body.toList := by
  rw [Delimits] at delimited
  cases found : headers.find? fun header => header.name == contentLength with
  | none =>
      simp only [found] at delimited
      exact .inr ⟨by simp [announcedLength?, found], delimited⟩
  | some header =>
      simp only [found] at delimited
      exact .inl (by simp [announcedLength?, found, delimited])

/-- A body that is cut short has no valid length. -/
theorem readBody_of_short {count : Nat} (short : Text.octets text < count) :
    ∃ value, readBody (some count) text = .error (.invalidContentLength value) := by
  have no_split : Text.splitOctets? count text = none := by
    rw [Option.eq_none_iff_forall_not_mem]
    rintro ⟨first, second⟩ split
    rcases Text.splitOctets?_eq_some_iff.mp split with ⟨rfl, size⟩
    simp at short
    omega
  exact ⟨_, by simp [readBody, no_split]; rfl⟩

/-- A counted body without its end is not terminated. -/
theorem readBody_of_unended (text : List Char) :
    readBody (some (Text.octets text)) text = .error .missingTerminator := by
  have split : Text.splitOctets? (Text.octets text) text = some (text, []) :=
    Text.splitOctets?_eq_some_iff.mpr ⟨by simp, rfl⟩
  simp [readBody, split]

theorem readBody_of_no_nul (no_nul : Char.ofNat 0 ∉ text) :
    readBody none text = .error .missingTerminator := by
  have no_split : splitAt? (Char.ofNat 0) text = none := by
    rw [Option.eq_none_iff_forall_not_mem]
    rintro ⟨first, second⟩ split
    rcases splitAt?_eq_some_iff.mp split with ⟨rfl, -⟩
    simp at no_nul
  simp [readBody, no_split]

/-- A counted body that is cut short is too short for its count, or lacks only its NUL. -/
theorem exists_error_of_cut_body {headers : List Header} {body : String}
    (delimited : Delimits headers body) (cut : Cut front (body.toList ++ [Char.ofNat 0])) :
    ∃ length cause, announcedLength? headers = .ok length ∧ readBody length front = .error cause ∧
      ¬cause.IsSettled := by
  rcases cut.prefix_of_concat with ⟨missing, split⟩
  rcases announcedLength?_of_delimits delimited with announced | ⟨announced, no_nul⟩
  · by_cases all_there : missing = []
    · subst missing
      rw [List.append_nil] at split
      rw [← Text.octets_toList, ← split] at announced
      exact ⟨_, _, announced, readBody_of_unended front, by simp [FrameError.IsSettled]⟩
    · have short : Text.octets front < body.utf8ByteSize := by
        rw [← Text.octets_toList, ← split, Text.octets_append]
        have some_octets : Text.octets missing ≠ 0 := mt Text.octets_eq_zero_iff.mp all_there
        omega
      rcases readBody_of_short short with ⟨value, failed⟩
      exact ⟨_, _, announced, failed, by simp [FrameError.IsSettled]⟩
  · have none_in_front : Char.ofNat 0 ∉ front := by
      intro mem
      rw [← split] at no_nul
      exact no_nul (List.mem_append_left _ mem)
    exact ⟨_, _, announced, readBody_of_no_nul none_in_front, by simp [FrameError.IsSettled]⟩

/-- A frame that was cut is refused, and more text may mend it. -/
theorem FrameText.exists_error_of_cut {frame : Frame} (frame_text : FrameText frame written)
    (cut : Cut front written) : ∃ cause, readChars front = .error cause ∧ ¬cause.IsSettled := by
  cases frame_text with
  | @parts line headers command_line header_text delimited =>
      rw [readChars]
      simp only [List.append_assoc] at cut
      rcases cut.of_append with cut_line | ⟨inner, rfl, cut_tail⟩
      · rw [command_line.readLine_of_cut cut_line]
        exact ⟨_, rfl, by simp [FrameError.IsSettled]⟩
      have line_read : readLine (line ++ inner) = .ok (frame.command.wireName.toList, inner) :=
        readLine_eq_ok_iff.mpr ⟨line, rfl, command_line⟩
      simp only [line_read, bind, Except.bind, String.ofList_toList, Command.ofWireName?_wireName]
      rcases cut_tail.of_append with cut_headers | ⟨rest, rfl, cut_body⟩
      · rw [header_text.readHeaders_of_cut cut_headers]
        exact ⟨_, rfl, by simp [FrameError.IsSettled]⟩
      have headers_read : readHeaders frame.command (headers ++ rest) = .ok (frame.headers, rest) :=
        readHeaders_complete header_text
      rcases exists_error_of_cut_body delimited cut_body with
        ⟨length, cause, announced, failed, kind⟩
      simp only [headers_read, announced, failed]
      exact ⟨cause, rfl, kind⟩

/-- No front part of a frame but the empty one is a run of line ends. -/
theorem FrameText.skipLineEnds_of_cut {frame : Frame} (frame_text : FrameText frame written)
    (cut : Cut front written) : skipLineEnds front = front := by
  rcases cut with ⟨rest, -, rfl⟩
  have kept := frame_text.skipLineEnds_append []
  cases front with
  | nil => rfl
  | cons first others =>
      rw [List.append_nil, List.cons_append, skipLineEnds, List.dropWhile_cons] at kept
      split at kept
      · have shorter : (skipLineEnds (others ++ rest)).length ≤ (others ++ rest).length :=
          (List.dropWhile_sublist _).length_le
        rw [skipLineEnds, kept] at shorter
        simp only [List.length_cons, List.length_append] at shorter
        omega
      · rename_i solid
        rw [skipLineEnds, List.dropWhile_cons, if_neg solid]

/-- What is written for a frame starts with a text of this frame only if it is one. -/
theorem frameText_chars_of_append {frame : Frame} {rest : List Char}
    (frame_text : FrameText frame written) (split : frame.chars = written ++ rest) :
    FrameText frame frame.chars := by
  rw [frameText_chars_iff]
  cases frame_text with
  | @parts line headers command_line header_text delimited =>
      refine ⟨?_, delimited⟩
      cases command_line with
      | feed unbroken no_return =>
          intro header mem verbatim
          have lines : headers ++ (frame.body.toList ++ Char.ofNat 0 :: rest) =
              frame.headers.flatMap (fun header => headerLine frame.command header ++ ['\n']) ++
                '\n' :: (frame.body.toList ++ [Char.ofNat 0]) := by
            simpa [chars] using split.symm
          exact fits_of_headerText verbatim header_text lines header mem verbatim
      | returnFeed unbroken => simp [chars] at split

/-- Where a frame comes back from what was written for it, with the length of its body announced, it
does not come back from a part of that: wherever the text is cut, it lacks a line feed, octets or
its NUL. -/
theorem truncated_frame_is_refused {frame : Frame} {rest front cut : String}
    (read_back : read frame.encode =
      .ok (if frame.body = "" ∨ (frame.header? "content-length").isSome then frame
        else { frame with
          headers := frame.headers ++ [⟨"content-length", toString frame.body.utf8ByteSize⟩] },
        rest))
    (parts : frame.encode = front ++ cut) (some_front : front ≠ "") (some_cut : cut ≠ "") :
    ∃ cause, readAll front = .error cause ∧
      (cause = .incomplete ∨ cause = .missingTerminator ∨
        ∃ value, cause = .invalidContentLength value) := by
  have shown := announced_eq frame
  rw [contentLength] at shown
  rw [← shown, read_eq_ok_iff, encode, String.toList_ofList] at read_back
  rcases read_back with ⟨written, split, frame_text⟩
  have whole_text := frameText_chars_of_append frame_text split
  have cut_front : Cut front.toList frame.announced.chars := by
    refine ⟨cut.toList, by simpa using some_cut, ?_⟩
    rw [← String.toList_append, ← parts, encode, String.toList_ofList]
  rcases whole_text.exists_error_of_cut cut_front with ⟨cause, failed, not_settled⟩
  refine ⟨cause, ?_, ?_⟩
  · have same := whole_text.skipLineEnds_of_cut cut_front
    apply readAllChars_of_error
    · rw [same]
      simpa using some_front
    · rw [same]
      exact failed
  · cases cause with
    | incomplete => exact .inl rfl
    | missingTerminator => exact .inr (.inl rfl)
    | invalidContentLength value => exact .inr (.inr ⟨value, rfl⟩)
    | unknownCommand name => exact absurd trivial not_settled
    | malformedHeader line => exact absurd trivial not_settled
    | invalidEscape sequence => exact absurd trivial not_settled

/-- A message is refused when its body is cut within the octets that were counted. -/
theorem truncated_frame_is_refused_within_body :
    let frame : Frame := ⟨.message, [⟨"id", ":"⟩], "\x00é"⟩
    let front := "MESSAGE\nid:\\c\ncontent-length:3\n\n\x00"
    read frame.encode =
      .ok ({ frame with headers := frame.headers ++ [⟨"content-length", "3"⟩] }, "") ∧
      frame.encode = front ++ "é\x00" ∧ front ≠ "" ∧ "é\x00" ≠ "" ∧
      ∃ cause, readAll front = .error cause ∧
        (cause = .incomplete ∨ cause = .missingTerminator ∨
          ∃ value, cause = .invalidContentLength value) := by
  intro frame front
  have unannounced : ¬(frame.body = "" ∨ (frame.header? "content-length").isSome) := by decide
  have octets : toString frame.body.utf8ByteSize = "3" := by decide
  have announced :
      frame.announced = { frame with headers := frame.headers ++ [⟨"content-length", "3"⟩] } := by
    rw [announced_eq, contentLength, if_neg unannounced, octets]
  have frame_text : FrameText frame.announced frame.announced.chars := by
    rw [frameText_chars_iff, announced_command, fits_announced_iff,
      delimits_announced_iff (by decide)]
    refine ⟨fun header mem verbatim => absurd verbatim (by decide), fun value present => ?_⟩
    have absent : frame.header? contentLength = none := by decide
    cases absent.symm.trans present
  have read_back : read frame.encode = .ok (frame.announced, "") := by
    rw [read_eq_ok_iff, encode, String.toList_ofList]
    exact ⟨_, (List.append_nil _).symm, frame_text⟩
  have parts : frame.encode = front ++ "é\x00" := by
    rw [encode, announced]
    decide
  have some_front : front ≠ "" := by decide
  have some_cut : "é\x00" ≠ "" := by decide
  rw [announced] at read_back
  refine ⟨read_back, parts, some_front, some_cut, ?_⟩
  rw [← octets] at read_back
  exact truncated_frame_is_refused (by rw [if_neg unannounced, read_back]) parts some_front some_cut

end LedgerBoard.Frame
