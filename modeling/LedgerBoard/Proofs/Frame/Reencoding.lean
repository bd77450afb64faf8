import LedgerBoard.Proofs.Frame.Truncation

/-!
# Writing what was read

What is written for a frame that was read, in whatever spelling, is read as the frame again. The one
exception is a frame that carries its headers verbatim and has a header value with a carriage return
at its end. Such a value is read from a line that ends in two carriage returns and a line feed, and
the one line end that is written for it takes the carriage return away.
-/

namespace LedgerBoard.Frame

/-- A line of a text, with the line feed that ends it, and with one before it unless it is the first
line. -/
def IsLineOf (line text : List Char) : Prop :=
  ∃ before after, text = before ++ line ++ after ∧ (before = [] ∨ before.getLast? = some '\n')

theorem IsLineOf.append_left {line text : List Char} (is_line : IsLineOf line text)
    {front : List Char} (ended : front.getLast? = some '\n') : IsLineOf line (front ++ text) := by
  rcases is_line with ⟨before, after, rfl, starts⟩
  refine ⟨front ++ before, after, by simp, .inr ?_⟩
  rcases starts with rfl | starts
  · rwa [List.append_nil]
  · rw [List.getLast?_append, starts]
    rfl

theorem IsLineOf.append_right {line text : List Char} (is_line : IsLineOf line text)
    (back : List Char) :
    IsLineOf line (text ++ back) := by
  rcases is_line with ⟨before, after, rfl, starts⟩
  exact ⟨before, after ++ back, by simp, starts⟩

theorem LineText.getLast? {line text : List Char} (line_text : LineText line text) :
    text.getLast? = some '\n' := by
  cases line_text with
  | feed unbroken no_return => simp
  | returnFeed unbroken => simp

/-- Every header was read from a line of its own. -/
theorem HeaderText.exists_line {command : Command} {headers : List Header} {written : List Char}
    (header_text : HeaderText command headers written) {header : Header} (mem : header ∈ headers) :
    ∃ line text, HeaderLine command header line ∧ LineText line text ∧ IsLineOf text written := by
  induction header_text with
  | done empty_line => cases mem
  | @more first headers line text rest header_line line_text others ih =>
      rcases List.mem_cons.mp mem with rfl | mem
      · exact ⟨line, text, header_line, line_text, [], rest, rfl, .inl rfl⟩
      · rcases ih mem with ⟨own, own_text, own_line, own_line_text, is_line⟩
        exact ⟨own, own_text, own_line, own_line_text, is_line.append_left line_text.getLast?⟩

/-- Every header of a frame has a line of its own. -/
theorem FrameText.exists_line {frame : Frame} {written : List Char}
    (frame_text : FrameText frame written) {header : Header} (mem : header ∈ frame.headers) :
    ∃ line text, HeaderLine frame.command header line ∧ LineText line text ∧
    IsLineOf text written := by
  cases frame_text with
  | parts command_line header_text delimited =>
      rcases header_text.exists_line mem with ⟨line, text, header_line, line_text, is_line⟩
      refine ⟨line, text, header_line, line_text, ?_⟩
      exact ((is_line.append_left command_line.getLast?).append_right _).append_right _

section Verbatim

variable {command : Command} {header : Header} {line text : List Char}

/-- A header that is not escaped is written as it is. -/
theorem HeaderLine.eq_of_verbatim (verbatim : command.escapesHeaders = false)
    (header_line : HeaderLine command header line) :
    line = header.name.toList ++ ':' :: header.value.toList ∧ ':' ∉ header.name.toList := by
  cases header_line with
  | parts first_colon name_spelled value_spelled =>
      simp only [Spells, verbatim, Bool.false_eq_true, if_false] at name_spelled value_spelled
      subst name_spelled value_spelled
      exact ⟨rfl, first_colon⟩

/-- A header that was read fits on the line that is written for it, up to a carriage return at the
end. -/
theorem fits_iff_of_read (header_line : HeaderLine command header line)
    (line_text : LineText line text) :
    Fits command header ↔
      (command.escapesHeaders = false → header.value.toList.getLast? ≠ some '\r') := by
  constructor
  · exact fun fits verbatim => (fits verbatim).2.2.2
  · intro no_return verbatim
    rcases header_line.eq_of_verbatim verbatim with ⟨rfl, no_colon⟩
    have unbroken : '\n' ∉ header.name.toList ++ ':' :: header.value.toList := by
      cases line_text with
      | feed unbroken no_return => exact unbroken
      | returnFeed unbroken => exact unbroken
    simp only [List.mem_append, List.mem_cons, not_or] at unbroken
    exact ⟨no_colon, unbroken.1, unbroken.2.2, no_return verbatim⟩

/-- A verbatim value ends in a carriage return only if its line ends in two of them and a line
feed. -/
theorem LineText.of_return (verbatim : command.escapesHeaders = false)
    (header_line : HeaderLine command header line) (line_text : LineText line text)
    (returned : header.value.toList.getLast? = some '\r') :
    ∃ value, header.value.toList = value ++ ['\r'] ∧
      text = header.name.toList ++ ':' :: value ++ ['\r', '\r', '\n'] := by
  rcases header_line.eq_of_verbatim verbatim with ⟨rfl, -⟩
  rcases List.getLast?_eq_some_iff.mp returned with ⟨value, ends⟩
  refine ⟨value, ends, ?_⟩
  cases line_text with
  | feed unbroken no_return =>
      have last : (header.name.toList ++ ':' :: header.value.toList).getLast? = some '\r' := by
        rw [ends, ← List.cons_append, ← List.append_assoc, List.getLast?_concat]
      exact absurd last no_return
  | returnFeed unbroken => simp [ends]

end Verbatim

/-- A frame whose headers stand verbatim, one of them with a carriage return at the end of its
value. -/
def EndsInReturn (frame : Frame) : Prop :=
  (frame.command = .connect ∨ frame.command = .connected) ∧
    ∃ header ∈ frame.headers, header.value.toList.getLast? = some '\r'

/-- The headers of a frame that was read can be written again, unless one of them ends in a
return. -/
theorem FrameText.fits_iff {frame : Frame} {written : List Char}
    (frame_text : FrameText frame written) :
    (∀ header ∈ frame.headers, Fits frame.command header) ↔ ¬ frame.EndsInReturn := by
  have each : ∀ header ∈ frame.headers, Fits frame.command header ↔
      (frame.command.escapesHeaders = false → header.value.toList.getLast? ≠ some '\r') := by
    intro header mem
    rcases frame_text.exists_line mem with ⟨line, text, header_line, line_text, -⟩
    exact fits_iff_of_read header_line line_text
  simp only [EndsInReturn, ← escapesHeaders_eq_false_iff, not_and, not_exists]
  constructor
  · exact fun fits verbatim header mem => (each header mem).mp (fits header mem) verbatim
  · exact fun no_return header mem => (each header mem).mpr fun verbatim =>
      no_return verbatim header mem

/-- The length that a frame announces is right where the frame was read. -/
theorem FrameText.delimits_announced {frame : Frame} {written : List Char}
    (frame_text : FrameText frame written) (small : frame.body.utf8ByteSize < UInt64.size) :
    Delimits frame.announced.headers frame.announced.body := by
  cases frame_text with
  | parts command_line header_text delimited =>
      rw [delimits_announced_iff small]
      intro value present
      exact (delimits_iff_of_header present).mp delimited

/-- A body is no longer than its frame. -/
theorem FrameText.utf8ByteSize_le {frame : Frame} {written : List Char}
    (frame_text : FrameText frame written) :
    frame.body.utf8ByteSize ≤ Text.octets written := by
  cases frame_text with
  | parts command_line header_text delimited =>
      simp only [Text.octets_append, Text.octets_toList]
      omega

/-- What is written for a frame that was read is a text of the frame, unless a carriage return gets
lost. -/
theorem FrameText.chars_announced_iff {frame : Frame} {written : List Char}
    (frame_text : FrameText frame written) (small : frame.body.utf8ByteSize < UInt64.size) :
    FrameText frame.announced frame.announced.chars ↔ ¬ frame.EndsInReturn := by
  rw [frameText_chars_iff, announced_command, fits_announced_iff, frame_text.fits_iff]
  exact and_iff_left (frame_text.delimits_announced small)

/-- Reading takes a text with a NUL at its end off the input. What is written for the frame it gives
is read as that frame again, with the length of its body announced and nothing left. Only for a
frame with a verbatim header value that ends in a carriage return is it not, and such a value stands
in the input on a line that ends in two carriage returns and a line feed. -/
theorem read_encode_of_read {input tail : String} {frame : Frame}
    (short : input.utf8ByteSize < UInt64.size) (read_input : read input = .ok (frame, tail)) :
    let again : Frame :=
      if frame.body = "" ∨ (frame.header? "content-length").isSome then frame
      else { frame with
        headers := frame.headers ++ [⟨"content-length", toString frame.body.utf8ByteSize⟩] }
    (∃ taken, input = taken ++ tail ∧ taken.toList.getLast? = some (Char.ofNat 0) ∧
      (frame.command = .connect ∨ frame.command = .connected →
        ∀ header ∈ frame.headers, header.value.toList.getLast? = some '\r' →
          ∃ value, header.value.toList = value ++ ['\r'] ∧
            IsLineOf (header.name.toList ++ ':' :: value ++ ['\r', '\r', '\n']) taken.toList)) ∧
      (¬ frame.EndsInReturn → read frame.encode = .ok (again, "")) ∧
      (frame.EndsInReturn → ∀ rest, read frame.encode ≠ .ok (again, rest)) := by
  intro again
  rcases read_eq_ok_iff.mp read_input with ⟨written, split, frame_text⟩
  have again_eq : again = frame.announced := by
    rw [announced_eq, contentLength]
  have small : frame.body.utf8ByteSize < UInt64.size := by
    have size := frame_text.utf8ByteSize_le
    have whole := congrArg Text.octets split
    rw [Text.octets_append, Text.octets_toList] at whole
    omega
  refine ⟨⟨String.ofList written, ?_, ?_, ?_⟩, ?_, ?_⟩
  · rw [← String.toList_inj, String.toList_append, String.toList_ofList]
    exact split
  · rw [String.toList_ofList]
    cases frame_text with
    | parts command_line header_text delimited => simp
  · intro opening header mem ends_in_return
    have verbatim := escapesHeaders_eq_false_iff.mpr opening
    rcases frame_text.exists_line mem with ⟨line, text, header_line, line_text, is_line⟩
    rcases line_text.of_return verbatim header_line ends_in_return with ⟨value, ends, rfl⟩
    rw [String.toList_ofList]
    exact ⟨value, ends, is_line⟩
  · intro kept
    have whole_text := (frame_text.chars_announced_iff small).mpr kept
    rw [again_eq, read_eq_ok_iff, encode, String.toList_ofList]
    exact ⟨_, (List.append_nil _).symm, whole_text⟩
  · intro lost rest read_back
    rw [again_eq, read_eq_ok_iff, encode, String.toList_ofList] at read_back
    rcases read_back with ⟨back, back_split, back_text⟩
    have whole_text := frameText_chars_of_append back_text back_split
    exact (frame_text.chars_announced_iff small).mp whole_text lost

/-- The carriage return of an opening frame is lost, however the text goes on. -/
theorem read_encode_of_read_connected :
    let input := "CONNECTED\nserver:node\r\r\n\n\x00\n"
    let frame : Frame := ⟨.connected, [⟨"server", "node\r"⟩], ""⟩
    input.utf8ByteSize < UInt64.size ∧ read input = .ok (frame, "\n") ∧ frame.EndsInReturn ∧
      ∀ rest, read frame.encode ≠ .ok (frame, rest) := by
  intro input frame
  have short : input.utf8ByteSize < UInt64.size := by decide
  have read_input : read input = .ok (frame, "\n") := by
    rw [← Outcome.toOption_eq_some_iff]
    decide +kernel
  have ends_in_return : frame.EndsInReturn := ⟨.inr rfl, ⟨"server", "node\r"⟩, by decide, by decide⟩
  exact ⟨short, read_input, ends_in_return,
    (read_encode_of_read short read_input).2.2 ends_in_return⟩

end LedgerBoard.Frame
