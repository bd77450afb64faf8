import LedgerBoard.Proofs.Frame.Escape
import LedgerBoard.Proofs.Frame.Grammar
import LedgerBoard.Proofs.Number.Decimal

/-!
# Reading what was written

The text of a frame with its length announced is one of the texts of that frame, unless the frame
has a header that its command does not escape and that does not fit on a line, or announces another
length than its body has. The reader accepts exactly the texts of frames, so it gives back what was
written exactly then.
-/

namespace LedgerBoard.Frame

/-- A header that is read back from its line. Only commands that carry headers verbatim restrict
it. -/
def Fits (command : Command) (header : Header) : Prop :=
  command.escapesHeaders = false →
    ':' ∉ header.name.toList ∧ '\n' ∉ header.name.toList ∧
      '\n' ∉ header.value.toList ∧ header.value.toList.getLast? ≠ some '\r'

theorem headerLine_of_escapes {command : Command} (escapes : command.escapesHeaders = true)
    (header : Header) :
    headerLine command header =
      Header.escapeChars header.name.toList ++ ':' :: Header.escapeChars header.value.toList := by
  simp [headerLine, escapes]

theorem headerLine_of_verbatim {command : Command} (verbatim : command.escapesHeaders = false)
    (header : Header) :
    headerLine command header = header.name.toList ++ ':' :: header.value.toList := by
  simp [headerLine, verbatim]

/-- The line of a header that fits stands for the header. -/
theorem headerLine_of_fits {command : Command} {header : Header} (fits : Fits command header) :
    HeaderLine command header (headerLine command header) ∧
      LineText (headerLine command header) (headerLine command header ++ ['\n']) := by
  by_cases escapes : command.escapesHeaders = true
  · rw [headerLine_of_escapes escapes]
    have inert : ∀ c ∈ Header.escapeChars header.name.toList ++ ':' ::
        Header.escapeChars header.value.toList, c ≠ '\n' ∧ c ≠ '\r' := by
      intro c mem
      simp only [List.mem_append, List.mem_cons] at mem
      rcases mem with name_mem | rfl | value_mem
      · exact ⟨(Header.mem_escapeChars name_mem).1, (Header.mem_escapeChars name_mem).2.1⟩
      · decide
      · exact ⟨(Header.mem_escapeChars value_mem).1, (Header.mem_escapeChars value_mem).2.1⟩
    constructor
    · apply HeaderLine.parts
      · exact fun mem => (Header.mem_escapeChars mem).2.2 rfl
      · simp [Spells, escapes, Header.unescapeChars_escapeChars]
      · simp [Spells, escapes, Header.unescapeChars_escapeChars]
    · apply LineText.feed
      · exact fun mem => (inert _ mem).1 rfl
      · exact fun last => (inert _ (List.mem_of_getLast? last)).2 rfl
  · have verbatim : command.escapesHeaders = false := by simpa using escapes
    rcases fits verbatim with ⟨no_colon, name_unbroken, value_unbroken, no_return⟩
    rw [headerLine_of_verbatim verbatim]
    constructor
    · apply HeaderLine.parts no_colon
      · simp [Spells, verbatim]
      · simp [Spells, verbatim]
    · apply LineText.feed
      · simp [name_unbroken, value_unbroken]
      · cases value : header.value.toList with
        | nil => simp
        | cons first others =>
            rw [value] at no_return
            simpa using no_return

/-- A header that is read back from its own verbatim line fits on it, and nothing of the line is
left. -/
theorem fits_of_headerLine {command : Command} (verbatim : command.escapesHeaders = false)
    {header : Header} {line text rest tail : List Char}
    (header_line : HeaderLine command header line) (line_text : LineText line text)
    (split : text ++ rest = headerLine command header ++ '\n' :: tail) :
    Fits command header ∧ rest = tail := by
  cases header_line with
  | @parts name value first_colon name_spelled value_spelled =>
      simp only [Spells, verbatim, Bool.false_eq_true, if_false] at name_spelled value_spelled
      subst name_spelled value_spelled
      rw [headerLine_of_verbatim verbatim] at split
      cases line_text with
      | feed unbroken no_return =>
          simp only [List.mem_append, List.mem_cons, not_or] at unbroken
          refine ⟨fun _ => ⟨first_colon, unbroken.1, unbroken.2.2, ?_⟩, by simpa using split⟩
          intro returned
          rcases List.getLast?_eq_some_iff.mp returned with ⟨front, ends⟩
          have line_ends : header.name.toList ++ ':' :: header.value.toList =
              header.name.toList ++ ':' :: front ++ ['\r'] := by simp [ends]
          exact no_return (by rw [line_ends, List.getLast?_concat])
      | returnFeed unbroken => simp at split

/-- Headers that start the lines written for them fit, whatever stands behind either of the two. -/
theorem fits_of_headerText {command : Command} (verbatim : command.escapesHeaders = false)
    {headers : List Header} {text rest tail : List Char}
    (header_text : HeaderText command headers text) (lines : text ++ rest =
      headers.flatMap (fun header => headerLine command header ++ ['\n']) ++ '\n' :: tail) :
    ∀ header ∈ headers, Fits command header := by
  induction header_text with
  | done empty_line => simp
  | @more header headers line text others_text header_line line_text others ih =>
      have split : text ++ (others_text ++ rest) = headerLine command header ++ '\n' ::
          (headers.flatMap (fun header => headerLine command header ++ ['\n']) ++ '\n' ::
            tail) := by
        simpa using lines
      rcases fits_of_headerLine verbatim header_line line_text split with ⟨fits, remaining⟩
      intro other mem
      rcases List.mem_cons.mp mem with rfl | mem
      · exact fits
      · exact ih remaining other mem

/-- Headers that fit are written as a block of header lines. -/
theorem headerText_of_fits {command : Command} {headers : List Header}
    (fits : ∀ header ∈ headers, Fits command header) :
    HeaderText command headers
      (headers.flatMap (fun header => headerLine command header ++ ['\n']) ++ ['\n']) := by
  induction headers with
  | nil => exact .done (.feed (by simp) (by simp))
  | cons header headers ih =>
      rcases headerLine_of_fits (fits header List.mem_cons_self) with ⟨header_line, line_text⟩
      have others := ih fun other mem => fits other (List.mem_cons_of_mem _ mem)
      rw [List.flatMap_cons, List.append_assoc]
      exact .more header_line line_text others

/-- The lines written for headers stand for them exactly where every header fits on its line. -/
theorem headerText_headerLines_iff {command : Command} {headers : List Header} :
    HeaderText command headers
        (headers.flatMap (fun header => headerLine command header ++ ['\n']) ++ ['\n']) ↔
      ∀ header ∈ headers, Fits command header := by
  constructor
  · intro header_text header mem verbatim
    have lines := List.append_nil
      (headers.flatMap (fun header => headerLine command header ++ ['\n']) ++ ['\n'])
    exact fits_of_headerText verbatim header_text lines header mem verbatim
  · exact headerText_of_fits

theorem wireName_lineText (command : Command) :
    LineText command.wireName.toList (command.wireName.toList ++ ['\n']) := by
  apply LineText.feed
  · cases command <;> decide
  · cases command <;> decide

/-- The text written for a frame stands for it exactly where its headers fit and delimit its
body. -/
theorem frameText_chars_iff {frame : Frame} :
    FrameText frame frame.chars ↔
      (∀ header ∈ frame.headers, Fits frame.command header) ∧
      Delimits frame.headers frame.body := by
  constructor
  · generalize shape : frame.chars = text
    intro frame_text
    cases frame_text with
    | @parts line headers command_line header_text delimited =>
        refine ⟨?_, delimited⟩
        rw [← headerText_headerLines_iff]
        cases command_line with
        | feed unbroken no_return =>
            have split : headers ++ (frame.body.toList ++ [Char.ofNat 0]) =
                frame.headers.flatMap (fun header => headerLine frame.command header ++ ['\n']) ++
                  ['\n'] ++ (frame.body.toList ++ [Char.ofNat 0]) := by
              simpa [chars] using shape.symm
            exact List.append_cancel_right split ▸ header_text
        | returnFeed unbroken => simp [chars] at shape
  · rintro ⟨fits, delimited⟩
    have header_text := headerText_headerLines_iff.mpr fits
    have frame_text := FrameText.parts (wireName_lineText frame.command) header_text delimited
    simpa [chars] using frame_text

theorem announced_eq (frame : Frame) :
    frame.announced =
      if frame.body = "" ∨ (frame.header? contentLength).isSome then frame
      else { frame with
        headers := frame.headers ++ [⟨contentLength, toString frame.body.utf8ByteSize⟩] } := by
  simp [announced, Text.octets_toList, Number.ofList_decimal]

/-- An announced length delimits a body if it is the length of the body. -/
theorem delimits_iff_of_header {frame : Frame} {value : String}
    (present : frame.header? contentLength = some value) :
    Delimits frame.headers frame.body ↔
      Number.unsigned? Number.maxWord (Text.trim value.toList) = some frame.body.utf8ByteSize := by
  rcases Option.map_eq_some_iff.mp present with ⟨header, found, rfl⟩
  simp [Delimits, found]

theorem delimits_iff_of_no_header {frame : Frame} (absent : frame.header? contentLength = none) :
    Delimits frame.headers frame.body ↔ Char.ofNat 0 ∉ frame.body.toList := by
  have not_found := Option.map_eq_none_iff.mp absent
  simp [Delimits, not_found]

theorem header?_append_of_none {frame : Frame} {name : String} (absent : frame.header? name = none)
    (value : String) :
    Frame.header? { frame with headers := frame.headers ++ [⟨name, value⟩] } name = some value := by
  have not_found := Option.map_eq_none_iff.mp absent
  simp [header?, List.find?_append, not_found]

/-- The length that is announced for a body delimits it; one that is there already has to be
right. -/
theorem delimits_announced_iff {frame : Frame} (small : frame.body.utf8ByteSize < UInt64.size) :
    Delimits frame.announced.headers frame.announced.body ↔
      ∀ value, frame.header? contentLength = some value →
        Number.unsigned? Number.maxWord (Text.trim value.toList) =
          some frame.body.utf8ByteSize := by
  rw [announced_eq]
  cases present : frame.header? contentLength with
  | some value => simp [delimits_iff_of_header present]
  | none =>
      simp only [reduceCtorEq, false_implies, implies_true, iff_true]
      by_cases empty : frame.body = ""
      · rw [if_pos (.inl empty), delimits_iff_of_no_header present, empty]
        simp
      · rw [if_neg (by simp [empty])]
        have found := header?_append_of_none present (toString frame.body.utf8ByteSize)
        rw [delimits_iff_of_header found, ← Number.ofList_decimal, String.toList_ofList,
          Number.trim_decimal]
        apply Number.unsigned?_decimal
        simp only [UInt64.size] at small
        simp only [Number.maxWord]
        omega

theorem announced_command (frame : Frame) : frame.announced.command = frame.command := by
  rw [announced_eq]
  split <;> rfl

theorem fits_contentLength (command : Command) (length : Nat) :
    Fits command ⟨contentLength, toString length⟩ := by
  intro _
  have digits : ∀ c ∈ (toString length).toList, c.isDigit = true := by
    intro c mem
    rw [← Number.ofList_decimal, String.toList_ofList] at mem
    exact Number.isDigit_of_mem_decimal mem
  have name_fits : ':' ∉ contentLength.toList ∧ '\n' ∉ contentLength.toList := by decide
  refine ⟨name_fits.1, name_fits.2, ?_, ?_⟩
  · exact fun mem => absurd (digits _ mem) (by decide)
  · exact fun last => absurd (digits _ (List.mem_of_getLast? last)) (by decide)

theorem fits_announced_iff {frame : Frame} :
    (∀ header ∈ frame.announced.headers, Fits frame.command header) ↔
      ∀ header ∈ frame.headers, Fits frame.command header := by
  rw [announced_eq]
  split
  · rfl
  · constructor
    · exact fun fits header mem => fits header (List.mem_append_left _ mem)
    · intro fits header mem
      rcases List.mem_append.mp mem with mem | mem
      · exact fits header mem
      · exact List.mem_singleton.mp mem ▸ fits_contentLength _ _

theorem escapesHeaders_eq_false_iff {command : Command} :
    command.escapesHeaders = false ↔ command = .connect ∨ command = .connected := by
  cases command <;> decide

theorem fits_iff {frame : Frame} :
    (∀ header ∈ frame.headers, Fits frame.command header) ↔
      (frame.command = .connect ∨ frame.command = .connected →
        ∀ header ∈ frame.headers,
          ':' ∉ header.name.toList ∧ '\n' ∉ header.name.toList ∧
            '\n' ∉ header.value.toList ∧ header.value.toList.getLast? ≠ some '\r') := by
  rw [← escapesHeaders_eq_false_iff]
  constructor
  · exact fun fits verbatim header mem => fits header mem verbatim
  · exact fun fits header mem verbatim => fits verbatim header mem

/-- What was written for a frame is read back, whatever follows it, as the frame with the length of
its body announced: exactly where a length that the frame already announces is right, and where the
headers of a frame that carries them verbatim fit on their lines. -/
theorem read_encode_append_eq_ok_iff {frame : Frame} (small : frame.body.utf8ByteSize < UInt64.size)
    (rest : String) :
    read (frame.encode ++ rest) =
        .ok (if frame.body = "" ∨ (frame.header? "content-length").isSome then frame
          else { frame with
            headers := frame.headers ++ [⟨"content-length", toString frame.body.utf8ByteSize⟩] },
          rest) ↔
      (∀ value, frame.header? "content-length" = some value →
        Number.unsigned? Number.maxWord (Text.trim value.toList) = some frame.body.utf8ByteSize) ∧
      (frame.command = .connect ∨ frame.command = .connected →
        ∀ header ∈ frame.headers,
          ':' ∉ header.name.toList ∧ '\n' ∉ header.name.toList ∧
            '\n' ∉ header.value.toList ∧ header.value.toList.getLast? ≠ some '\r') := by
  have written : read (frame.encode ++ rest) = .ok (frame.announced, rest) ↔
      FrameText frame.announced frame.announced.chars := by
    rw [read_eq_ok_iff, String.toList_append, encode, String.toList_ofList]
    constructor
    · rintro ⟨text, split, frame_text⟩
      exact List.append_cancel_right split ▸ frame_text
    · exact fun frame_text => ⟨_, rfl, frame_text⟩
  have shown := announced_eq frame
  rw [contentLength] at shown
  rw [← shown, written, frameText_chars_iff, announced_command, fits_announced_iff, fits_iff,
    delimits_announced_iff small, and_comm, contentLength]

/-- A message comes back with its length announced, whatever its headers hold. -/
theorem read_encode_append_of_message :
    let frame : Frame :=
      ⟨.message, [⟨"a:b", "x\r\n\\"⟩, ⟨"", "\x00"⟩], String.ofList [Char.ofNat 0, 'é']⟩
    frame.body.utf8ByteSize < UInt64.size ∧
      read (frame.encode ++ "\nrest") =
        .ok ({ frame with headers := frame.headers ++ [⟨"content-length", "3"⟩] }, "\nrest") := by
  intro frame
  have small : frame.body.utf8ByteSize < UInt64.size := by decide
  have unannounced : frame.header? "content-length" = none := by decide
  have not_empty : frame.body ≠ "" := by decide
  have octets : toString frame.body.utf8ByteSize = "3" := by decide
  have read_back := (read_encode_append_eq_ok_iff small "\nrest").mpr
    ⟨fun value present => by simp [unannounced] at present,
      fun verbatim => absurd verbatim (by decide)⟩
  rw [if_neg (by simp [not_empty, unannounced]), octets] at read_back
  exact ⟨small, read_back⟩

end LedgerBoard.Frame
