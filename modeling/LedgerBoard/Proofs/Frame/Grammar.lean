import LedgerBoard.Frame.Reader
import LedgerBoard.Proofs.Outcome
import LedgerBoard.Proofs.Text.Octets

/-!
# The grammar of frames

This file says which texts stand for which frames, without reference to the reader: lines and their
two endings, header lines and how their parts are spelled, the body and what delimits it, and a
transport message as a sequence of frames among line ends. The reader of each part then accepts
exactly the texts of that part, followed by anything; `readAll_eq_ok_iff` puts them together.

A frame has many texts, because every line chooses its ending, headers may escape more than they
need, and a length may be written with leading zeros. A text, on the other hand, stands for one
sequence of frames only, since the reader is a function.
-/

namespace LedgerBoard.Frame

/-- The texts of a line: a line feed ends it, and one carriage return before that feed is not part
of it. -/
inductive LineText (line : List Char) : List Char → Prop where
  | feed (unbroken : '\n' ∉ line) (no_return : line.getLast? ≠ some '\r') :
      LineText line (line ++ ['\n'])
  | returnFeed (unbroken : '\n' ∉ line) : LineText line (line ++ ['\r', '\n'])

/-- How one part of a header is spelled on its line. -/
def Spells (command : Command) (written plain : List Char) : Prop :=
  if command.escapesHeaders then Header.unescapeChars written = .ok plain else written = plain

/-- The lines of a header: its first colon divides the name from the value. -/
inductive HeaderLine (command : Command) (header : Header) : List Char → Prop where
  | parts {name value : List Char} (first_colon : ':' ∉ name)
      (name_spelled : Spells command name header.name.toList)
      (value_spelled : Spells command value header.value.toList) :
      HeaderLine command header (name ++ ':' :: value)

/-- The texts of the headers of a frame with the empty line behind them. -/
inductive HeaderText (command : Command) : List Header → List Char → Prop where
  | done {text : List Char} (empty_line : LineText [] text) : HeaderText command [] text
  | more {header : Header} {headers : List Header} {line text rest : List Char}
      (header_line : HeaderLine command header line) (line_text : LineText line text)
      (others : HeaderText command headers rest) :
      HeaderText command (header :: headers) (text ++ rest)

/-- The bodies that may stand behind headers. The first `content-length` header counts the octets of
the body; without one, the body has no NUL. -/
def Delimits (headers : List Header) (body : String) : Prop :=
  match headers.find? fun header => header.name == contentLength with
  | some header =>
      Number.unsigned? Number.maxWord (Text.trim header.value.toList) = some body.utf8ByteSize
  | none => Char.ofNat 0 ∉ body.toList

/-- The texts of a frame. -/
inductive FrameText (frame : Frame) : List Char → Prop where
  | parts {line headers : List Char}
      (command_line : LineText frame.command.wireName.toList line)
      (header_text : HeaderText frame.command frame.headers headers)
      (delimited : Delimits frame.headers frame.body) :
      FrameText frame (line ++ headers ++ frame.body.toList ++ [Char.ofNat 0])

/-- A run of line ends, in which carriage returns and line feeds need not alternate. -/
def LineEnds (text : List Char) : Prop :=
  ∀ c ∈ text, c = '\n' ∨ c = '\r'

/-- The texts of frames in a row, each with line ends behind it. -/
inductive FramesText : List Frame → List Char → Prop where
  | none : FramesText [] []
  | more {frame : Frame} {frames : List Frame} {text gap rest : List Char}
      (frame_text : FrameText frame text) (line_ends : LineEnds gap)
      (others : FramesText frames rest) : FramesText (frame :: frames) (text ++ gap ++ rest)

/-- A text is split at the first mark. -/
theorem splitAt?_eq_some_iff {mark : Char} {text front back : List Char} :
    splitAt? mark text = some (front, back) ↔ text = front ++ mark :: back ∧ mark ∉ front := by
  induction text generalizing front with
  | nil => simp [splitAt?]
  | cons c rest ih =>
      by_cases marked : c = mark
      · subst c
        simp only [splitAt?, if_true, Option.some.injEq, Prod.mk.injEq]
        constructor
        · rintro ⟨rfl, rfl⟩
          simp
        · rintro ⟨split, absent⟩
          cases front with
          | nil => simpa using split
          | cons first inner =>
              rcases List.cons.inj split with ⟨rfl, -⟩
              exact absurd List.mem_cons_self absent
      · simp only [splitAt?, marked, if_false, Option.map_eq_some_iff, Prod.exists, Prod.mk.injEq]
        constructor
        · rintro ⟨inner, after, found, rfl, rfl⟩
          rcases ih.mp found with ⟨rfl, absent⟩
          refine ⟨rfl, ?_⟩
          simp only [List.mem_cons, not_or]
          exact ⟨fun equal => marked equal.symm, absent⟩
        · rintro ⟨split, absent⟩
          cases front with
          | nil => exact absurd (List.cons.inj split).1 marked
          | cons first inner =>
              rcases List.cons.inj split with ⟨rfl, rest_split⟩
              refine ⟨inner, back, ih.mpr ⟨rest_split, ?_⟩, rfl, rfl⟩
              exact fun mem => absent (List.mem_cons_of_mem _ mem)

theorem splitLine?_eq_splitAt? (text : List Char) : splitLine? text = splitAt? '\n' text := by
  induction text with
  | nil => rfl
  | cons c rest ih => simp [splitLine?, splitAt?, ih]

theorem dropReturn_eq_self {line : List Char} (no_return : line.getLast? ≠ some '\r') :
    dropReturn line = line := by
  simp [dropReturn, no_return]

@[simp]
theorem dropReturn_append_return (line : List Char) : dropReturn (line ++ ['\r']) = line := by
  simp [dropReturn]

/-- Every text before a line feed is a line with one of its two endings. -/
theorem lineText_dropReturn {written : List Char} (unbroken : '\n' ∉ written) :
    LineText (dropReturn written) (written ++ ['\n']) := by
  by_cases returned : written.getLast? = some '\r'
  · rcases List.getLast?_eq_some_iff.mp returned with ⟨line, rfl⟩
    rw [dropReturn_append_return, List.append_assoc]
    exact .returnFeed fun mem => unbroken (List.mem_append_left _ mem)
  · rw [dropReturn_eq_self returned]
    exact .feed unbroken returned

/-- The reader of lines accepts just lines. -/
theorem readLine_eq_ok_iff {text line rest : List Char} :
    readLine text = .ok (line, rest) ↔
    ∃ written, text = written ++ rest ∧ LineText line written := by
  simp only [readLine, splitLine?_eq_splitAt?]
  constructor
  · intro read
    split at read
    · rename_i written tail split
      cases read
      rcases splitAt?_eq_some_iff.mp split with ⟨rfl, unbroken⟩
      exact ⟨written ++ ['\n'], by simp, lineText_dropReturn unbroken⟩
    · cases read
  · rintro ⟨written, rfl, line_text⟩
    cases line_text with
    | feed unbroken no_return =>
        have split : splitAt? '\n' (line ++ ['\n'] ++ rest) = some (line, rest) :=
          splitAt?_eq_some_iff.mpr ⟨by simp, unbroken⟩
        simp only [split, dropReturn_eq_self no_return]
    | returnFeed unbroken =>
        have split : splitAt? '\n' (line ++ ['\r', '\n'] ++ rest) = some (line ++ ['\r'], rest) :=
          splitAt?_eq_some_iff.mpr ⟨by simp, by simpa using unbroken⟩
        simp only [split, dropReturn_append_return]

/-- The reader of headers accepts just header lines. -/
theorem readHeader_eq_ok_iff {command : Command} {line : List Char} {header : Header} :
    readHeader command line = .ok header ↔ HeaderLine command header line := by
  constructor
  · intro read
    rw [readHeader] at read
    split at read
    · cases read
    · rename_i name value split
      rcases splitAt?_eq_some_iff.mp split with ⟨rfl, first_colon⟩
      by_cases escapes : command.escapesHeaders = true
      · simp only [escapes, if_true, Outcome.bind_eq_ok_iff, pure, Except.pure,
          Except.ok.injEq] at read
        rcases read with ⟨plain_name, name_read, plain_value, value_read, rfl⟩
        exact .parts first_colon (by simpa [Spells, escapes] using name_read)
          (by simpa [Spells, escapes] using value_read)
      · simp only [escapes, if_false, pure, Except.pure, Except.ok.injEq, Bool.false_eq_true]
          at read
        subst read
        exact .parts first_colon (by simp [Spells, escapes]) (by simp [Spells, escapes])
  · intro header_line
    cases header_line with
    | @parts name value first_colon name_spelled value_spelled =>
        have split : splitAt? ':' (name ++ ':' :: value) = some (name, value) :=
          splitAt?_eq_some_iff.mpr ⟨rfl, first_colon⟩
        rw [readHeader]
        simp only [split]
        by_cases escapes : command.escapesHeaders = true
        · simp only [Spells, escapes, if_true] at name_spelled value_spelled
          simp [escapes, name_spelled, value_spelled, bind, Except.bind, pure, Except.pure]
        · simp only [Spells, escapes, if_false, Bool.false_eq_true] at name_spelled value_spelled
          simp [escapes, name_spelled, value_spelled, pure, Except.pure]

/-- One step of the reader of headers. -/
theorem readHeaders_eq (command : Command) (text : List Char) :
    readHeaders command text = do
      let (line, tail) ← readLine text
      if line.isEmpty then return ([], tail)
      else
        let header ← readHeader command line
        let (headers, rest) ← readHeaders command tail
        return (header :: headers, rest) := by
  rw [readHeaders]
  split
  · rename_i cause failed
    rw [failed]
    rfl
  · rename_i line tail read
    rw [read]
    rfl

theorem HeaderLine.ne_nil {command : Command} {header : Header} {line : List Char}
    (header_line : HeaderLine command header line) : line ≠ [] := by
  cases header_line with
  | parts first_colon name_spelled value_spelled => simp

/-- What the reader of headers accepts is a block of header lines. -/
theorem readHeaders_sound {command : Command} {text rest : List Char} {headers : List Header}
    (read : readHeaders command text = .ok (headers, rest)) :
    ∃ written, text = written ++ rest ∧ HeaderText command headers written := by
  fun_induction readHeaders command text generalizing headers with
  | case1 text cause failed => cases read
  | case2 text line tail line_read last =>
      cases read
      rcases readLine_eq_ok_iff.mp line_read with ⟨written, rfl, line_text⟩
      rw [List.isEmpty_iff.mp last] at line_text
      exact ⟨written, rfl, .done line_text⟩
  | case3 text line tail line_read more ih =>
      simp only [Outcome.bind_eq_ok_iff, Prod.exists, pure, Except.pure, Except.ok.injEq,
        Prod.mk.injEq] at read
      rcases read with ⟨header, header_read, others, after, others_read, rfl, rfl⟩
      rcases readLine_eq_ok_iff.mp line_read with ⟨written, rfl, line_text⟩
      rcases ih others_read with ⟨block, rfl, header_text⟩
      refine ⟨written ++ block, by simp, ?_⟩
      exact .more (readHeader_eq_ok_iff.mp header_read) line_text header_text

/-- Every block of header lines is read. -/
theorem readHeaders_complete {command : Command} {headers : List Header} {written rest : List Char}
    (header_text : HeaderText command headers written) :
    readHeaders command (written ++ rest) = .ok (headers, rest) := by
  induction header_text with
  | @done text empty_line =>
      have line_read : readLine (text ++ rest) = .ok ([], rest) :=
        readLine_eq_ok_iff.mpr ⟨text, rfl, empty_line⟩
      rw [readHeaders_eq, line_read]
      rfl
  | @more header headers line text others_text header_line line_text others ih =>
      have line_read : readLine (text ++ others_text ++ rest) = .ok (line, others_text ++ rest) :=
        readLine_eq_ok_iff.mpr ⟨text, by simp, line_text⟩
      have solid : line.isEmpty = false := by simpa using header_line.ne_nil
      have header_read : readHeader command line = .ok header :=
        readHeader_eq_ok_iff.mpr header_line
      rw [readHeaders_eq, line_read]
      simp [bind, Except.bind, solid, header_read, ih, pure, Except.pure]

/-- The reader of headers takes exactly the texts of headers. -/
theorem readHeaders_eq_ok_iff {command : Command} {text rest : List Char} {headers : List Header} :
    readHeaders command text = .ok (headers, rest) ↔
      ∃ written, text = written ++ rest ∧ HeaderText command headers written := by
  constructor
  · exact readHeaders_sound
  · rintro ⟨written, rfl, header_text⟩
    exact readHeaders_complete header_text

/-- The reader of a body takes exactly the bodies that the headers delimit. -/
theorem readBody_eq_ok_iff {headers : List Header} {text rest : List Char} {body : String} :
    (∃ length, announcedLength? headers = .ok length ∧
        readBody length text = .ok (body.toList, rest)) ↔
      text = body.toList ++ Char.ofNat 0 :: rest ∧ Delimits headers body := by
  unfold announcedLength? Delimits
  cases found : headers.find? fun header => header.name == contentLength with
  | none =>
      simp only [Except.ok.injEq, exists_eq_left', readBody]
      constructor
      · intro read
        split at read
        · rename_i front tail split
          cases read
          exact splitAt?_eq_some_iff.mp split
        · cases read
      · intro delimited
        rw [splitAt?_eq_some_iff.mpr delimited]
  | some header =>
      simp only
      constructor
      · rintro ⟨length, announced, read⟩
        split at announced
        · rename_i count numeral
          cases announced
          simp only [readBody] at read
          split at read
          · cases read
          · rename_i front tail split
            rcases Text.splitOctets?_eq_some_iff.mp split with ⟨rfl, size⟩
            split at read
            · rename_i terminated
              cases read
              rcases List.head?_eq_some_iff.mp terminated with ⟨after, rfl⟩
              rw [numeral, ← size, Text.octets_toList]
              simp
            · cases read
        · cases announced
      · rintro ⟨rfl, numeral⟩
        refine ⟨some body.utf8ByteSize, by rw [numeral], ?_⟩
        have split : Text.splitOctets? body.utf8ByteSize (body.toList ++ Char.ofNat 0 :: rest) =
            some (body.toList, Char.ofNat 0 :: rest) :=
          Text.splitOctets?_eq_some_iff.mpr ⟨rfl, Text.octets_toList body⟩
        simp [readBody, split]

theorem ofWireName?_eq_some_iff {name : String} {command : Command} :
    Command.ofWireName? name = some command ↔ command.wireName = name := by
  constructor
  · intro found
    simpa using List.find?_some found
  · rintro rfl
    exact Command.ofWireName?_wireName command

/-- What the reader accepts is a frame. -/
theorem readChars_sound {text rest : List Char} {frame : Frame}
    (read : readChars text = .ok (frame, rest)) :
    ∃ written, text = written ++ rest ∧ FrameText frame written := by
  simp only [readChars, Outcome.bind_eq_ok_iff, Prod.exists] at read
  rcases read with ⟨line, after, line_read, read⟩
  split at read
  · cases read
  · rename_i command named
    simp only [Outcome.bind_eq_ok_iff, Prod.exists, pure, Except.pure, Except.ok.injEq,
      Prod.mk.injEq] at read
    rcases read with
      ⟨headers, tail, headers_read, length, announced, body, final, body_read, rfl, rfl⟩
    rcases readLine_eq_ok_iff.mp line_read with ⟨command_line, rfl, line_text⟩
    rcases readHeaders_eq_ok_iff.mp headers_read with ⟨block, rfl, header_text⟩
    have delimited : tail = (String.ofList body).toList ++ Char.ofNat 0 :: final ∧
        Delimits headers (String.ofList body) :=
      readBody_eq_ok_iff.mp ⟨length, announced, by rwa [String.toList_ofList]⟩
    rcases delimited with ⟨rfl, delimited⟩
    have name_chars : command.wireName.toList = line := by
      rw [ofWireName?_eq_some_iff.mp named, String.toList_ofList]
    refine ⟨command_line ++ block ++ (String.ofList body).toList ++ [Char.ofNat 0], by simp, ?_⟩
    exact .parts (name_chars ▸ line_text) header_text delimited

/-- Every frame is read. -/
theorem readChars_complete {frame : Frame} {written rest : List Char}
    (frame_text : FrameText frame written) : readChars (written ++ rest) = .ok (frame, rest) := by
  cases frame_text with
  | @parts line headers command_line header_text delimited =>
      have line_read : readLine (line ++ headers ++ frame.body.toList ++ [Char.ofNat 0] ++ rest) =
          .ok (frame.command.wireName.toList,
            headers ++ (frame.body.toList ++ Char.ofNat 0 :: rest)) :=
        readLine_eq_ok_iff.mpr ⟨line, by simp, command_line⟩
      have headers_read :
          readHeaders frame.command (headers ++ (frame.body.toList ++ Char.ofNat 0 :: rest)) =
            .ok (frame.headers, frame.body.toList ++ Char.ofNat 0 :: rest) :=
        readHeaders_complete header_text
      have body_split : frame.body.toList ++ Char.ofNat 0 :: rest =
          frame.body.toList ++ Char.ofNat 0 :: rest ∧ Delimits frame.headers frame.body :=
        ⟨rfl, delimited⟩
      rcases readBody_eq_ok_iff.mpr body_split with ⟨length, announced, body_read⟩
      simp only [readChars, line_read, bind, Except.bind, String.ofList_toList,
        Command.ofWireName?_wireName, headers_read, announced, body_read]
      rfl

/-- The reader of a frame takes exactly the texts of frames. -/
theorem readChars_eq_ok_iff {text rest : List Char} {frame : Frame} :
    readChars text = .ok (frame, rest) ↔
    ∃ written, text = written ++ rest ∧ FrameText frame written := by
  constructor
  · exact readChars_sound
  · rintro ⟨written, rfl, frame_text⟩
    exact readChars_complete frame_text

/-- A text starts with a frame exactly where it starts with one of the texts of that frame. -/
theorem read_eq_ok_iff {text rest : String} {frame : Frame} :
    read text = .ok (frame, rest) ↔
      ∃ written, text.toList = written ++ rest.toList ∧ FrameText frame written := by
  simp only [read, Outcome.map_eq_ok_iff, Prod.exists, Prod.mk.injEq]
  constructor
  · rintro ⟨found, after, frame_read, rfl, rfl⟩
    rw [String.toList_ofList]
    exact readChars_eq_ok_iff.mp frame_read
  · intro frame_text
    exact ⟨frame, rest.toList, readChars_eq_ok_iff.mpr frame_text, rfl, String.ofList_toList⟩

theorem exists_lineEnds_skipLineEnds (text : List Char) :
    ∃ lead, text = lead ++ skipLineEnds text ∧ LineEnds lead := by
  refine ⟨text.takeWhile fun c => c == '\n' || c == '\r', ?_, ?_⟩
  · exact List.takeWhile_append_dropWhile.symm
  · intro c mem
    simpa using List.all_eq_true.mp List.all_takeWhile c mem

theorem skipLineEnds_append {lead : List Char} (line_ends : LineEnds lead) (rest : List Char) :
    skipLineEnds (lead ++ rest) = skipLineEnds rest := by
  apply List.dropWhile_append_of_pos
  intro c mem
  simpa using line_ends c mem

/-- A frame starts with the name of its command, and so not with a line end. -/
theorem FrameText.skipLineEnds_append {frame : Frame} {written : List Char}
    (frame_text : FrameText frame written) (rest : List Char) :
    skipLineEnds (written ++ rest) = written ++ rest := by
  have named : ∀ tail, skipLineEnds (frame.command.wireName.toList ++ tail) =
      frame.command.wireName.toList ++ tail := by
    intro tail
    cases frame.command <;> rfl
  cases frame_text with
  | parts command_line header_text delimited =>
      cases command_line with
      | feed unbroken no_return => simpa using named _
      | returnFeed unbroken => simpa using named _

theorem readAllChars_of_ok {frame : Frame} {text rest : List Char}
    (read : readChars (skipLineEnds text) = .ok (frame, rest)) :
    readAllChars text = (readAllChars rest).map (frame :: ·) := by
  have solid : (skipLineEnds text).isEmpty = false := by
    have shorter := length_readChars read
    cases skipped : skipLineEnds text with
    | nil => simp [skipped] at shorter
    | cons c tail => rfl
  rw [readAllChars]
  simp only [solid, Bool.false_eq_true, if_false]
  split
  · rename_i cause failed
    cases read.symm.trans failed
  · rename_i found after found_read
    cases read.symm.trans found_read
    rfl

/-- What the reader accepts is frames in a row, with line ends between them. -/
theorem readAllChars_sound {text : List Char} {frames : List Frame}
    (read : readAllChars text = .ok frames) :
    ∃ lead rest, text = lead ++ rest ∧ LineEnds lead ∧ FramesText frames rest := by
  fun_induction readAllChars text generalizing frames with
  | case1 text blank =>
      cases read
      rcases exists_lineEnds_skipLineEnds text with ⟨lead, split, line_ends⟩
      refine ⟨lead, [], ?_, line_ends, .none⟩
      rwa [List.isEmpty_iff.mp blank] at split
  | case2 text solid cause failed => cases read
  | case3 text solid frame tail frame_read ih =>
      rcases Outcome.map_eq_ok_iff.mp read with ⟨others, others_read, rfl⟩
      rcases exists_lineEnds_skipLineEnds text with ⟨lead, split, line_ends⟩
      rcases readChars_eq_ok_iff.mp frame_read with ⟨written, frame_split, frame_text⟩
      rcases ih others_read with ⟨gap, rest, rfl, gap_ends, frames_text⟩
      refine ⟨lead, written ++ gap ++ rest, ?_, line_ends, .more frame_text gap_ends frames_text⟩
      rw [split, frame_split, List.append_assoc written]

/-- Frames in a row are read. -/
theorem readAllChars_complete {frames : List Frame} {lead rest : List Char}
    (line_ends : LineEnds lead) (frames_text : FramesText frames rest) :
    readAllChars (lead ++ rest) = .ok frames := by
  induction frames_text generalizing lead with
  | none =>
      rw [readAllChars, skipLineEnds_append line_ends]
      rfl
  | @more frame frames text gap rest frame_text gap_ends others ih =>
      have skipped : skipLineEnds (lead ++ (text ++ gap ++ rest)) = text ++ (gap ++ rest) := by
        rw [skipLineEnds_append line_ends, List.append_assoc, frame_text.skipLineEnds_append]
      have frame_read : readChars (text ++ (gap ++ rest)) = .ok (frame, gap ++ rest) :=
        readChars_complete frame_text
      rw [readAllChars_of_ok (skipped.symm ▸ frame_read), ih gap_ends]
      rfl

/-- A transport message holds frames exactly where it is a run of line ends followed by their texts,
each with a run of line ends behind it. -/
theorem readAll_eq_ok_iff {text : String} {frames : List Frame} :
    readAll text = .ok frames ↔
      ∃ lead rest, text.toList = lead ++ rest ∧ LineEnds lead ∧ FramesText frames rest := by
  constructor
  · exact readAllChars_sound
  · rintro ⟨lead, rest, split, line_ends, frames_text⟩
    rw [readAll, split]
    exact readAllChars_complete line_ends frames_text

end LedgerBoard.Frame
