import LedgerBoard.Frame.Writer
import LedgerBoard.Text.Blank

/-!
# Reading frames

A frame is read from the start of a text, and what follows it is handed back. Lines end at a line
feed, and one carriage return before it belongs to the line end. `readAll` reads a whole transport
message: frames with any run of line ends between them, so that a lone line end, which is a
heart-beat, holds no frame.
-/

namespace LedgerBoard.Frame

/-- The text before the first line feed and the text after it. -/
def splitLine? : List Char → Option (List Char × List Char)
  | [] => none
  | c :: rest =>
      if c = '\n' then some ([], rest)
      else (splitLine? rest).map fun (line, tail) => (c :: line, tail)

/-- A line without one carriage return at its end. -/
def dropReturn (line : List Char) : List Char :=
  if line.getLast? = some '\r' then line.dropLast else line

def readLine (text : List Char) : Except FrameError (List Char × List Char) :=
  match splitLine? text with
  | some (line, tail) => .ok (dropReturn line, tail)
  | none => .error .incomplete

theorem length_splitLine? {text line tail : List Char}
    (split : splitLine? text = some (line, tail)) :
    tail.length < text.length := by
  induction text generalizing line with
  | nil => simp [splitLine?] at split
  | cons c rest ih =>
      by_cases feed : c = '\n'
      · simp [splitLine?, feed] at split
        simp [split]
      · simp only [splitLine?, feed, if_false, Option.map_eq_some_iff] at split
        rcases split with ⟨⟨inner, after⟩, inner_split, equal⟩
        cases equal
        exact Nat.lt_succ_of_lt (ih inner_split)

theorem length_readLine {text line tail : List Char} (read : readLine text = .ok (line, tail)) :
    tail.length < text.length := by
  rw [readLine] at read
  split at read
  · rename_i split
    cases read
    exact length_splitLine? split
  · cases read

/-- The text before the first character `mark` and the text after it. -/
def splitAt? (mark : Char) : List Char → Option (List Char × List Char)
  | [] => none
  | c :: rest =>
      if c = mark then some ([], rest)
      else (splitAt? mark rest).map fun (front, back) => (c :: front, back)

def readHeader (command : Command) (line : List Char) : Except FrameError Header := do
  match splitAt? ':' line with
  | none => throw (.malformedHeader (String.ofList line))
  | some (name, value) =>
      if command.escapesHeaders then
        return ⟨String.ofList (← Header.unescapeChars name),
          String.ofList (← Header.unescapeChars value)⟩
      else return ⟨String.ofList name, String.ofList value⟩

/-- Reads header lines up to and with the empty line. -/
def readHeaders (command : Command) (text : List Char) :
    Except FrameError (List Header × List Char) :=
  match _read : readLine text with
  | .error cause => .error cause
  | .ok (line, tail) =>
      if line.isEmpty then .ok ([], tail)
      else do
        let header ← readHeader command line
        let (headers, rest) ← readHeaders command tail
        return (header :: headers, rest)
termination_by text.length
decreasing_by exact length_readLine _read

/-- The body length that the first `content-length` header announces. -/
def announcedLength? (headers : List Header) : Except FrameError (Option Nat) :=
  match headers.find? fun header => header.name == contentLength with
  | none => .ok none
  | some header =>
      match Number.unsigned? Number.maxWord (Text.trim header.value.toList) with
      | some length => .ok (some length)
      | none => .error (.invalidContentLength header.value)

/-- Reads a body and its NUL. An announced length counts octets and may cover NULs; otherwise the
body ends at the first NUL. -/
def readBody (length : Option Nat) (text : List Char) :
    Except FrameError (List Char × List Char) :=
  match length with
  | some length =>
      match Text.splitOctets? length text with
      | none => .error (.invalidContentLength (String.ofList (Number.decimal length)))
      | some (body, tail) =>
          if tail.head? = some (Char.ofNat 0) then .ok (body, tail.drop 1)
          else .error .missingTerminator
  | none =>
      match splitAt? (Char.ofNat 0) text with
      | some (body, tail) => .ok (body, tail)
      | none => .error .missingTerminator

/-- Reads one frame from the start of a text. -/
def readChars (text : List Char) : Except FrameError (Frame × List Char) := do
  let (line, text) ← readLine text
  let name := String.ofList line
  match Command.ofWireName? name with
  | none => throw (.unknownCommand name)
  | some command =>
      let (headers, text) ← readHeaders command text
      let length ← announcedLength? headers
      let (body, text) ← readBody length text
      return (⟨command, headers, String.ofList body⟩, text)

/-- A text without the line ends it starts with. -/
def skipLineEnds (text : List Char) : List Char :=
  text.dropWhile fun c => c == '\n' || c == '\r'

theorem length_splitAt? {mark : Char} {text front back : List Char}
    (split : splitAt? mark text = some (front, back)) : back.length < text.length := by
  induction text generalizing front with
  | nil => simp [splitAt?] at split
  | cons c rest ih =>
      by_cases marked : c = mark
      · simp [splitAt?, marked] at split
        simp [split]
      · simp only [splitAt?, marked, if_false, Option.map_eq_some_iff] at split
        rcases split with ⟨⟨inner, after⟩, inner_split, equal⟩
        cases equal
        exact Nat.lt_succ_of_lt (ih inner_split)

theorem length_readHeaders {command : Command} {text rest : List Char} {headers : List Header}
    (read : readHeaders command text = .ok (headers, rest)) : rest.length < text.length := by
  fun_induction readHeaders command text generalizing headers with
  | case1 text cause failed => cases read
  | case2 text line tail line_read last =>
      cases read
      exact length_readLine line_read
  | case3 text line tail line_read more ih =>
      cases header : readHeader command line with
      | error cause => simp [header, bind, Except.bind] at read
      | ok header =>
          cases inner : readHeaders command tail with
          | error cause => simp_all [bind, Except.bind]
          | ok found =>
              rcases found with ⟨others, after⟩
              simp only [header, inner, bind, Except.bind, pure, Except.pure, Except.ok.injEq,
                Prod.mk.injEq] at read
              rcases read with ⟨_, rfl⟩
              exact Nat.lt_trans (ih inner) (length_readLine line_read)

theorem length_splitOctets? {count : Nat} {text front back : List Char}
    (split : Text.splitOctets? count text = some (front, back)) : back.length ≤ text.length := by
  fun_induction Text.splitOctets? count text generalizing front with
  | case1 text => simp_all
  | case2 count => simp_all
  | case3 count c rest fits ih =>
      simp only [Option.map_eq_some_iff] at split
      rcases split with ⟨⟨inner, after⟩, inner_split, equal⟩
      cases equal
      exact Nat.le_succ_of_le (ih inner_split)
  | case4 => simp_all

theorem length_readBody {length : Option Nat} {text body rest : List Char}
    (read : readBody length text = .ok (body, rest)) : rest.length < text.length := by
  rw [readBody.eq_def] at read
  cases length with
  | some length =>
      cases cut : Text.splitOctets? length text with
      | none => simp [cut] at read
      | some parts =>
          rcases parts with ⟨front, tail⟩
          have tail_le := length_splitOctets? cut
          cases tail with
          | nil => simp [cut] at read
          | cons c tail =>
              simp only [cut, List.head?_cons, Option.some.injEq, List.drop_one,
                List.tail_cons] at read
              split at read <;> cases read
              exact tail_le
  | none =>
      cases cut : splitAt? (Char.ofNat 0) text with
      | none => simp [cut] at read
      | some parts =>
          simp only [cut] at read
          cases read
          exact length_splitAt? cut

theorem length_readChars {text rest : List Char} {frame : Frame}
    (read : readChars text = .ok (frame, rest)) : rest.length < text.length := by
  rw [readChars] at read
  cases command_line : readLine text with
  | error cause => simp [command_line, bind, Except.bind] at read
  | ok found =>
      rcases found with ⟨line, after⟩
      have after_lt := length_readLine command_line
      simp only [command_line, bind, Except.bind] at read
      split at read
      · cases read
      · rename_i command _
        cases header_block : readHeaders command after with
        | error cause => simp [header_block] at read
        | ok found =>
            rcases found with ⟨headers, tail⟩
            have tail_lt := length_readHeaders header_block
            simp only [header_block] at read
            cases announced : announcedLength? headers with
            | error cause => simp [announced] at read
            | ok length =>
                simp only [announced] at read
                cases body_read : readBody length tail with
                | error cause => simp [body_read] at read
                | ok found =>
                    rcases found with ⟨body, final⟩
                    have final_lt := length_readBody body_read
                    simp only [body_read, pure, Except.pure, Except.ok.injEq, Prod.mk.injEq] at read
                    rcases read with ⟨_, rfl⟩
                    omega

/-- Reads every frame of a transport message. -/
def readAllChars (text : List Char) : Except FrameError (List Frame) :=
  if (skipLineEnds text).isEmpty then .ok []
  else
    match _read : readChars (skipLineEnds text) with
    | .error cause => .error cause
    | .ok (frame, rest) => (readAllChars rest).map (frame :: ·)
termination_by text.length
decreasing_by
  exact Nat.lt_of_lt_of_le (length_readChars _read) (List.dropWhile_sublist _).length_le

/-- Reads one frame from the start of a text, with the text that follows it. -/
def read (text : String) : Except FrameError (Frame × String) :=
  (readChars text.toList).map fun (frame, rest) => (frame, String.ofList rest)

/-- Reads every frame of a transport message. -/
def readAll (text : String) : Except FrameError (List Frame) :=
  readAllChars text.toList

end LedgerBoard.Frame
