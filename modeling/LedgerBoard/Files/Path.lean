/-!
# Paths

Paths are texts with parts between slashes. Joining and cutting them works on the text: nothing is
looked up, and dots are kept as they are written.
-/

namespace LedgerBoard

/-- The place of a file or directory. -/
structure Path where
  text : String
  deriving DecidableEq, Repr

namespace Path

def isAbsolute (path : Path) : Bool :=
  path.text.toList.head? == some '/'

/-- A path below another. An absolute path stands for itself. -/
def join (base : Path) (below : String) : Path :=
  let front := base.text.toList
  if (Path.mk below).isAbsolute || front.isEmpty then ⟨below⟩
  else if front.getLast? == some '/' then ⟨base.text ++ below⟩
  else ⟨base.text ++ "/" ++ below⟩

/-- A text without what it ends with and does not name anything: slashes, and single dots behind a
slash. The text is given last character first. -/
def dropIdle : List Char → List Char
  | '/' :: rest => dropIdle rest
  | '.' :: '/' :: rest => dropIdle ('/' :: rest)
  | text => text

/-- The text before the last part, and the last part, both last character first. A path that is
only a root, or a single dot at most, has no last part. -/
def splitLast (path : Path) : List Char × List Char :=
  let text := dropIdle path.text.toList.reverse
  (text.dropWhile (· ≠ '/'), text.takeWhile (· ≠ '/'))

/-- The path of the directory that holds the last part, if there is a last part. -/
def parent? (path : Path) : Option Path :=
  let (front, last) := path.splitLast
  if last.isEmpty then none
  else
    let cut := dropIdle front
    let kept := if cut.isEmpty && !front.isEmpty then ['/'] else cut
    some ⟨String.ofList kept.reverse⟩

/-- The name of the last part, unless it leads upwards. -/
def fileName? (path : Path) : Option (List Char) :=
  let name := path.splitLast.2.reverse
  if name.isEmpty || name == ['.', '.'] || name == ['.'] then none else some name

/-- A name without its extension: what stands before its last dot, unless that dot comes first. -/
def stem (name : List Char) : List Char :=
  let back := name.reverse
  let front := ((back.dropWhile (· ≠ '.')).drop 1).reverse
  if front.isEmpty then name else front

/-- A path whose last part has another extension. -/
def withExtension (path : Path) (extension : String) : Path :=
  match path.fileName? with
  | none => path
  | some name =>
      let front := path.splitLast.1.reverse
      ⟨String.ofList (front ++ stem name) ++ "." ++ extension⟩

/-- The texts between the slashes of a path. -/
def pieces (path : Path) : List String :=
  (path.text.toList.splitOn '/').map String.ofList

def parts (path : Path) : List String :=
  path.pieces.filter fun part => part ≠ "" ∧ part ≠ "."

def endsInSlash (path : Path) : Bool :=
  path.text.toList.getLast? == some '/'

/-- A path without the slashes at its end. -/
def withoutSlashes (path : Path) : Path :=
  ⟨String.ofList (path.text.toList.reverse.dropWhile (· == '/')).reverse⟩

end Path

end LedgerBoard
