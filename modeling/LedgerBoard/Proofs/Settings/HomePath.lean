import LedgerBoard.Proofs.Files.Path
import LedgerBoard.Settings.Location

/-!
# Paths that start at home

A tilde and a slash at the start of the log file stand for the home directory. What follows them is
joined to the home directory as a path of its own, so it goes on from there unless it starts with
another slash: then it is an absolute path, and nothing of the home directory is left.
-/

namespace LedgerBoard

namespace Path

variable {base : Path} {below : String}

/-- A slash divides the parts of a path. -/
theorem parts_append_slash (first second : List Char) :
    (ofChars (first ++ '/' :: second)).parts = (ofChars first).parts ++ (ofChars second).parts := by
  simp only [parts, pieces, text_ofChars, List.splitOn_append_cons_self, List.map_append,
    List.filter_append]

/-- An absolute path takes the place of what it is joined to. -/
theorem join_of_absolute (absolute : (Path.mk below).isAbsolute = true) :
    base.join below = ⟨below⟩ := by
  rw [join, absolute, Bool.true_or, if_pos rfl]

/-- A relative path is written behind the slash that an absolute one ends in, or else behind a new
one. -/
theorem join_of_relative (absolute : base.isAbsolute = true)
    (relative : (Path.mk below).isAbsolute = false) :
    base.join below =
      if base.text.toList.getLast? = some '/' then ofChars (base.text.toList ++ below.toList)
      else ofChars (base.text.toList ++ '/' :: below.toList) := by
  have some_front : base.text.toList.isEmpty = false := by
    rw [List.isEmpty_eq_false_iff]
    intro none
    simp [isAbsolute, none] at absolute
  simp only [join, relative, some_front, Bool.or_self, Bool.false_eq_true, if_false, beq_iff_eq]
  split
  · simp [ofChars]
  · simp [ofChars, String.append_assoc]

theorem isAbsolute_join (absolute : base.isAbsolute = true) :
    (base.join below).isAbsolute = true := by
  cases kind : (Path.mk below).isAbsolute with
  | true => rw [join_of_absolute kind, kind]
  | false =>
      obtain ⟨rest, text⟩ : ∃ rest, base.text.toList = '/' :: rest := by
        simpa [isAbsolute, List.head?_eq_some_iff] using absolute
      rw [join_of_relative absolute kind, text]
      split <;> simp [isAbsolute]

/-- The parts of a relative path follow the parts of the path that it is joined to. -/
theorem parts_join (absolute : base.isAbsolute = true)
    (relative : (Path.mk below).isAbsolute = false) :
    (base.join below).parts = base.parts ++ (Path.mk below).parts := by
  have below_eq : ofChars below.toList = Path.mk below := by rw [ofChars, String.ofList_toList]
  have base_eq := ofChars_toList base
  rw [join_of_relative absolute relative]
  split
  case isTrue slash =>
    obtain ⟨front, text⟩ := List.getLast?_eq_some_iff.mp slash
    have nothing : (ofChars []).parts = [] := rfl
    have front_parts : base.parts = (ofChars front).parts := by
      rw [← base_eq, text, parts_append_slash, nothing, List.append_nil]
    rw [text, List.append_assoc, List.singleton_append, parts_append_slash, below_eq, front_parts]
  case isFalse =>
    rw [parts_append_slash, below_eq, base_eq]

end Path

namespace Environment

open LedgerBoard.Path

variable {environment : Environment} {log : LogSettings} {home : Path} {rest : List Char}

/-- A tilde stands for the home directory. -/
theorem logPath_of_tilde (at_home : environment.home? = some home)
    (tilde : (Text.trimmed log.file).toList = '~' :: '/' :: rest) :
    environment.logPath log = home.join (String.ofList rest) := by
  have some_file : (Text.trimmed log.file).isEmpty = false := by
    rw [← Bool.not_eq_true, String.isEmpty_iff, ← String.toList_eq_nil_iff, tilde]
    nofun
  simp only [logPath, some_file, Bool.false_eq_true, if_false, expandTilde, at_home, tilde]

/-- A log file behind a tilde and a slash lies where the home directory and then the rest of the
text lead, exactly if the rest does not start with a slash, or the home directory is the root.
Single dots and repeated slashes lead nowhere. -/
theorem logPath_stays_below_home_iff (at_home : environment.home? = some home)
    (absolute : home.isAbsolute = true)
    (tilde : (Text.trimmed log.file).toList = '~' :: '/' :: rest) :
    ((environment.logPath log).isAbsolute = true ∧
        (environment.logPath log).parts = home.parts ++ (ofChars rest).parts) ↔
      rest.head? ≠ some '/' ∨ home.parts = [] := by
  rw [logPath_of_tilde at_home tilde]
  cases kind : (ofChars rest).isAbsolute with
  | true =>
      have slash : rest.head? = some '/' := by simpa [isAbsolute] using kind
      rw [join_of_absolute kind, show Path.mk (String.ofList rest) = ofChars rest from rfl,
        kind, slash]
      simp
  | false =>
      have no_slash : rest.head? ≠ some '/' := by simpa [isAbsolute] using kind
      exact iff_of_true ⟨isAbsolute_join absolute, parts_join absolute kind⟩ (.inl no_slash)

theorem logPath_stays_below_home_iff_of_dots :
    let environment : Environment := ⟨[("HOME", "/home/me/")], none⟩
    let log : LogSettings := { file := " ~/./logs//../a.log\n" }
    environment.home? = some ⟨"/home/me/"⟩ ∧ Path.isAbsolute ⟨"/home/me/"⟩ = true ∧
      (Text.trimmed log.file).toList = '~' :: '/' :: "./logs//../a.log".toList ∧
      (environment.logPath log).parts = ["home", "me", "logs", "..", "a.log"] := by
  intro environment log
  have at_home : environment.home? = some ⟨"/home/me/"⟩ := by decide
  have absolute : Path.isAbsolute ⟨"/home/me/"⟩ = true := by decide
  have tilde : (Text.trimmed log.file).toList = '~' :: '/' :: "./logs//../a.log".toList := by decide
  have stays := (logPath_stays_below_home_iff at_home absolute tilde).mpr (.inl (by decide))
  refine ⟨at_home, absolute, tilde, ?_⟩
  rw [stays.2]
  decide

/-- With a second slash behind the tilde, the log file is not below the home directory. -/
theorem logPath_leaves_home :
    let environment : Environment := ⟨[("HOME", "/home/me")], none⟩
    let log : LogSettings := { file := "~//var/x" }
    environment.home? = some ⟨"/home/me"⟩ ∧ Path.isAbsolute ⟨"/home/me"⟩ = true ∧
      "~/".toList <+: (Text.trimmed log.file).toList ∧ environment.logPath log = ⟨"/var/x"⟩ ∧
      ¬Path.parts ⟨"/home/me"⟩ <+: (environment.logPath log).parts := by
  decide

end Environment

end LedgerBoard
