import LedgerBoard.Proofs.Frame.Grammar

/-!
# Messages in parts

A reader takes a line up to its line feed, a counted body by its count and any other body up to its
NUL, so what it has taken does not depend on the text behind it. Two messages in a row therefore
hold the frames of both, and a fault that is found in a whole line stays, whatever is sent after it.
-/

namespace LedgerBoard

/-- An error about a line that was read. No text behind it can mend it, unlike the end of the
text. -/
def FrameError.IsSettled : FrameError → Prop
  | unknownCommand _ | malformedHeader _ | invalidEscape _ => True
  | invalidContentLength _ | missingTerminator | incomplete => False

namespace Frame

variable {text rest : List Char} {cause : FrameError}

/-- What stands behind a line does not change it. -/
theorem readLine_append {line : List Char} (read : readLine text = .ok (line, rest))
    (more : List Char) :
    readLine (text ++ more) = .ok (line, rest ++ more) := by
  rcases readLine_eq_ok_iff.mp read with ⟨written, rfl, line_text⟩
  exact readLine_eq_ok_iff.mpr ⟨written, by simp, line_text⟩

/-- What stands behind a frame does not change it. -/
theorem readChars_append {frame : Frame} (read : readChars text = .ok (frame, rest))
    (more : List Char) :
    readChars (text ++ more) = .ok (frame, rest ++ more) := by
  rcases readChars_eq_ok_iff.mp read with ⟨written, rfl, frame_text⟩
  exact readChars_eq_ok_iff.mpr ⟨written, by simp, frame_text⟩

/-- Without a line feed there is no line. -/
theorem eq_incomplete_of_readLine (failed : readLine text = .error cause) :
    cause = .incomplete := by
  rw [readLine] at failed
  split at failed
  · cases failed
  · simpa using failed.symm

theorem not_settled_of_announcedLength? {headers : List Header}
    (failed : announcedLength? headers = .error cause) : ¬cause.IsSettled := by
  rw [announcedLength?] at failed
  split at failed
  · cases failed
  · split at failed
    · cases failed
    · cases failed
      simp [FrameError.IsSettled]

/-- A fault in the body may go away with more text. -/
theorem not_settled_of_readBody {length : Option Nat}
    (failed : readBody length text = .error cause) :
    ¬cause.IsSettled := by
  intro settled
  cases length with
  | none =>
      simp only [readBody] at failed
      split at failed
      · cases failed
      · cases failed
        exact settled
  | some length =>
      simp only [readBody] at failed
      split at failed
      · cases failed
        exact settled
      · split at failed
        · cases failed
        · cases failed
          exact settled

theorem readHeaders_append_of_settled {command : Command} (settled : cause.IsSettled)
    (failed : readHeaders command text = .error cause) (more : List Char) :
    readHeaders command (text ++ more) = .error cause := by
  fun_induction readHeaders command text with
  | case1 text other line_failed =>
      cases failed
      rw [eq_incomplete_of_readLine line_failed] at settled
      exact settled.elim
  | case2 text line tail line_read last => cases failed
  | case3 text line tail line_read solid ih =>
      rw [readHeaders_eq]
      refine Outcome.bind_eq_error_iff.mpr (.inr ⟨_, readLine_append line_read more, ?_⟩)
      simp only [solid, Bool.false_eq_true, if_false]
      rcases Outcome.bind_eq_error_iff.mp failed with header_failed | ⟨header, header_read, failed⟩
      · exact Outcome.bind_eq_error_iff.mpr (.inl header_failed)
      · refine Outcome.bind_eq_error_iff.mpr (.inr ⟨header, header_read, ?_⟩)
        rcases Outcome.bind_eq_error_iff.mp failed with
          others_failed | ⟨found, others_read, impossible⟩
        · exact Outcome.bind_eq_error_iff.mpr (.inl (ih others_failed))
        · cases impossible

/-- A fault in the line of the command or of a header stays. Behind the headers only the length and
the end of the body can be wrong. -/
theorem readChars_append_of_settled (settled : cause.IsSettled)
    (failed : readChars text = .error cause) (more : List Char) :
    readChars (text ++ more) = .error cause := by
  rw [readChars] at failed ⊢
  rcases Outcome.bind_eq_error_iff.mp failed with line_failed | ⟨⟨line, after⟩, line_read, failed⟩
  · rw [eq_incomplete_of_readLine line_failed] at settled
    exact settled.elim
  · refine Outcome.bind_eq_error_iff.mpr (.inr ⟨_, readLine_append line_read more, ?_⟩)
    simp only at failed ⊢
    split at failed
    · exact failed
    · rcases Outcome.bind_eq_error_iff.mp failed with
        headers_failed | ⟨⟨headers, tail⟩, headers_read, failed⟩
      · apply Outcome.bind_eq_error_iff.mpr
        exact .inl (readHeaders_append_of_settled settled headers_failed more)
      · rcases Outcome.bind_eq_error_iff.mp failed with
          length_failed | ⟨length, length_read, failed⟩
        · exact (not_settled_of_announcedLength? length_failed settled).elim
        · rcases Outcome.bind_eq_error_iff.mp failed with
            body_failed | ⟨body, body_read, impossible⟩
          · exact (not_settled_of_readBody body_failed settled).elim
          · cases impossible

theorem readAllChars_of_error (solid : skipLineEnds text ≠ [])
    (failed : readChars (skipLineEnds text) = .error cause) : readAllChars text = .error cause := by
  rw [readAllChars]
  simp only [List.isEmpty_iff, solid, if_false]
  split
  · rename_i other other_failed
    cases failed.symm.trans other_failed
    rfl
  · rename_i found after found_read
    cases failed.symm.trans found_read

theorem readAllChars_skipLineEnds_append (blank : skipLineEnds text = []) (more : List Char) :
    readAllChars (text ++ more) = readAllChars more := by
  have line_ends : skipLineEnds (text ++ more) = skipLineEnds more := by
    rcases exists_lineEnds_skipLineEnds text with ⟨lead, split, line_ends⟩
    rw [blank, List.append_nil] at split
    rw [split, skipLineEnds_append line_ends]
  conv => lhs; rw [readAllChars]
  conv => rhs; rw [readAllChars]
  rw [line_ends]

theorem skipLineEnds_append_of_solid (solid : skipLineEnds text ≠ []) (more : List Char) :
    skipLineEnds (text ++ more) = skipLineEnds text ++ more := by
  rw [skipLineEnds, List.dropWhile_append, if_neg]
  · rfl
  · simpa [skipLineEnds] using solid

/-- Frames are read on from where others end. -/
theorem readAllChars_append {frames : List Frame} (read : readAllChars text = .ok frames)
    (more : List Char) : readAllChars (text ++ more) = (readAllChars more).map (frames ++ ·) := by
  fun_induction readAllChars text generalizing frames with
  | case1 text blank =>
      cases read
      rw [readAllChars_skipLineEnds_append (List.isEmpty_iff.mp blank)]
      cases readAllChars more <;> rfl
  | case2 text solid cause failed => cases read
  | case3 text solid frame tail frame_read ih =>
      rcases Outcome.map_eq_ok_iff.mp read with ⟨others, others_read, rfl⟩
      have skipped := skipLineEnds_append_of_solid (by simpa using solid) more
      rw [readAllChars_of_ok (skipped ▸ readChars_append frame_read more), ih others_read]
      cases readAllChars more <;> rfl

/-- A fault that is settled stays, whatever comes behind it. -/
theorem readAllChars_append_of_settled (settled : cause.IsSettled)
    (failed : readAllChars text = .error cause) (more : List Char) :
    readAllChars (text ++ more) = .error cause := by
  fun_induction readAllChars text with
  | case1 text blank => cases failed
  | case2 text solid other frame_failed =>
      cases failed
      have front_solid : skipLineEnds text ≠ [] := by simpa using solid
      have skipped := skipLineEnds_append_of_solid front_solid more
      apply readAllChars_of_error
      · simp [skipped, front_solid]
      · rw [skipped]
        exact readChars_append_of_settled settled frame_failed more
  | case3 text solid frame tail frame_read ih =>
      have skipped := skipLineEnds_append_of_solid (by simpa using solid) more
      rw [readAllChars_of_ok (skipped ▸ readChars_append frame_read more),
        ih (Outcome.map_eq_error_iff.mp failed)]
      rfl

/-- A message that holds frames can be cut off any text: the frames of the text are those of the
message and those of the text behind it, and its error is the error of the text behind it. An error
in a line of a command or of a header is the error of every longer text. -/
theorem messages_are_read_in_parts (front back : String) :
    (∀ frames, readAll front = .ok frames →
      readAll (front ++ back) = match readAll back with
        | .ok others => .ok (frames ++ others)
        | .error cause => .error cause) ∧
    (∀ cause, readAll front = .error cause →
      (∃ name, cause = .unknownCommand name) ∨ (∃ line, cause = .malformedHeader line) ∨
        (∃ sequence, cause = .invalidEscape sequence) →
      readAll (front ++ back) = .error cause) := by
  simp only [readAll, String.toList_append]
  constructor
  · intro frames read
    rw [readAllChars_append read]
    cases readAllChars back.toList <;> rfl
  · intro cause failed kind
    refine readAllChars_append_of_settled ?_ failed back.toList
    rcases kind with ⟨name, rfl⟩ | ⟨line, rfl⟩ | ⟨sequence, rfl⟩
    · exact trivial
    · exact trivial
    · exact trivial

end Frame

end LedgerBoard
