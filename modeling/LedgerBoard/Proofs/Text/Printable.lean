import LedgerBoard.Text.Cluster

/-!
# Printable characters

The characters from the blank to the tilde join nothing and take one column each: every one of them
is a cluster of its own.
-/

namespace LedgerBoard.Text

/-- A character from the blank to the tilde. -/
def Printable (c : Char) : Prop :=
  0x20 ≤ c.toNat ∧ c.toNat ≤ 0x7E

instance : DecidablePred Printable :=
  fun c => inferInstanceAs (Decidable (0x20 ≤ c.toNat ∧ c.toNat ≤ 0x7E))

theorem printable_of_all {text : List Char}
    (all : text.all (fun c => decide (Printable c)) = true) :
    ∀ c ∈ text, Printable c := by
  simpa using all

theorem inRanges_of_lt {table : List (Nat × Nat)} {c : Char} {bound : Nat}
    (starts : ∀ range ∈ table, bound ≤ range.1) (below : c.toNat < bound) :
    inRanges table c = false := by
  rw [inRanges, List.any_eq_false]
  rintro ⟨low, high⟩ mem
  have := starts _ mem
  simp only [Bool.and_eq_true, decide_eq_true_eq]
  omega

namespace Printable

variable {c last : Char}

theorem beq_eq_false {other : Char} (printable : Printable c) (above : 0x7E < other.toNat) :
    (c == other) = false := by
  rw [beq_eq_false_iff_ne]
  rintro rfl
  exact absurd printable.2 (by omega)

theorem not_conjoining (printable : Printable c) : inRanges conjoiningRanges c = false := by
  have starts : ∀ range ∈ conjoiningRanges, 0x1160 ≤ range.1 := by decide
  have high := printable.2
  exact inRanges_of_lt starts (by omega)

theorem not_extending (printable : Printable c) : isExtending c = false := by
  have low := printable.2
  simp only [isExtending, Bool.and_eq_false_iff, decide_eq_false_iff_not]
  omega

theorem not_joining (printable : Printable c) : isJoining c = false := by
  have low := printable.2
  have no_modifier : isModifier c = false := by
    simp only [isModifier, Bool.and_eq_false_iff, decide_eq_false_iff_not]
    omega
  have no_spacing : decide (0x900 ≤ c.toNat) = false := by
    rw [decide_eq_false_iff_not]
    omega
  simp [isJoining, joiner, printable.beq_eq_false, printable.not_extending, no_modifier,
    printable.not_conjoining, no_spacing]

theorem not_control (printable : Printable c) : isControlMark c = false := by
  have low := printable.1
  have high := printable.2
  have no_range : ¬c.toNat < 0x20 ∧ ¬0x7F ≤ c.toNat := by omega
  simp [isControlMark, no_range, printable.beq_eq_false]

/-- A printable character begins a new cluster behind another one. -/
theorem not_continues (before : Printable last) (printable : Printable c) :
    continues [last] c = false := by
  have no_return : (last == '\r') = false := by
    rw [beq_eq_false_iff_ne]
    rintro rfl
    exact absurd before.1 (by decide)
  have low := before.2
  have no_prepended : decide (0x600 ≤ last.toNat) = false := by
    rw [decide_eq_false_iff_not]
    omega
  have no_region : isRegional last = false := by
    simp only [isRegional, Bool.and_eq_false_iff, decide_eq_false_iff_not]
    omega
  simp [continues, no_return, before.not_control, printable.not_control, printable.not_joining,
    no_prepended, no_region, joiner, before.beq_eq_false]

theorem clusterWidth_singleton (printable : Printable c) : clusterWidth [c] = 1 := by
  have low := printable.2
  have no_picture : isPictograph c = false := by
    simp only [isPictograph, Bool.and_eq_false_iff, decide_eq_false_iff_not]
    omega
  have no_wide : isWide c = false := by
    simp only [isWide, Bool.and_eq_false_iff, decide_eq_false_iff_not]
    omega
  have visible : isInvisible c = false := by
    have no_ignorable : decide (0xAD ≤ c.toNat) = false := by
      rw [decide_eq_false_iff_not]
      omega
    simp [isInvisible, printable.not_extending, printable.not_conjoining, no_ignorable]
  simp [clusterWidth, no_picture, totalWidth, charWidth, visible, no_wide]

end Printable

/-- Printable characters are added as clusters of their own, behind a printable character or at the
start. -/
theorem foldl_addChar {text : List Char} {found : List (List Char)}
    (printable : ∀ c ∈ text, Printable c)
    (start : ∀ cluster ∈ found.head?, ∃ last, cluster = [last] ∧ Printable last) :
    text.foldl addChar found = (text.map ([·])).reverse ++ found := by
  induction text generalizing found with
  | nil => rfl
  | cons c rest ih =>
      have first := printable c List.mem_cons_self
      have added : addChar found c = [c] :: found := by
        cases found with
        | nil => rfl
        | cons cluster earlier =>
            obtain ⟨last, rfl, before⟩ := start cluster rfl
            simp [addChar, before.not_continues first]
      rw [List.foldl_cons, added, ih (fun d mem => printable d (List.mem_cons_of_mem c mem))]
      · simp
      · rintro _ ⟨⟩
        exact ⟨c, rfl, first⟩

theorem clusters_of_printable {text : List Char} (printable : ∀ c ∈ text, Printable c) :
    clusters text = text.map ([·]) := by
  rw [clusters, foldl_addChar printable (by simp), List.append_nil, List.map_reverse,
    List.reverse_reverse, List.map_map]
  rfl

end LedgerBoard.Text
