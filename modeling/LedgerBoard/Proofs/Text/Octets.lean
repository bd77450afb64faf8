import LedgerBoard.Text.Octets

/-!
# Measuring and cutting texts by octets

The octets of a text are the size of its UTF-8 encoding, and a text is cut after a number of octets
exactly where a front part of that size ends. The cut therefore never splits a character.
-/

namespace LedgerBoard.Text

theorem octets_eq_utf8ByteSize (text : List Char) :
    octets text = (String.ofList text).utf8ByteSize := by
  induction text with
  | nil => rfl
  | cons c rest ih =>
      have joined : String.ofList (c :: rest) = String.singleton c ++ String.ofList rest := by
        rw [String.singleton_eq_ofList, ← String.ofList_append]
        rfl
      rw [joined, String.utf8ByteSize_append, String.utf8ByteSize_singleton, octets, ih]

theorem octets_toList (text : String) : octets text.toList = text.utf8ByteSize := by
  rw [octets_eq_utf8ByteSize, String.ofList_toList]

theorem octets_eq_zero_iff {text : List Char} : octets text = 0 ↔ text = [] := by
  cases text with
  | nil => simp [octets]
  | cons c rest =>
      have positive := c.utf8Size_pos
      simp only [octets, reduceCtorEq, iff_false]
      omega

/-- A text is cut after `count` octets exactly where its front part has that many. -/
theorem splitOctets?_eq_some_iff {count : Nat} {text front back : List Char} :
    splitOctets? count text = some (front, back) ↔
      text = front ++ back ∧ octets front = count := by
  fun_induction splitOctets? count text generalizing front with
  | case1 text =>
      simp only [Option.some.injEq, Prod.mk.injEq]
      constructor
      · rintro ⟨rfl, rfl⟩
        exact ⟨rfl, rfl⟩
      · rintro ⟨rfl, empty⟩
        rw [octets_eq_zero_iff] at empty
        simp [empty]
  | case2 count =>
      simp only [reduceCtorEq, false_iff, not_and]
      intro split
      rcases List.append_eq_nil_iff.mp split.symm with ⟨rfl, -⟩
      simp [octets]
  | case3 count c rest fits ih =>
      simp only [Option.map_eq_some_iff, Prod.exists, Prod.mk.injEq]
      constructor
      · rintro ⟨inner, after, cut, rfl, rfl⟩
        rcases ih.mp cut with ⟨rfl, size⟩
        refine ⟨rfl, ?_⟩
        simp only [octets]
        omega
      · rintro ⟨split, size⟩
        cases front with
        | nil => simp [octets] at size
        | cons first inner =>
            rcases List.cons.inj split with ⟨rfl, rfl⟩
            simp only [octets] at size
            exact ⟨inner, back, ih.mpr ⟨rfl, by omega⟩, rfl, rfl⟩
  | case4 count c rest large =>
      simp only [reduceCtorEq, false_iff, not_and]
      intro split size
      cases front with
      | nil => simp [octets] at size
      | cons first inner =>
          rcases List.cons.inj split with ⟨rfl, -⟩
          simp only [octets] at size
          omega

end LedgerBoard.Text
