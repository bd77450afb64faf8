import Mathlib.Algebra.Group.Nat.Defs
import Mathlib.Tactic.SplitIfs
import LedgerBoard.Text.Octets

/-!
# Decoding what was encoded

The octets of a text are read as the text again, character by character.
-/

namespace LedgerBoard.Text

theorem toList_eq_data_toList (octets : ByteArray) : octets.toList = octets.data.toList := by
  have from_any : ∀ index found, ByteArray.toList.loop octets index found =
      found.reverse ++ octets.data.toList.drop index := by
    intro index found
    fun_induction ByteArray.toList.loop octets index found with
    | case1 index found inside ih =>
        have inside_list : index < octets.data.toList.length := by simpa using inside
        have here : octets.get! index = octets.data.toList[index] := by
          simp only [ByteArray.get!, Array.getElem_toList]
          exact getElem!_pos octets.data index (by simpa using inside)
        rw [ih, List.drop_eq_getElem_cons inside_list, here]
        simp
    | case2 index found outside =>
        have past : octets.data.toList.length ≤ index := by simpa using outside
        simp [List.drop_eq_nil_of_le past]
  rw [ByteArray.toList, from_any]
  rfl

theorem toUTF8_toList (text : String) :
    text.toUTF8.toList = text.toList.flatMap String.utf8EncodeChar := by
  obtain ⟨chars, rfl⟩ : ∃ chars, text = String.ofList chars :=
    ⟨text.toList, String.ofList_toList.symm⟩
  rw [toList_eq_data_toList, String.toUTF8_eq_toByteArray, String.toList_ofList]
  exact List.toList_data_toByteArray

theorem toUTF8_append (front back : String) :
    (front ++ back).toUTF8.toList = front.toUTF8.toList ++ back.toUTF8.toList := by
  rw [toUTF8_toList, toUTF8_toList, toUTF8_toList, String.toList_append, List.flatMap_append]

theorem toUTF8_empty : "".toUTF8.toList = [] := by
  decide +kernel

theorem toUTF8_feed : "\n".toUTF8.toList = [10] := by
  decide +kernel

/-- The octet of a line feed stands for nothing else. -/
theorem feed_mem_utf8EncodeChar {c : Char} : 10 ∈ String.utf8EncodeChar c ↔ c = '\n' := by
  have same : c = '\n' ↔ c.val.toNat = 10 := by
    rw [Char.ext_iff, ← UInt32.toNat_inj]
    rfl
  have bound : c.val.toNat < 0x110000 := by
    have valid : c.val.toNat < 0xD800 ∨ 0xDFFF < c.val.toNat ∧ c.val.toNat < 0x110000 := c.valid
    omega
  have other {octet : Nat} (large : 128 ≤ octet) (small : octet < 256) :
      (10 : UInt8) ≠ UInt8.ofNat octet := by
    rw [ne_eq, ← UInt8.toNat_inj, UInt8.toNat_ofNat', Nat.mod_eq_of_lt small]
    simp
    omega
  rw [same, String.utf8EncodeChar]
  generalize c.val.toNat = code at bound
  split
  · rw [List.mem_singleton, ← UInt8.toNat_inj, UInt8.toNat_ofNat', Nat.mod_eq_of_lt (by omega)]
    exact eq_comm
  · refine iff_of_false ?_ (by omega)
    split
    · simp only [List.mem_cons, List.not_mem_nil, or_false, not_or]
      exact ⟨other (by omega) (by omega), other (by omega) (by omega)⟩
    · split
      · simp only [List.mem_cons, List.not_mem_nil, or_false, not_or]
        exact ⟨other (by omega) (by omega), other (by omega) (by omega),
          other (by omega) (by omega)⟩
      · simp only [List.mem_cons, List.not_mem_nil, or_false, not_or]
        exact ⟨other (by omega) (by omega), other (by omega) (by omega),
          other (by omega) (by omega),
          other (by omega) (by omega)⟩
theorem feed_mem_toUTF8 {text : String} : 10 ∈ text.toUTF8.toList ↔ '\n' ∈ text.toList := by
  simp only [toUTF8_toList, List.mem_flatMap, feed_mem_utf8EncodeChar, exists_eq_right]

theorem takeTails_append (tails rest : List UInt8)
    (all_tails : ∀ octet ∈ tails, isTail octet = true) :
    takeTails tails.length (tails ++ rest) = tails := by
  induction tails with
  | nil => cases rest <;> rfl
  | cons octet tails ih =>
      rw [List.length_cons, List.cons_append, takeTails,
        if_pos (all_tails octet List.mem_cons_self),
        ih fun octet mem => all_tails octet (List.mem_cons_of_mem _ mem)]

/-- Which octets may lead others, by their numbers. -/
theorem successors_ofNat {lead : Nat} (small : lead < 256) :
    successors (UInt8.ofNat lead) =
      if 0xC2 ≤ lead ∧ lead ≤ 0xDF then some (1, UInt8.ofNat 0x80, UInt8.ofNat 0xBF)
      else if lead = 0xE0 then some (2, UInt8.ofNat 0xA0, UInt8.ofNat 0xBF)
      else if lead = 0xED then some (2, UInt8.ofNat 0x80, UInt8.ofNat 0x9F)
      else if 0xE1 ≤ lead ∧ lead ≤ 0xEF then some (2, UInt8.ofNat 0x80, UInt8.ofNat 0xBF)
      else if lead = 0xF0 then some (3, UInt8.ofNat 0x90, UInt8.ofNat 0xBF)
      else if 0xF1 ≤ lead ∧ lead ≤ 0xF3 then some (3, UInt8.ofNat 0x80, UInt8.ofNat 0xBF)
      else if lead = 0xF4 then some (3, UInt8.ofNat 0x80, UInt8.ofNat 0x8F)
      else none := by
  simp [successors, UInt8.le_iff_toNat_le, ← UInt8.toNat_inj, Nat.mod_eq_of_lt small]

/-- The octet that continues a character with the last six bits of a number. -/
def tailOctet (code : Nat) : UInt8 :=
  UInt8.ofNat (code % 64 + 128)

theorem toNat_tailOctet (code : Nat) : (tailOctet code).toNat = code % 64 + 128 := by
  rw [tailOctet, UInt8.toNat_ofNat']
  omega

theorem isTail_tailOctet (code : Nat) : isTail (tailOctet code) = true := by
  simp only [isTail, Bool.and_eq_true, decide_eq_true_eq, UInt8.le_iff_toNat_le, toNat_tailOctet]
  simp
  omega

theorem assemble_tailOctets (lead : Nat) (codes : List Nat) :
    assemble lead (codes.map tailOctet) =
      Char.ofNat (codes.foldl (fun code tail => code * 64 + tail % 64) lead) := by
  simp [assemble, List.foldl_map, toNat_tailOctet]

/-- A leading octet and its successors are read together. -/
theorem decodeNext_tailOctets {lead low high code : Nat} (codes : List Nat) (long : 0x80 ≤ lead)
    (small : lead < 256)
    (listed : successors (UInt8.ofNat lead) =
      some (codes.length + 1, UInt8.ofNat low, UInt8.ofNat high))
    (least : low ≤ code % 64 + 128) (most : code % 64 + 128 ≤ high) (bounded : high < 256)
    (rest : List UInt8) :
    decodeNext (UInt8.ofNat lead) ((code :: codes).map tailOctet ++ rest) =
      (some (Char.ofNat ((code :: codes).foldl (fun code tail => code * 64 + tail % 64)
        (lead % 2 ^ (5 - codes.length)))), rest) := by
  have taken := takeTails_append (codes.map tailOctet) rest (by
    simp [isTail_tailOctet])
  have payload : 6 - (codes.length + 1) = 5 - codes.length := by omega
  have not_short : ¬UInt8.ofNat lead < 0x80 := by
    simp [UInt8.lt_iff_toNat_lt, Nat.mod_eq_of_lt small, long]
  have size : UInt8.size = 256 := rfl
  have at_least : UInt8.ofNat low ≤ tailOctet code := by
    rw [tailOctet, UInt8.ofNat_le_iff_le] <;> omega
  have at_most : tailOctet code ≤ UInt8.ofNat high := by
    rw [tailOctet, UInt8.ofNat_le_iff_le] <;> omega
  have assembled := assemble_tailOctets (lead % 2 ^ (5 - codes.length)) (code :: codes)
  rw [List.length_map] at taken
  rw [List.map_cons] at assembled
  simp [decodeNext, not_short, listed, at_least, at_most, taken, payload, assembled,
    Nat.mod_eq_of_lt small]

theorem successors_of_three (code : Nat) (large : 0x800 ≤ code) (small : code ≤ 0xFFFF)
    (valid : code < 0xD800 ∨ 0xDFFF < code) :
    ∃ low high, successors (UInt8.ofNat (code / 4096 % 16 + 224)) =
      some (2, UInt8.ofNat low, UInt8.ofNat high) ∧
      low ≤ code / 64 % 64 + 128 ∧ code / 64 % 64 + 128 ≤ high ∧ high < 256 := by
  rw [successors_ofNat (by omega), if_neg (by omega)]
  split_ifs
  · exact ⟨_, _, rfl, by omega, by omega, by decide⟩
  · exact ⟨_, _, rfl, by omega, by omega, by decide⟩
  · exact ⟨_, _, rfl, by omega, by omega, by decide⟩
  all_goals omega

theorem successors_of_four (code : Nat) (large : 0xFFFF < code) (small : code < 0x110000) :
    ∃ low high, successors (UInt8.ofNat (code / 262144 % 8 + 240)) =
        some (3, UInt8.ofNat low, UInt8.ofNat high) ∧
      low ≤ code / 4096 % 64 + 128 ∧ code / 4096 % 64 + 128 ≤ high ∧ high < 256 := by
  rw [successors_ofNat (by omega), if_neg (by omega), if_neg (by omega), if_neg (by omega),
    if_neg (by omega)]
  split_ifs
  · exact ⟨_, _, rfl, by omega, by omega, by decide⟩
  · exact ⟨_, _, rfl, by omega, by omega, by decide⟩
  · exact ⟨_, _, rfl, by omega, by omega, by decide⟩
  all_goals omega

/-- The octets of a character are read as the character. -/
theorem decodeNext_utf8EncodeChar (c : Char) (rest : List UInt8) :
    ∃ lead tails, String.utf8EncodeChar c = lead :: tails ∧
    decodeNext lead (tails ++ rest) = (some c, rest) := by
  have back : Char.ofNat c.val.toNat = c := Char.ofNat_toNat c
  have valid : c.val.toNat < 0xD800 ∨ 0xDFFF < c.val.toNat ∧ c.val.toNat < 0x110000 := c.valid
  rw [String.utf8EncodeChar]
  generalize c.val.toNat = code at valid back
  subst back
  split
  · rename_i small
    refine ⟨_, [], rfl, ?_⟩
    have number : (UInt8.ofNat code).toNat = code := by
      rw [UInt8.toNat_ofNat']
      omega
    have short : UInt8.ofNat code < 0x80 := by
      rw [UInt8.lt_iff_toNat_lt, number]
      exact Nat.lt_succ_of_le small
    simp only [decodeNext, short, if_true, number, List.nil_append]
  · rename_i large
    split
    · rename_i small
      refine ⟨_, [tailOctet code], rfl, ?_⟩
      have listed : successors (UInt8.ofNat (code / 64 % 32 + 192)) =
          some (1, UInt8.ofNat 0x80, UInt8.ofNat 0xBF) := by
        rw [successors_ofNat (by omega), if_pos (by omega)]
      refine (decodeNext_tailOctets [] (by omega) (by omega) listed (by omega) (by omega)
        (by decide) rest).trans ?_
      congr 3
      simp
      omega
    · rename_i larger
      split
      · rename_i small
        refine ⟨_, [tailOctet (code / 64), tailOctet code], rfl, ?_⟩
        obtain ⟨low, high, listed, least, most, bounded⟩ :=
          successors_of_three code (by omega) small (by omega)
        refine (decodeNext_tailOctets [code] (by omega) (by omega) listed least most bounded
          rest).trans ?_
        congr 3
        simp
        omega
      · rename_i largest
        refine ⟨_, [tailOctet (code / 4096), tailOctet (code / 64), tailOctet code], rfl, ?_⟩
        obtain ⟨low, high, listed, least, most, bounded⟩ :=
          successors_of_four code (by omega) (by omega)
        refine (decodeNext_tailOctets [code / 64, code] (by omega) (by omega) listed least most
          bounded rest).trans ?_
        congr 3
        simp
        omega

theorem decode?_flatMap (text : List Char) :
    decode? (text.flatMap String.utf8EncodeChar) = some text := by
  induction text with
  | nil => rw [List.flatMap_nil, decode?]
  | cons c text ih =>
      obtain ⟨lead, tails, encoded, read⟩ :=
        decodeNext_utf8EncodeChar c (text.flatMap String.utf8EncodeChar)
      rw [List.flatMap_cons, encoded, List.cons_append, decode?]
      simp only [read, ih]
      rfl

/-- The octets of a text are decoded as the text. -/
theorem decode?_toUTF8 (text : String) : decode? text.toUTF8.toList = some text.toList := by
  rw [toUTF8_toList, decode?_flatMap]

end LedgerBoard.Text
