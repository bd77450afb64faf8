import LedgerBoard.Proofs.Json.Text
import LedgerBoard.Proofs.Toml.Space

/-!
# Texts and keys read back

Every spelling of a text or a key is read as what it spells, and reading stops right behind it.
-/

namespace LedgerBoard.Toml

open Json (IsHex)

variable {quote : Quote} {c : Char} {text written rest mark : List Char}

theorem hexDigitsValue?_of_hex {digits : List Char} {values : List Nat}
    (hex : List.Forall₂ IsHex digits values) :
    hexDigitsValue? digits = some (valueOf 16 values) := by
  have from_any : ∀ total : Nat,
      digits.foldlM (fun value c => (Number.hexValue? c).map (value * 16 + ·)) total =
        some (values.foldl (fun total value => total * 16 + value) total) := by
    induction hex with
    | nil => exact fun total => rfl
    | cons first others ih =>
        intro total
        simp [Json.hexValue?_eq_some_iff.mpr first, ih]
  exact from_any 0

theorem readCodePoint_of_hex {digits : List Char} {values : List Nat} {count : Nat}
    (length : digits.length = count) (hex : List.Forall₂ IsHex digits values)
    (value : valueOf 16 values = c.toNat) (rest : List Char) :
    readCodePoint count (digits ++ rest) = .ok (c, rest) := by
  have valid : c.toNat.isValidChar := c.valid
  subst count
  rw [readCodePoint, List.take_left, hexDigitsValue?_of_hex hex, value]
  simp [valid]

/-- No escape starts with a blank or a line end. -/
theorem EscapeOf.read (escape : EscapeOf c mark) (rest : List Char) :
    readEscape (mark ++ rest) = .ok (c, rest) ∧
      ∀ first ∈ (mark ++ rest).head?, first ∉ [' ', '\t', '\n', '\r'] := by
  cases escape with
  | short listed =>
      simp only [shortEscapes, List.mem_cons, Prod.mk.injEq, List.not_mem_nil, or_false] at listed
      rcases listed with ⟨rfl, rfl⟩ | ⟨rfl, rfl⟩ | ⟨rfl, rfl⟩ | ⟨rfl, rfl⟩ | ⟨rfl, rfl⟩
        | ⟨rfl, rfl⟩ |
        ⟨rfl, rfl⟩ <;> exact ⟨rfl, by simp⟩
  | code listed length hex value =>
      have read := readCodePoint_of_hex length hex value rest
      simp only [List.mem_cons, Prod.mk.injEq, List.not_mem_nil, or_false] at listed
      rcases listed with ⟨rfl, rfl⟩ | ⟨rfl, rfl⟩ <;> exact ⟨read, by simp⟩

theorem Quote.mark_ne_backslash (quote : Quote) : quote.mark ≠ '\\' := by
  cases quote <;> decide

theorem Quote.plain_mark (quote : Quote) : Plain quote.mark := by
  cases quote <;> exact .inr (by decide)

theorem readShort_mark (quote : Quote) (rest : List Char) :
    readShort quote (quote.mark :: rest) = .ok ([], rest) := by
  rw [readShort]
  simp

theorem readShort_plain (itself : StandsForItself quote c) (rest : List Char) :
    readShort quote (c :: rest) = withChar c (readShort quote rest) := by
  rcases itself with ⟨plain, not_mark, not_escape⟩
  have no_escape : ¬(c = '\\' ∧ quote = .basic) := fun escapes => not_escape escapes.2 escapes.1
  rw [readShort]
  simp only [not_mark, no_escape, isPlain_iff.mpr plain, if_false, if_true]

theorem readShort_escape (escape : EscapeOf c mark) (rest : List Char) :
    readShort .basic ('\\' :: (mark ++ rest)) = withChar c (readShort .basic rest) := by
  have not_mark : ('\\' : Char) ≠ Quote.basic.mark := by decide
  rw [readShort]
  simp only [not_mark, and_self, if_false, if_true]
  split
  · rename_i place failed
    cases (escape.read rest).1.symm.trans failed
  · rename_i found after read
    cases (escape.read rest).1.symm.trans read
    rfl

theorem ShortSpelling.of_plain (plain : ∀ c ∈ text, StandsForItself quote c) :
    ShortSpelling quote text text := by
  induction text with
  | nil => exact .done
  | cons c text ih =>
      obtain ⟨itself, others⟩ := List.forall_mem_cons.mp plain
      exact .plain itself (ih others)

/-- A text of one line is read up to its closing quote. -/
theorem ShortSpelling.read (spelling : ShortSpelling quote text written) (rest : List Char) :
    readShort quote (written ++ quote.mark :: rest) = .ok (text, rest) := by
  induction spelling with
  | done => exact readShort_mark quote rest
  | plain itself others ih =>
      rw [List.cons_append, readShort_plain itself, ih]
      rfl
  | escaped basic escape others ih =>
      subst basic
      rw [List.cons_append, List.append_assoc, readShort_escape escape, ih]
      rfl

theorem ShortSpelling.head_ne_mark (spelling : ShortSpelling quote text written) :
    ∀ c ∈ written.head?, c ≠ quote.mark := by
  cases spelling with
  | done => nofun
  | plain itself others =>
      rintro _ ⟨rfl⟩
      exact itself.2.1
  | escaped basic escape others =>
      rintro _ ⟨rfl⟩
      exact quote.mark_ne_backslash.symm

theorem afterMarks?_eq_some_iff {mark : Char} {count : Nat} :
    afterMarks? mark count text = some rest ↔ text = List.replicate count mark ++ rest := by
  induction count generalizing text with
  | zero => simp [afterMarks?]
  | succ count ih =>
      cases text with
      | nil => simp [afterMarks?, List.replicate_succ]
      | cons first others =>
          by_cases same : first = mark
          · simp [afterMarks?, same, ih, List.replicate_succ]
          · simp [afterMarks?, same, List.replicate_succ]

theorem afterMarks?_eq_none {mark : Char} {count : Nat}
    (few : ¬List.replicate count mark <+: text) :
    afterMarks? mark count text = none := by
  rw [Option.eq_none_iff_forall_not_mem]
  intro rest found
  exact few ⟨rest, (afterMarks?_eq_some_iff.mp found).symm⟩

theorem closing?_eq_none {mark : Char} (few : ¬[mark, mark, mark] <+: text) :
    closing? mark text = none := by
  have none_of : ∀ count, afterMarks? mark (count + 3) text = none := by
    intro count
    apply afterMarks?_eq_none
    intro many
    rw [Nat.add_comm, List.replicate_add] at many
    exact few ((List.prefix_append _ _).trans many)
  simp [closing?, none_of 2, none_of 1, none_of 0]

/-- Two marks at most belong to the text when it is closed. -/
theorem closing?_marks {mark : Char} {count : Nat} (few : count ≤ 2)
    (ends : ∀ c ∈ rest.head?, c ≠ mark) :
    closing? mark (List.replicate count mark ++ (List.replicate 3 mark ++ rest)) =
      some (List.replicate count mark, rest) := by
  have too_few : ∀ more, ¬List.replicate (more + 1) mark <+: rest := by
    rintro more ⟨tail, rfl⟩
    exact ends mark rfl rfl
  have found : ∀ total, afterMarks? mark total (List.replicate total mark ++ rest) = some rest := by
    intro total
    exact afterMarks?_eq_some_iff.mpr rfl
  have not_found : ∀ total more,
      afterMarks? mark (total + (more + 1)) (List.replicate total mark ++ rest) = none := by
    intro total more
    apply afterMarks?_eq_none
    rw [List.replicate_add, List.prefix_append_right_inj]
    exact too_few more
  rw [← List.append_assoc, List.replicate_append_replicate, closing?]
  match count, few with
  | 0, _ =>
      rw [Nat.zero_add, not_found 3 1, not_found 3 0, found 3]
      rfl
  | 1, _ =>
      rw [not_found 4 0, found 4]
      rfl
  | 2, _ =>
      rw [found 5]
      rfl

theorem readLong_closing {found : List Char × List Char}
    (closed : closing? quote.mark text = some found) :
    readLong quote text = .ok found := by
  rw [readLong, closed]

section Steps

variable (open_text : closing? quote.mark text = none)

include open_text in
theorem readLong_lineEnd (ended : lineEnd? text = some rest) :
    readLong quote text = withChar '\n' (readLong quote rest) := by
  rw [readLong, open_text]
  simp only
  split
  · rename_i after found
    cases ended.symm.trans found
    rfl
  · rename_i not_ended
    cases ended.symm.trans not_ended

theorem readLong_char (open_text : closing? quote.mark (c :: rest) = none) (plain : Plain c)
    (no_escape : quote = .basic → c ≠ '\\') :
    readLong quote (c :: rest) = withChar c (readLong quote rest) := by
  have inner : lineEnd? (c :: rest) = none := by
    apply lineEnd?_eq_none
    rintro _ ⟨rfl⟩ listed
    simp only [List.mem_cons, List.not_mem_nil, or_false] at listed
    rcases listed with rfl | rfl <;> revert plain <;> simp [Plain]
  have not_escaped : ¬(c = '\\' ∧ quote = .basic) := fun escapes => no_escape escapes.2 escapes.1
  rw [readLong, open_text]
  simp only [not_escaped, isPlain_iff.mpr plain, if_false, if_true]
  split
  · rename_i after found
    cases inner.symm.trans found
  · rfl

end Steps

theorem closing?_backslash (rest : List Char) : closing? Quote.basic.mark ('\\' :: rest) = none :=
  closing?_eq_none (by simp [Quote.mark])

theorem readLong_escape (escape : EscapeOf c mark) (rest : List Char) :
    readLong .basic ('\\' :: (mark ++ rest)) = withChar c (readLong .basic rest) := by
  rcases escape.read rest with ⟨read, solid⟩
  have not_folded : afterEscapedLine? (mark ++ rest) = none := by
    have no_blank : skipGaps (mark ++ rest) = mark ++ rest := by
      apply skipGaps_of_solid
      intro first mem is_blank
      have listed := solid first mem
      rcases is_blank with rfl | rfl <;> simp at listed
    rw [afterEscapedLine?, no_blank, lineEnd?_eq_none]
    · rfl
    · intro first mem listed
      apply solid first mem
      simp only [List.mem_cons] at listed ⊢
      tauto
  rw [readLong, closing?_backslash]
  simp only [and_self, if_true]
  split
  · rename_i after found
    cases found
  · split
    · rename_i after found
      cases not_folded.symm.trans found
    · split
      · rename_i place failed
        cases read.symm.trans failed
      · rename_i found after found_read
        cases read.symm.trans found_read
        rfl

theorem readLong_joined {after : List Char} (joined : afterEscapedLine? text = some after) :
    readLong .basic ('\\' :: text) = readLong .basic after := by
  rw [readLong, closing?_backslash]
  simp only [and_self, if_true]
  split
  · rename_i found ended
    cases ended
  · split
    · rename_i found found_joined
      cases joined.symm.trans found_joined
      rfl
    · rename_i not_joined
      cases joined.symm.trans not_joined

/-- A run of marks stands for itself. -/
theorem LongSpelling.eq_of_marks {count : Nat} (same : written = List.replicate count quote.mark)
    (spelling : LongSpelling quote text written) : text = written := by
  induction count generalizing text written with
  | zero =>
      cases spelling with
      | done => rfl
      | lineEnd line_end others => rcases line_end with rfl | rfl <;> simp at same
      | _ => simp at same
  | succ count ih =>
      rw [List.replicate_succ] at same
      cases spelling with
      | done => rfl
      | plain itself others => exact absurd (List.cons.inj same).1 itself.2.1
      | mark few others => rw [ih (List.cons.inj same).2 others]
      | escaped basic escape others =>
          exact absurd (List.cons.inj same).1.symm quote.mark_ne_backslash
      | joined basic => exact absurd (List.cons.inj same).1.symm quote.mark_ne_backslash
      | lineEnd line_end others =>
          rcases line_end with rfl | rfl <;> cases quote <;> simp [Quote.mark] at same

/-- Two marks in a row at the front of a text and its closing marks either belong to the text or
reach its end. -/
theorem marks_of_prefix {mark : Char} {marks : List Char} (few : ¬[mark, mark] <+: written)
    (closes : [mark, mark] <+: written ++ marks) :
    ∃ count ≤ 1, written = List.replicate count mark := by
  match written with
  | [] => exact ⟨0, Nat.zero_le 1, rfl⟩
  | [first] =>
      rcases closes with ⟨tail, same⟩
      refine ⟨1, Nat.le_refl 1, ?_⟩
      rw [(List.cons.inj same).1]
      rfl
  | first :: second :: others =>
      rcases closes with ⟨tail, same⟩
      obtain ⟨rfl, rfl, -⟩ : mark = first ∧ mark = second ∧ _ := by simpa using same
      exact absurd ⟨others, rfl⟩ few

/-- A text of several lines is read up to its closing quotes, the last three marks of a run. -/
theorem LongSpelling.read (spelling : LongSpelling quote text written)
    (ends : ∀ c ∈ rest.head?, c ≠ quote.mark) :
    readLong quote (written ++ (List.replicate 3 quote.mark ++ rest)) = .ok (text, rest) := by
  induction spelling with
  | done => exact readLong_closing (closing?_marks (Nat.zero_le 2) ends)
  | @plain c text written itself others ih =>
      rw [List.cons_append, readLong_char _ itself.1 itself.2.2, ih]
      · rfl
      · apply closing?_eq_none
        simp [itself.2.1.symm]
  | @mark text written few others ih =>
      by_cases closes :
        [quote.mark, quote.mark] <+: written ++ (List.replicate 3 quote.mark ++ rest)
      · rcases marks_of_prefix few closes with ⟨count, small, rfl⟩
        rw [others.eq_of_marks rfl, ← List.replicate_succ]
        exact readLong_closing (closing?_marks (Nat.succ_le_succ small) ends)
      · rw [List.cons_append, readLong_char _ quote.plain_mark fun _ => quote.mark_ne_backslash, ih]
        · rfl
        · apply closing?_eq_none
          simpa using closes
  | @lineEnd text ends written line_end others ih =>
      rw [List.append_assoc, readLong_lineEnd _ (line_end.lineEnd?_append _), ih]
      · rfl
      · apply closing?_eq_none
        rcases line_end with rfl | rfl <;> cases quote <;> simp [Quote.mark]
  | escaped basic escape others ih =>
      subst basic
      rw [List.cons_append, List.append_assoc, readLong_escape escape, ih]
      rfl
  | @joined text gap ends_text blank written basic is_gap line_end is_blank no_comment solid
      others ih =>
      subst basic
      have joined : afterEscapedLine? (gap ++ (ends_text ++ (blank ++ (written ++
          (List.replicate 3 Quote.basic.mark ++ rest))))) =
          some (written ++ (List.replicate 3 Quote.basic.mark ++ rest)) := by
        have no_blank : skipGaps (ends_text ++ (blank ++ (written ++
            (List.replicate 3 Quote.basic.mark ++ rest)))) = ends_text ++ (blank ++ (written ++
            (List.replicate 3 Quote.basic.mark ++ rest))) := by
          rcases line_end with rfl | rfl <;> rfl
        rw [afterEscapedLine?, is_gap.skipGaps_append, no_blank, line_end.lineEnd?_append,
          Option.map_some, is_blank.skipLines no_comment]
        cases written with
        | nil => simp [Quote.mark]
        | cons first others => exact solid
      simp only [List.cons_append, List.append_assoc]
      rw [readLong_joined joined, ih]

/-- Every spelling of a text is read, unless one of its marks stands right behind it. -/
theorem TextSpelling.read (spelling : TextSpelling text written)
    (ends : ∀ c ∈ rest.head?, c ∉ ['"', '\'']) :
    ∃ quote : Quote, (written ++ rest).head? = some quote.mark ∧
      readText quote (written ++ rest) = .ok (String.ofList text, rest) := by
  have no_mark : ∀ quote : Quote, ∀ c ∈ rest.head?, c ≠ quote.mark := by
    rintro quote c mem rfl
    apply ends _ mem
    cases quote <;> simp [Quote.mark]
  cases spelling with
  | short quote spelling =>
      rename_i written
      have not_long :
          afterMarks? quote.mark 3 (quote.mark :: (written ++ quote.mark :: rest)) = none := by
        apply afterMarks?_eq_none
        cases written with
        | nil =>
            cases rest with
            | nil => simp [List.replicate_succ]
            | cons first others => simpa [List.replicate_succ] using (no_mark quote first rfl).symm
        | cons first others => simp [List.replicate_succ, (spelling.head_ne_mark first rfl).symm]
      refine ⟨quote, rfl, ?_⟩
      have short := spelling.read rest
      simp only [List.cons_append, List.append_assoc, List.nil_append, readText, not_long,
        List.drop_one, List.tail_cons, short]
      rfl
  | long quote first_line spelling =>
      rename_i first written
      refine ⟨quote, rfl, ?_⟩
      have skipped : (lineEnd? (first ++ (written ++ (List.replicate 3 quote.mark ++ rest)))).getD
          (first ++ (written ++ (List.replicate 3 quote.mark ++ rest))) =
          written ++ (List.replicate 3 quote.mark ++ rest) := by
        rcases first_line with line_end | ⟨rfl, no_end⟩
        · rw [line_end.lineEnd?_append]
          rfl
        · rw [List.nil_append, lineEnd?_eq_none]
          · rfl
          · cases written with
            | nil => cases quote <;> simp [Quote.mark]
            | cons c others => exact no_end
      simp only [List.append_assoc, readText]
      rw [afterMarks?_eq_some_iff.mpr rfl]
      simp only [skipped, spelling.read (no_mark quote)]
      rfl

theorem isBare_iff : isBare c = true ↔ Bare c := by
  simp only [isBare, Bare, Char.isAlphanum, Bool.or_eq_true, beq_iff_eq]
  tauto

/-- Bare characters in front are read up to the first other one. -/
theorem span_bare {name : List Char} (all_bare : ∀ c ∈ name, Bare c)
    (ends : ∀ c ∈ rest.head?, ¬Bare c) :
    (name ++ rest).takeWhile isBare = name ∧ (name ++ rest).dropWhile isBare = rest := by
  rw [List.takeWhile_append_of_pos fun c mem => isBare_iff.mpr (all_bare c mem),
    List.dropWhile_append_of_pos fun c mem => isBare_iff.mpr (all_bare c mem)]
  cases rest with
  | nil => simp
  | cons first others => simp [mt isBare_iff.mp (ends first rfl)]

theorem readKeyPart_bare {name : List Char} (some_name : name ≠ []) (all_bare : ∀ c ∈ name, Bare c)
    (ends : ∀ c ∈ rest.head?, ¬Bare c) :
    readKeyPart (name ++ rest) = .ok (⟨String.ofList name, name ++ rest⟩, rest) := by
  have no_quote : ∀ mark tail, ¬Bare mark → name ++ rest ≠ mark :: tail := by
    rintro mark tail not_bare same
    cases name with
    | nil => contradiction
    | cons first others =>
        rw [(List.cons.inj same).1] at all_bare
        exact not_bare (all_bare mark List.mem_cons_self)
  rcases span_bare all_bare ends with ⟨taken, dropped⟩
  rw [readKeyPart.eq_def]
  split
  · rename_i found starts
    exact absurd starts (no_quote _ _ (by simp [← isBare_iff, isBare]))
  · rename_i found starts
    exact absurd starts (no_quote _ _ (by simp [← isBare_iff, isBare]))
  · simp [taken, dropped, some_name]

theorem KeyPart.read {name : String} {part : List Char} (key_part : KeyPart name part)
    (ends : ∀ c ∈ rest.head?, ¬Bare c) :
    readKeyPart (part ++ rest) = .ok (⟨name, part ++ rest⟩, rest) := by
  cases key_part with
  | quoted quote spelling =>
      have short := spelling.read rest
      cases quote <;>
        simp only [Quote.mark, List.cons_append, List.append_assoc, List.nil_append] at short ⊢ <;>
        simp only [readKeyPart, short, Except.map, String.ofList_toList]
  | bare some_name all_bare =>
      have read := readKeyPart_bare (by simpa using some_name) all_bare ends
      rwa [String.ofList_toList] at read

/-- A part of a key starts with a quote or a bare character. -/
theorem KeyPart.head {name : String} {part : List Char} (key_part : KeyPart name part)
    (rest : List Char) :
    ∃ first tail, part ++ rest = first :: tail ∧ (first = '"' ∨ first = '\'' ∨ Bare first) := by
  cases key_part with
  | quoted quote spelling => cases quote <;> exact ⟨_, _, rfl, by simp [Quote.mark]⟩
  | bare some_name all_bare =>
      obtain ⟨first, others, same⟩ :=
        List.exists_cons_of_ne_nil (mt String.toList_eq_nil_iff.mp some_name)
      refine ⟨first, others ++ rest, by rw [same]; rfl, .inr (.inr ?_)⟩
      exact all_bare first (same ▸ List.mem_cons_self)

theorem KeyPart.skipGaps {name : String} {part : List Char} (key_part : KeyPart name part)
    (rest : List Char) :
    Toml.skipGaps (part ++ rest) = part ++ rest := by
  rcases key_part.head rest with ⟨first, tail, same, starts⟩
  rw [same]
  apply skipGaps_of_solid
  rintro _ ⟨rfl⟩
  rcases starts with rfl | rfl | bare
  · decide
  · decide
  · rintro (rfl | rfl) <;> revert bare <;> simp [← isBare_iff, isBare]

/-- One part of a key is read with the blanks around it, up to the mark behind it. -/
theorem KeyPart.read_between {name : String} {before part after : List Char}
    (gap_before : Gap before) (key_part : KeyPart name part) (gap_after : Gap after)
    (tail : List Char) (mark : c ∈ ['.', '=', ']']) :
    readKeyPart (Toml.skipGaps (before ++ (part ++ (after ++ c :: tail)))) =
        .ok (⟨name, part ++ (after ++ c :: tail)⟩, after ++ c :: tail) ∧
      Toml.skipGaps (after ++ c :: tail) = c :: tail := by
  have mark_solid : ¬isBare c ∧ ¬isGap c := by
    simp only [List.mem_cons, List.not_mem_nil, or_false] at mark
    rcases mark with rfl | rfl | rfl <;> decide
  constructor
  · rw [gap_before.skipGaps_append, key_part.skipGaps, key_part.read]
    intro first mem
    cases after with
    | nil =>
        cases mem
        exact mt isBare_iff.mpr mark_solid.1
    | cons blank others =>
        cases mem
        rcases gap_after.of_cons.1 with rfl | rfl <;> simp [← isBare_iff, isBare]
  · rw [gap_after.skipGaps_append]
    apply skipGaps_of_solid
    rintro _ ⟨rfl⟩
    exact mt isGap_iff.mpr mark_solid.2

/-- A key is read up to the mark behind it. -/
theorem KeyText.read {path : List String} {key tail : List Char} (key_text : KeyText path key)
    {limit : Nat} (short : path.length ≤ limit) (mark : c ∈ ['=', ']']) :
    ∃ keys, readKeyParts limit (key ++ c :: tail) = .ok (keys, c :: tail) ∧
    keys.map Key.name = path := by
  induction key_text generalizing limit with
  | @last name before part after gap_before key_part gap_after =>
      cases limit with
      | zero => simp at short
      | succ limit =>
          rcases key_part.read_between gap_before gap_after tail (List.mem_cons_of_mem _ mark) with
            ⟨read, skipped⟩
          refine ⟨[⟨name, part ++ (after ++ c :: tail)⟩], ?_, rfl⟩
          simp only [List.append_assoc, readKeyParts, read, skipped]
          split
          · rename_i found same
            rw [(List.cons.inj same).1] at mark
            simp at mark
          · rfl
  | @more name path before part after others gap_before key_part gap_after others_text ih =>
      cases limit with
      | zero => simp at short
      | succ limit =>
          rcases ih (Nat.le_of_succ_le_succ short) with ⟨keys, others_read, same⟩
          rcases key_part.read_between gap_before gap_after (others ++ c :: tail)
            List.mem_cons_self with ⟨read, skipped⟩
          refine ⟨⟨name, part ++ (after ++ '.' :: (others ++ c :: tail))⟩ :: keys, ?_,
            by simp [same]⟩
          simp only [List.append_assoc, List.cons_append, readKeyParts, read, skipped, others_read]
          rfl

theorem KeyText.readKey {path : List String} {key : List Char} (key_text : KeyText path key)
    (tail : List Char) (short : path.length < nestingLimit) (mark : c ∈ ['=', ']']) :
    ∃ keys, Toml.readKey (key ++ c :: tail) = .ok (keys, c :: tail) ∧ keys.map Key.name = path :=
  key_text.read (Nat.le_pred_of_lt short) mark

/-- Behind blanks, a key starts with a quote or a bare character. -/
theorem KeyText.head {path : List String} {key : List Char} (key_text : KeyText path key)
    (rest : List Char) :
    ∃ first tail, Toml.skipGaps (key ++ rest) = first :: tail ∧
    (first = '"' ∨ first = '\'' ∨ Bare first) := by
  cases key_text with
  | last gap_before key_part =>
      rw [List.append_assoc, gap_before.skipGaps_append, List.append_assoc, key_part.skipGaps]
      exact key_part.head _
  | more gap_before key_part =>
      rw [List.append_assoc, gap_before.skipGaps_append, List.append_assoc, key_part.skipGaps]
      exact key_part.head _

theorem KeyText.ne_cons {path : List String} {key : List Char} {mark : Char}
    (key_text : KeyText path key) (other : mark ∈ ['[', '\x7d', '\n', '\r', '#', '\uFEFF'])
    (rest tail : List Char) :
    Toml.skipGaps (key ++ rest) ≠ mark :: tail := by
  obtain ⟨first, others, same, starts⟩ := key_text.head rest
  rw [same]
  rintro ⟨rfl⟩
  simp only [List.mem_cons, List.not_mem_nil, or_false] at other
  rcases other with rfl | rfl | rfl | rfl | rfl | rfl <;> simp [← isBare_iff, isBare] at starts

end LedgerBoard.Toml
