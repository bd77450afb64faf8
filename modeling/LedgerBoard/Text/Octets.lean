/-!
# Octets of a text

Lengths on the wire and positions in error reports count octets of the UTF-8 encoding. This file
measures and cuts texts by octets, and reads octets as text: `decode?` refuses malformed input,
`decodeLossy` puts a replacement character for each maximal part that cannot be continued.
-/

namespace LedgerBoard.Text

/-- The length of a text in octets of its UTF-8 encoding. -/
def octets : List Char → Nat
  | [] => 0
  | c :: rest => c.utf8Size + octets rest

@[simp]
theorem octets_append (front back : List Char) :
    octets (front ++ back) = octets front + octets back := by
  induction front with
  | nil => simp [octets]
  | cons c rest ih => simp [octets, ih, Nat.add_assoc]

/-- The first `count` octets of a text and what follows them, unless that would split a character
or run past the end. -/
def splitOctets? : Nat → List Char → Option (List Char × List Char)
  | 0, text => some ([], text)
  | _ + 1, [] => none
  | count + 1, c :: rest =>
      if c.utf8Size ≤ count + 1 then
        (splitOctets? (count + 1 - c.utf8Size) rest).map fun (front, back) => (c :: front, back)
      else none
termination_by _ text => text.length

def isTail (octet : UInt8) : Bool :=
  0x80 ≤ octet && octet ≤ 0xBF

/-- The value that `tails` add to the payload bits of a leading octet. -/
def assemble (lead : Nat) (tails : List UInt8) : Char :=
  Char.ofNat (tails.foldl (fun code tail => code * 64 + (tail.toNat - 0x80)) lead)

/-- How many octets follow a leading octet, and the range its first successor must lie in. -/
def successors (lead : UInt8) : Option (Nat × UInt8 × UInt8) :=
  if 0xC2 ≤ lead && lead ≤ 0xDF then some (1, 0x80, 0xBF)
  else if lead == 0xE0 then some (2, 0xA0, 0xBF)
  else if lead == 0xED then some (2, 0x80, 0x9F)
  else if 0xE1 ≤ lead && lead ≤ 0xEF then some (2, 0x80, 0xBF)
  else if lead == 0xF0 then some (3, 0x90, 0xBF)
  else if 0xF1 ≤ lead && lead ≤ 0xF3 then some (3, 0x80, 0xBF)
  else if lead == 0xF4 then some (3, 0x80, 0x8F)
  else none

/-- The octets, at most `count`, that continue a character. -/
def takeTails : Nat → List UInt8 → List UInt8
  | count + 1, octet :: rest => if isTail octet then octet :: takeTails count rest else []
  | _, _ => []

/-- Reads one character after its leading octet: the character, or nothing where the octets are
malformed, and the octets that follow. A malformed part ends before the first octet that cannot
continue it. -/
def decodeNext (lead : UInt8) (rest : List UInt8) : Option Char × List UInt8 :=
  if lead < 0x80 then (some (Char.ofNat lead.toNat), rest)
  else
    match successors lead, rest with
    | some (count, low, high), next :: more =>
        if low ≤ next && next ≤ high then
          let tails := takeTails (count - 1) more
          let payload := lead.toNat % Nat.pow 2 (6 - count)
          (if tails.length == count - 1 then some (assemble payload (next :: tails)) else none,
            more.drop tails.length)
        else (none, rest)
    | _, _ => (none, rest)

theorem length_decodeNext (lead : UInt8) (rest : List UInt8) :
    (decodeNext lead rest).2.length ≤ rest.length := by
  rw [decodeNext.eq_def]
  split
  · simp
  · split
    · split <;> simp
      omega
    · simp

/-- The text whose UTF-8 encoding the octets are, if there is one. -/
def decode? : List UInt8 → Option (List Char)
  | [] => some []
  | lead :: rest =>
      match (decodeNext lead rest).1 with
      | some c => (decode? (decodeNext lead rest).2).map (c :: ·)
      | none => none
termination_by octets => octets.length
decreasing_by
  have := length_decodeNext lead rest
  simp only [List.length_cons]
  omega

/-- The text that octets stand for, with U+FFFD for each malformed part. -/
def decodeLossy : List UInt8 → List Char
  | [] => []
  | lead :: rest =>
      (decodeNext lead rest).1.getD '\uFFFD' :: decodeLossy (decodeNext lead rest).2
termination_by octets => octets.length
decreasing_by
  have := length_decodeNext lead rest
  simp only [List.length_cons]
  omega

end LedgerBoard.Text
