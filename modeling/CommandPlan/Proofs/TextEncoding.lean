import CommandPlan.Text.Utf8

/-! What is encoded is decoded again. The octets of a character are cut off as one
sequence, whatever follows them: the ranges of a second octet shut out just what no
character is encoded to. -/
namespace CommandPlan.TextEncoding
open Utf8

variable {first second third fourth octet : UInt8} {code : Nat} {rest : List UInt8}

/-! ## Octets by their numbers -/

theorem is_continuation_iff : isContinuation octet = true ↔ 0x80 ≤ octet.toNat ∧ octet.toNat ≤ 0xBF := by
  simp [isContinuation, UInt8.le_iff_toNat_le]

theorem is_second_iff : isSecond first octet = true ↔
    (0x80 ≤ octet.toNat ∧ octet.toNat ≤ 0xBF) ∧ (first.toNat = 0xE0 → 0xA0 ≤ octet.toNat) ∧
      (first.toNat = 0xED → octet.toNat ≤ 0x9F) ∧ (first.toNat = 0xF0 → 0x90 ≤ octet.toNat) ∧
      (first.toNat = 0xF4 → octet.toNat ≤ 0x8F) := by
  unfold isSecond isContinuation
  simp only [← UInt8.toNat_inj, UInt8.le_iff_toNat_le, UInt8.reduceToNat]
  split
  · simp; omega
  split
  · simp; omega
  split
  · simp; omega
  split
  · simp; omega
  · simp; omega

theorem to_nat_of_octet (small : code < 0x100) : (UInt8.ofNat code).toNat = code := by
  simpa using small

/-! ## Well-formed sequences -/

theorem segments_one (ascii : first.toNat < 0x80) :
    segments (first :: rest) = .scalar (Char.ofNat first.toNat) :: segments rest := by
  rw [segments.eq_def]
  exact if_pos (UInt8.lt_iff_toNat_lt.mpr ascii)

theorem segments_two (lead : 0xC2 ≤ first.toNat ∧ first.toNat ≤ 0xDF) (tail : isContinuation second = true) :
    segments (first :: second :: rest) = .scalar (scalar2 first second) :: segments rest := by
  rw [segments.eq_def]
  simp only [UInt8.lt_iff_toNat_lt, UInt8.le_iff_toNat_le, UInt8.reduceToNat]
  rw [if_neg (by omega), if_pos lead, if_pos tail]

theorem segments_three (lead : 0xE0 ≤ first.toNat ∧ first.toNat ≤ 0xEF) (next : isSecond first second = true)
    (tail : isContinuation third = true) :
    segments (first :: second :: third :: rest) = .scalar (scalar3 first second third) :: segments rest := by
  rw [segments.eq_def]
  simp only [UInt8.lt_iff_toNat_lt, UInt8.le_iff_toNat_le, UInt8.reduceToNat]
  rw [if_neg (by omega), if_neg (by omega), if_pos lead, if_pos next, if_pos tail]

theorem segments_four (lead : 0xF0 ≤ first.toNat ∧ first.toNat ≤ 0xF4) (next : isSecond first second = true)
    (tail : isContinuation third = true) (last : isContinuation fourth = true) :
    segments (first :: second :: third :: fourth :: rest) =
      .scalar (scalar4 first second third fourth) :: segments rest := by
  rw [segments.eq_def]
  simp only [UInt8.lt_iff_toNat_lt, UInt8.le_iff_toNat_le, UInt8.reduceToNat]
  rw [if_neg (by omega), if_neg (by omega), if_neg (by omega), if_pos lead, if_pos next, if_pos tail, if_pos last]

/-! ## The octets of a character -/

/-- An octet behind the first, with the six digits of a code that start at a unit. -/
def tailOctet (code unit : Nat) : UInt8 :=
  UInt8.ofNat (0x80 + code / unit % 0x40)

theorem tail_octet_to_nat (code unit : Nat) : (tailOctet code unit).toNat = 0x80 + code / unit % 0x40 :=
  to_nat_of_octet (by omega)

theorem tail_octet_continues (code unit : Nat) : isContinuation (tailOctet code unit) = true := by
  rw [is_continuation_iff, tail_octet_to_nat]
  omega

theorem tail_octet_payload (code unit : Nat) : payload (tailOctet code unit) = code / unit % 0x40 := by
  rw [payload, tail_octet_to_nat]
  omega

theorem segments_two_of_code (wide : 0x80 ≤ code) (short : code < 0x800) :
    segments (UInt8.ofNat (0xC0 + code / 0x40) :: tailOctet code 1 :: rest) =
      .scalar (Char.ofNat code) :: segments rest := by
  have lead := to_nat_of_octet (show 0xC0 + code / 0x40 < 0x100 by omega)
  have digits : (0xC0 + code / 0x40) % 0x20 * 0x40 + code / 1 % 0x40 = code := by omega
  rw [segments_two (by omega) (tail_octet_continues code 1), scalar2, tail_octet_payload, lead, digits]

/-- The surrogates are no characters, and their octets are refused. -/
theorem segments_three_of_code (wide : 0x800 ≤ code) (short : code < 0x10000)
    (scalar : code < 0xD800 ∨ 0xDFFF < code) :
    segments (UInt8.ofNat (0xE0 + code / 0x1000) :: tailOctet code 0x40 :: tailOctet code 1 :: rest) =
      .scalar (Char.ofNat code) :: segments rest := by
  have lead := to_nat_of_octet (show 0xE0 + code / 0x1000 < 0x100 by omega)
  have digits : (0xE0 + code / 0x1000) % 0x10 * 0x1000 + code / 0x40 % 0x40 * 0x40 + code / 1 % 0x40 = code := by
    omega
  have next : isSecond (UInt8.ofNat (0xE0 + code / 0x1000)) (tailOctet code 0x40) = true := by
    rw [is_second_iff, tail_octet_to_nat, lead]
    omega
  rw [segments_three (by omega) next (tail_octet_continues code 1), scalar3, tail_octet_payload,
    tail_octet_payload, lead, digits]

theorem segments_four_of_code (wide : 0x10000 ≤ code) (short : code < 0x110000) :
    segments (UInt8.ofNat (0xF0 + code / 0x40000) :: tailOctet code 0x1000 :: tailOctet code 0x40 ::
      tailOctet code 1 :: rest) = .scalar (Char.ofNat code) :: segments rest := by
  have lead := to_nat_of_octet (show 0xF0 + code / 0x40000 < 0x100 by omega)
  have digits : (0xF0 + code / 0x40000) % 0x8 * 0x40000 + code / 0x1000 % 0x40 * 0x1000 +
      code / 0x40 % 0x40 * 0x40 + code / 1 % 0x40 = code := by
    omega
  have next : isSecond (UInt8.ofNat (0xF0 + code / 0x40000)) (tailOctet code 0x1000) = true := by
    rw [is_second_iff, tail_octet_to_nat, lead]
    omega
  rw [segments_four (by omega) next (tail_octet_continues code 0x40) (tail_octet_continues code 1), scalar4,
    tail_octet_payload, tail_octet_payload, tail_octet_payload, lead, digits]

theorem segments_encode_char (c : Char) (rest : List UInt8) :
    segments (encodeChar c ++ rest) = .scalar c :: segments rest := by
  have range : c.toNat < 0xD800 ∨ 0xDFFF < c.toNat ∧ c.toNat < 0x110000 := c.valid
  conv => rhs; rw [← Char.ofNat_toNat c]
  unfold encodeChar
  dsimp only
  split
  · have lead := to_nat_of_octet (show c.toNat < 0x100 by omega)
    rw [List.singleton_append, segments_one (by omega), lead]
  split
  · exact segments_two_of_code (by omega) (by omega)
  split
  · exact segments_three_of_code (by omega) (by omega) (by omega)
  · exact segments_four_of_code (by omega) (by omega)

/-! ## Texts -/

theorem segments_encode (text : List Char) : segments (encode text) = text.map .scalar := by
  induction text with
  | nil => rfl
  | cons c text ih => rw [encode, List.flatMap_cons, segments_encode_char, List.map_cons, ← ih, encode]

/-- What is encoded is text, and the text that it was. -/
theorem decode_encode (text : List Char) : decode? (encode text) = some text := by
  have scalars : Segment.char? ∘ Segment.scalar = some := rfl
  rw [decode?, segments_encode, List.mapM_map, scalars]
  exact (List.mapM_pure).trans (congrArg some (List.map_id text))

theorem encode_inj {text other : List Char} : encode text = encode other ↔ text = other := by
  constructor
  · intro same
    have decoded := congrArg decode? same
    rw [decode_encode, decode_encode] at decoded
    exact Option.some.inj decoded
  · exact congrArg encode

end CommandPlan.TextEncoding
