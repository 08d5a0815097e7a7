import Catwalk.Data.Numeral

/-! Percent-encoding of texts through their UTF-8 bytes. -/

namespace Catwalk.Percent

/-- The unreserved characters, as bytes. -/
def isUnreserved (byte : UInt8) : Bool :=
  let code := byte.toNat
  (48 ≤ code ∧ code ≤ 57) ∨ (65 ≤ code ∧ code ≤ 90) ∨
    (97 ≤ code ∧ code ≤ 122) ∨ code = 45 ∨ code = 46 ∨ code = 95 ∨ code = 126

/-- A byte that stands for itself, or `%XX`. -/
def encodeByte (byte : UInt8) : List Char :=
  if isUnreserved byte then [Char.ofNat byte.toNat]
  else '%' :: Numeral.padded 16 2 byte.toNat

def utf8 (text : List Char) : List UInt8 :=
  text.flatMap String.utf8EncodeChar

/-- `urllib.parse.quote(text, safe="")` -/
def quote (text : List Char) : List Char := (utf8 text).flatMap encodeByte

/-- The bytes that a text stands for. -/
def decodeBytes : List Char → Option (List UInt8)
  | [] => some []
  | '%' :: high :: low :: later => do
      let high ← Numeral.digitValue high
      let low ← Numeral.digitValue low
      if 16 ≤ high ∨ 16 ≤ low then none
      else
        let bytes ← decodeBytes later
        some (UInt8.ofNat (16 * high + low) :: bytes)
  | char :: later =>
      if char = '%' ∨ 128 ≤ char.toNat then none
      else do
        let bytes ← decodeBytes later
        some (UInt8.ofNat char.toNat :: bytes)

/-- The text that a percent-encoded text stands for. -/
def decode (text : List Char) : Option (List Char) := do
  let bytes ← decodeBytes text
  let chars ← bytes.toByteArray.utf8Decode?
  some chars.toList

theorem toNat_unreserved {byte : UInt8} (plain : isUnreserved byte = true) :
    45 ≤ byte.toNat ∧ byte.toNat ≤ 126 := by
  rw [isUnreserved, decide_eq_true_eq] at plain
  omega

theorem padded_two (number : Nat) :
    Numeral.padded 16 2 number =
      [Numeral.digit (number / 16 % 16), Numeral.digit (number % 16)] := rfl

theorem decodeBytes_plain {code : Nat} (small : code < 128)
    (notPercent : code ≠ 37) (later : List Char) :
    decodeBytes (Char.ofNat code :: later) =
      (decodeBytes later).map (UInt8.ofNat code :: ·) := by
  have differs : Char.ofNat code ≠ '%' := by
    intro same
    apply notPercent
    rw [← Numeral.toNat_ofNat small, same]
    rfl
  have plain : ¬ (Char.ofNat code = '%' ∨ 128 ≤ (Char.ofNat code).toNat) := by
    rw [Numeral.toNat_ofNat small]
    intro either
    rcases either with same | large
    · exact differs same
    · omega
  rw [decodeBytes]
  · rw [if_neg plain, Numeral.toNat_ofNat small]
    cases decodeBytes later <;> rfl
  · intro high low rest same
    exact absurd same differs

theorem decodeBytes_encodeByte (byte : UInt8) (later : List Char) :
    decodeBytes (encodeByte byte ++ later) =
      (decodeBytes later).map (byte :: ·) := by
  rw [encodeByte]
  cases plain : isUnreserved byte with
  | true =>
      have bounds := toNat_unreserved plain
      rw [if_pos rfl, List.singleton_append,
        decodeBytes_plain (by omega) (by omega), UInt8.ofNat_toNat]
  | false =>
      have bound : byte.toNat < 256 := byte.toNat_lt
      have highSmall : byte.toNat / 16 % 16 < 16 := Nat.mod_lt _ (by decide)
      have lowSmall : byte.toNat % 16 < 16 := Nat.mod_lt _ (by decide)
      have whole : 16 * (byte.toNat / 16 % 16) + byte.toNat % 16 =
          byte.toNat := by omega
      rw [if_neg Bool.false_ne_true, padded_two]
      simp only [List.cons_append, List.nil_append, decodeBytes,
        Numeral.digitValue_digit (highSmall.trans (by decide)),
        Numeral.digitValue_digit (lowSmall.trans (by decide)),
        Option.bind_eq_bind, Option.bind_some]
      rw [if_neg (by omega), whole, UInt8.ofNat_toNat]
      cases decodeBytes later <;> rfl

theorem decodeBytes_encode (bytes : List UInt8) :
    decodeBytes (bytes.flatMap encodeByte) = some bytes := by
  induction bytes with
  | nil => rfl
  | cons byte bytes ih =>
      rw [List.flatMap_cons, decodeBytes_encodeByte, ih]
      rfl

theorem decode_quote (text : List Char) : decode (quote text) = some text := by
  have bytes : (utf8 text).toByteArray = text.utf8Encode := rfl
  rw [decode, quote, decodeBytes_encode]
  simp [bytes, List.utf8Decode?_utf8Encode]

theorem mem_quote {text : List Char} {char : Char}
    (member : char ∈ quote text) :
    (37 = char.toNat ∨ 45 ≤ char.toNat) ∧ char.toNat ≤ 126 ∧
      char.toNat ≠ 59 := by
  obtain ⟨byte, _, inByte⟩ := List.mem_flatMap.mp member
  rw [encodeByte] at inByte
  cases plain : isUnreserved byte with
  | true =>
      rw [plain, if_pos rfl] at inByte
      rw [List.mem_singleton.mp inByte]
      rw [isUnreserved, decide_eq_true_eq] at plain
      rw [Numeral.toNat_ofNat (by omega)]
      omega
  | false =>
      rw [plain, if_neg Bool.false_ne_true] at inByte
      rcases List.mem_cons.mp inByte with rfl | digits
      · decide
      · obtain ⟨value, small, rfl⟩ :=
          Numeral.mem_padded (by decide) digits
        rw [Numeral.toNat_digit (small.trans (by decide))]
        split <;> omega

end Catwalk.Percent
