import Mathlib.Algebra.Order.Group.Nat
import Mathlib.Data.Char
import Mathlib.Data.List.Lex
import Mathlib.Data.Nat.Log
import Mathlib.Tactic.Ring

/-! Numbers as texts of digits: a fixed width keeps their order, and what is
written is read back. -/

namespace Catwalk.Numeral

/-- The digits of `%X`, and beyond them the capital letters. -/
def digit (value : Nat) : Char :=
  if value < 10 then Char.ofNat (48 + value) else Char.ofNat (55 + value)

/-- The value of a digit or letter, in either case. -/
def digitValue (char : Char) : Option Nat :=
  let code := char.toNat
  if 48 ≤ code ∧ code ≤ 57 then some (code - 48)
  else if 65 ≤ code ∧ code ≤ 90 then some (code - 55)
  else if 97 ≤ code ∧ code ≤ 122 then some (code - 87)
  else none

/-- The last `width` digits of a number. -/
def padded (base : Nat) : Nat → Nat → List Char
  | 0, _ => []
  | width + 1, number =>
      padded base width (number / base) ++ [digit (number % base)]

/-- The digits of a number, as many as it has. -/
def written (base number : Nat) : List Char :=
  padded base (Nat.log base number + 1) number

/-- Digits read after those of `before`; an underscore stands between two
digits, and none is `owed` then. -/
def readDigits (base : Nat) : Nat → Bool → List Char → Option Nat
  | before, owed, [] => if owed then none else some before
  | before, owed, char :: later =>
      if char = '_' then
        if owed then none else readDigits base before true later
      else
        match digitValue char with
        | none => none
        | some value =>
            if value < base then
              readDigits base (before * base + value) false later
            else none

theorem toNat_ofNat {code : Nat} (small : code < 128) :
    (Char.ofNat code).toNat = code := by
  have isValid : code.isValidChar := .inl (by omega)
  rw [Char.ofNat, dif_pos isValid]
  rfl

theorem toNat_digit {value : Nat} (small : value < 36) :
    (digit value).toNat = if value < 10 then 48 + value else 55 + value := by
  rw [digit]
  by_cases decimal : value < 10
  · rw [if_pos decimal, if_pos decimal, toNat_ofNat (by omega)]
  · rw [if_neg decimal, if_neg decimal, toNat_ofNat (by omega)]

theorem digitValue_digit {value : Nat} (small : value < 36) :
    digitValue (digit value) = some value := by
  rw [digitValue, toNat_digit small]
  by_cases decimal : value < 10
  · rw [if_pos decimal]
    rw [if_pos (by omega)]
    exact congrArg some (by omega)
  · rw [if_neg decimal]
    rw [if_neg (by omega), if_pos (by omega)]
    exact congrArg some (by omega)

theorem digit_lt {first second : Nat} (less : first < second)
    (small : second < 36) : digit first < digit second := by
  rw [Char.lt_def, UInt32.lt_iff_toNat_lt]
  change (digit first).toNat < (digit second).toNat
  rw [toNat_digit small, toNat_digit (less.trans small)]
  split
  · split <;> omega
  · split <;> omega

theorem length_padded (base width number : Nat) :
    (padded base width number).length = width := by
  induction width generalizing number with
  | zero => rfl
  | succ width ih => rw [padded, List.length_append, ih]; rfl

theorem mem_padded {base width number : Nat} (positive : 0 < base)
    {char : Char} (member : char ∈ padded base width number) :
    ∃ value, value < base ∧ char = digit value := by
  induction width generalizing number with
  | zero => cases member
  | succ width ih =>
      rw [padded] at member
      rcases List.mem_append.mp member with front | last
      · exact ih front
      · exact ⟨number % base, Nat.mod_lt _ positive,
          List.mem_singleton.mp last⟩

/-! Order. -/

theorem append_lt_append {α : Type*} [LT α] {first second : List α}
    (less : first < second) (length : first.length = second.length)
    (rest rest' : List α) : first ++ rest < second ++ rest' := by
  induction less with
  | nil => cases length
  | rel less => exact List.Lex.rel less
  | cons _ ih =>
      apply List.Lex.cons
      exact ih (Nat.succ.inj length)

theorem padded_lt {base width first second : Nat} (small : base ≤ 36)
    (less : first < second) (bound : second < base ^ width) :
    padded base width first < padded base width second := by
  induction width generalizing first second with
  | zero => rw [Nat.pow_zero] at bound; omega
  | succ width ih =>
      have positive : 0 < base := by
        apply Nat.pos_of_ne_zero
        intro zero
        rw [zero, Nat.zero_pow (Nat.succ_pos _)] at bound
        omega
      rw [padded, padded]
      rcases Nat.lt_or_eq_of_le (Nat.div_le_div_right less.le) with
        lower | same
      · have fits : second / base < base ^ width :=
          Nat.div_lt_of_lt_mul (by rwa [Nat.mul_comm, ← Nat.pow_succ])
        apply append_lt_append (ih lower fits)
        rw [length_padded, length_padded]
      · rw [same]
        apply List.append_left_lt
        apply List.Lex.rel
        have split := Nat.div_add_mod first base
        have split' := Nat.div_add_mod second base
        rw [same] at split
        exact digit_lt (by omega) ((Nat.mod_lt _ positive).trans_le small)

/-! Reading. -/

theorem readDigits_digit {base value : Nat} (small : base ≤ 36)
    (less : value < base) (before : Nat) (owed : Bool) (later : List Char) :
    readDigits base before owed (digit value :: later) =
      readDigits base (before * base + value) false later := by
  have notUnderscore : digit value ≠ '_' := by
    intro same
    have code := congrArg Char.toNat same
    rw [toNat_digit (less.trans_le small)] at code
    change _ = 95 at code
    split at code
    · omega
    · omega
  rw [readDigits, if_neg notUnderscore,
    digitValue_digit (less.trans_le small)]
  exact if_pos less

theorem readDigits_padded {base : Nat} (small : base ≤ 36)
    (positive : 0 < base) (width number before : Nat) (later : List Char) :
    readDigits base before false (padded base width number ++ later) =
      readDigits base (before * base ^ width + number % base ^ width) false
        later := by
  induction width generalizing number later with
  | zero =>
      rw [padded, List.nil_append, Nat.pow_zero, Nat.mul_one, Nat.mod_one,
        Nat.add_zero]
  | succ width ih =>
      have value : (before * base ^ width + number / base % base ^ width) *
          base + number % base =
            before * base ^ (width + 1) + number % base ^ (width + 1) := by
        rw [Nat.pow_succ', Nat.mod_mul]
        ring
      rw [padded, List.append_assoc, ih, List.singleton_append,
        readDigits_digit small (Nat.mod_lt _ positive), value]

theorem readDigits_padded_succ {base width number : Nat} (small : base ≤ 36)
    (bound : number < base ^ (width + 1)) (owed : Bool) :
    readDigits base 0 owed (padded base (width + 1) number) = some number := by
  have positive : 0 < base := by
    apply Nat.pos_of_ne_zero
    intro zero
    rw [zero, Nat.zero_pow (Nat.succ_pos _)] at bound
    omega
  have owing : readDigits base 0 owed (padded base (width + 1) number) =
      readDigits base 0 false (padded base (width + 1) number) := by
    cases first : padded base (width + 1) number with
    | nil =>
        have length := length_padded base (width + 1) number
        rw [first] at length
        cases length
    | cons char later =>
        obtain ⟨value, less, rfl⟩ := mem_padded positive
          (first ▸ List.mem_cons_self : char ∈ padded base (width + 1) number)
        rw [readDigits_digit small less, readDigits_digit small less]
  have read := readDigits_padded small positive (width + 1) number 0 []
  rw [List.append_nil, Nat.zero_mul, Nat.zero_add,
    Nat.mod_eq_of_lt bound] at read
  rw [owing, read]
  rfl

theorem padded_inj {base width first second : Nat} (small : base ≤ 36)
    (bound : first < base ^ (width + 1)) (bound' : second < base ^ (width + 1))
    (same : padded base (width + 1) first = padded base (width + 1) second) :
    first = second := by
  have read := readDigits_padded_succ small bound true
  rw [same, readDigits_padded_succ small bound' true] at read
  exact (Option.some.inj read).symm

theorem readDigits_written {base : Nat} (small : base ≤ 36) (many : 1 < base)
    (number : Nat) (owed : Bool) :
    readDigits base 0 owed (written base number) = some number :=
  readDigits_padded_succ small (Nat.lt_pow_succ_log_self many number) owed

theorem written_inj {first second : Nat}
    (same : written 10 first = written 10 second) : first = second := by
  have read := @readDigits_written 10 (by decide) (by decide)
  have both := congrArg (readDigits 10 0 false) same
  rw [read, read] at both
  exact Option.some.inj both

/-- `str(number)` -/
def decimal (number : Int) : List Char :=
  if number < 0 then '-' :: written 10 number.natAbs
  else written 10 number.natAbs

theorem unsigned_written (number : Nat) : '-' ∉ written 10 number := by
  intro member
  obtain ⟨value, small, isDigit⟩ := mem_padded (by decide) member
  have noSign : ∀ value, value < 10 → '-' ≠ digit value := by decide
  exact noSign value small isDigit

theorem decimal_inj {first second : Int} (same : decimal first = decimal second) :
    first = second := by
  have unsigned : ∀ (number : Nat) (later : List Char),
      '-' :: later ≠ written 10 number := by
    intro number later same
    exact unsigned_written number (same ▸ List.mem_cons_self)
  rw [decimal, decimal] at same
  split at same <;> split at same
  · have parts := written_inj (List.tail_eq_of_cons_eq same)
    omega
  · exact absurd same (unsigned _ _)
  · exact absurd same.symm (unsigned _ _)
  · have parts := written_inj same
    omega

/-! Several numbers in one text, each at its width and with the text behind it. -/

def fields : List (Nat × List Char) → List Nat → List Char
  | (width, after) :: layout, value :: values =>
      padded 10 width value ++ (after ++ fields layout values)
  | _, _ => []

theorem fields_lt {layout : List (Nat × List Char)} {first second : List Nat}
    (fits : List.Forall₂ (fun field value => value < 10 ^ field.1) layout second)
    (length : first.length = second.length) (less : first < second) :
    fields layout first < fields layout second := by
  induction less generalizing layout with
  | nil => cases length
  | rel less =>
      cases fits with
      | cons bound _ =>
          rw [fields, fields]
          refine append_lt_append (padded_lt (by decide) less bound) ?_ _ _
          rw [length_padded, length_padded]
  | cons _ ih =>
      cases fits with
      | cons _ fits =>
          rw [fields, fields]
          apply List.append_left_lt
          apply List.append_left_lt
          exact ih fits (Nat.succ.inj length)

/-! Bytes, the least significant first. -/

def ofBytes : List UInt8 → Nat
  | [] => 0
  | byte :: later => byte.toNat + 256 * ofBytes later

def bytes : Nat → Nat → List UInt8
  | 0, _ => []
  | width + 1, number => UInt8.ofNat number :: bytes width (number / 256)

theorem ofBytes_lt (list : List UInt8) : ofBytes list < 256 ^ list.length := by
  induction list with
  | nil => exact Nat.one_pos
  | cons byte later ih =>
      have bound : byte.toNat < 256 := byte.toNat_lt
      rw [ofBytes, List.length_cons, Nat.pow_succ]
      omega

theorem bytes_ofBytes (list : List UInt8) :
    bytes list.length (ofBytes list) = list := by
  induction list with
  | nil => rfl
  | cons byte later ih =>
      have bound : byte.toNat < 256 := byte.toNat_lt
      have rest : (byte.toNat + 256 * ofBytes later) / 256 =
          ofBytes later := by omega
      have low : (byte.toNat + 256 * ofBytes later) % 256 =
          byte.toNat := by omega
      have first : UInt8.ofNat (byte.toNat + 256 * ofBytes later) = byte := by
        apply UInt8.toNat_inj.mp
        rw [UInt8.toNat_ofNat']
        exact low
      rw [ofBytes, List.length_cons, bytes, rest, first, ih]

end Catwalk.Numeral
