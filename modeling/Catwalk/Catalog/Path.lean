import Mathlib.Algebra.Ring.Int.Defs
import Mathlib.Data.List.DropRight

/-! Directory paths and the text the service puts on a path or a time. -/

namespace Catwalk

/-- Paths and names as sequences of code points. -/
abbrev Text := List Char

instance Text.lawfulBEq : LawfulBEq Text := inferInstance

/-- Ends with `/`, so that `/admin` cannot match `/administrator`. -/
def normalizePrefix (path : Text) : Text :=
  let stripped := (path.dropWhile (· == '/')).rdropWhile (· == '/')
  let path := '/' :: stripped
  if path = ['/'] then path else path ++ ['/']

/-- Map a file's `parent_path` to its top-level group below the prefix. -/
def groupKey (parentPath pathPrefix : Text) (depth : Nat) : Text :=
  let parts :=
    ((parentPath.drop pathPrefix.length).splitOn '/').filter (· ≠ [])
  if parts ≠ [] then ['/'].intercalate (parts.take depth) else ['.']

/-- The characters `str.strip` removes. -/
def isSpace (char : Char) : Bool :=
  let code := char.toNat
  (9 ≤ code ∧ code ≤ 13) ∨ (28 ≤ code ∧ code ≤ 32) ∨ code = 0x85 ∨
    code = 0xa0 ∨ code = 0x1680 ∨ (0x2000 ≤ code ∧ code ≤ 0x200a) ∨
    code = 0x2028 ∨ code = 0x2029 ∨ code = 0x202f ∨ code = 0x205f ∨
    code = 0x3000

def strip (text : Text) : Text :=
  (text.dropWhile isSpace).rdropWhile isSpace

def zeroPadded (width number : Nat) : Text :=
  (Nat.toDigits 10 number).leftpad width '0'

/-- The proleptic Gregorian date of a day, counted from 1970-01-01. -/
def civilDate (day : Int) : Int × Nat × Nat :=
  let shifted := day + 719468
  let era := shifted / 146097
  let dayOfEra := (shifted % 146097).toNat
  let yearOfEra :=
    (dayOfEra - dayOfEra / 1460 + dayOfEra / 36524 - dayOfEra / 146096) / 365
  let dayOfYear :=
    dayOfEra - (365 * yearOfEra + yearOfEra / 4 - yearOfEra / 100)
  let marchMonth := (5 * dayOfYear + 2) / 153
  let month := if marchMonth < 10 then marchMonth + 3 else marchMonth - 9
  let year := yearOfEra + era * 400 + if month ≤ 2 then 1 else 0
  (year, month, dayOfYear - (153 * marchMonth + 2) / 5 + 1)

/-- `datetime.isoformat` of a whole number of seconds. -/
def isoformat (seconds : Int) : Text :=
  let (year, month, day) := civilDate (seconds / 86400)
  let second := (seconds % 86400).toNat
  zeroPadded 4 year.toNat ++ '-' :: zeroPadded 2 month ++ '-' ::
    zeroPadded 2 day ++ 'T' :: zeroPadded 2 (second / 3600) ++ ':' ::
    zeroPadded 2 (second / 60 % 60) ++ ':' :: zeroPadded 2 (second % 60)

/-- ISO-8601 UTC with nanosecond precision. -/
def nsToIso : Option Int → Text
  | none => []
  | some ns =>
      isoformat (ns / 10 ^ 9) ++ '.' :: zeroPadded 9 (ns % 10 ^ 9).toNat

example : nsToIso (some 1786561285000000007) =
    "2026-08-12T19:01:25.000000007".toList := by decide

end Catwalk
