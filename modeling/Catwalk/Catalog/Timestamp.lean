import Catwalk.Catalog.Path
import Catwalk.Data.Numeral
import Catwalk.Rollup.FolderStats
import Mathlib.Order.Monotone.Basic

/-! The texts of `ns_to_iso` stand in the order of the times they are of. -/

namespace Catwalk

/-! Days of a March-based year, in eras of 400 years. -/

namespace Civil

def yearOfEra (dayOfEra : Nat) : Nat :=
  (dayOfEra - dayOfEra / 1460 + dayOfEra / 36524 - dayOfEra / 146096) / 365

def yearStart (year : Nat) : Nat := 365 * year + year / 4 - year / 100

theorem yearOfEra_mono {first second : Nat} (atMost : first ≤ second) :
    yearOfEra first ≤ yearOfEra second := by
  apply monotone_nat_of_le_succ _ atMost
  intro day
  apply Nat.div_le_div_right
  omega

theorem yearOfEra_start : ∀ year, year < 400 →
    yearOfEra (yearStart year) = year := by decide +kernel

theorem yearOfEra_before : ∀ year, year < 399 →
    yearOfEra (yearStart (year + 1) - 1) = year := by decide +kernel

theorem yearOfEra_lt {dayOfEra : Nat} (inside : dayOfEra < 146097) :
    yearOfEra dayOfEra < 400 := by
  have last : yearOfEra 146096 = 399 := by decide +kernel
  have atMost := yearOfEra_mono (Nat.le_of_lt_succ inside)
  omega

theorem yearStart_le {dayOfEra : Nat} (inside : dayOfEra < 146097) :
    yearStart (yearOfEra dayOfEra) ≤ dayOfEra := by
  by_contra before
  have small := yearOfEra_lt inside
  cases same : yearOfEra dayOfEra with
  | zero => rw [same] at before; exact before (Nat.zero_le _)
  | succ year =>
      rw [same] at before small
      have atMost := yearOfEra_mono
        (show dayOfEra ≤ yearStart (year + 1) - 1 by omega)
      rw [yearOfEra_before year (by omega), same] at atMost
      omega

theorem lt_yearStart {dayOfEra : Nat} (inside : dayOfEra < 146097) :
    dayOfEra ≤ yearStart (yearOfEra dayOfEra) + 365 := by
  rcases Nat.lt_or_ge (yearOfEra dayOfEra + 1) 400 with earlier | last
  · have within : dayOfEra < yearStart (yearOfEra dayOfEra + 1) := by
      by_contra beyond
      have atLeast := yearOfEra_mono (Nat.le_of_not_lt beyond)
      rw [yearOfEra_start _ earlier] at atLeast
      omega
    unfold yearStart at within ⊢
    omega
  · have same : yearOfEra dayOfEra = 399 := by
      have small := yearOfEra_lt inside
      omega
    rw [same]
    unfold yearStart
    omega

def era (day : Int) : Int := (day + 719468) / 146097

def dayOfEra (day : Int) : Nat := ((day + 719468) % 146097).toNat

theorem dayOfEra_lt (day : Int) : dayOfEra day < 146097 := by
  unfold dayOfEra
  omega

def marchYear (day : Int) : Int := yearOfEra (dayOfEra day) + era day * 400

def dayOfYear (day : Int) : Nat :=
  dayOfEra day - yearStart (yearOfEra (dayOfEra day))

theorem dayOfYear_le (day : Int) : dayOfYear day ≤ 365 := by
  have inside := lt_yearStart (dayOfEra_lt day)
  unfold dayOfYear
  omega

def marchMonth (day : Int) : Nat := (5 * dayOfYear day + 2) / 153

theorem marchMonth_le (day : Int) : marchMonth day ≤ 11 := by
  have atMost := dayOfYear_le day
  unfold marchMonth
  omega

def calendarMonth (day : Int) : Nat :=
  if marchMonth day < 10 then marchMonth day + 3 else marchMonth day - 9

theorem march_lt {first second : Int} (less : first < second) :
    marchYear first < marchYear second ∨
      marchYear first = marchYear second ∧ dayOfYear first < dayOfYear second := by
  have start := yearStart_le (dayOfEra_lt first)
  have year := yearOfEra_lt (dayOfEra_lt first)
  have eras : era first < era second ∨
      era first = era second ∧ dayOfEra first < dayOfEra second := by
    unfold era dayOfEra
    omega
  unfold marchYear dayOfYear
  rcases eras with earlier | ⟨same, earlier⟩
  · left
    omega
  · have atMost := yearOfEra_mono earlier.le
    rw [same]
    rcases Nat.lt_or_eq_of_le atMost with lower | equal
    · left
      omega
    · right
      rw [equal] at start
      refine ⟨by rw [equal], ?_⟩
      rw [equal]
      omega

end Civil

open Civil

theorem civilDate_eq (day : Int) :
    civilDate day =
      (marchYear day + if calendarMonth day ≤ 2 then 1 else 0, calendarMonth day,
        dayOfYear day - (153 * marchMonth day + 2) / 5 + 1) := rfl

/-- Months since March of the year 0, and the day in the month. -/
theorem civilDate_months (day : Int) :
    12 * (civilDate day).1 + (civilDate day).2.1 =
        12 * marchYear day + marchMonth day + 3 ∧
      1 ≤ (civilDate day).2.1 ∧ (civilDate day).2.1 ≤ 12 := by
  have atMost := dayOfYear_le day
  rw [civilDate_eq]
  dsimp only
  unfold calendarMonth marchMonth
  split <;> split <;> omega

/-- The parts of a date, in the order in which the text gives them. -/
theorem civilDate_lt {first second : Int} (less : first < second) :
    (civilDate first).1 < (civilDate second).1 ∨
      (civilDate first).1 = (civilDate second).1 ∧
        ((civilDate first).2.1 < (civilDate second).2.1 ∨
          (civilDate first).2.1 = (civilDate second).2.1 ∧
            (civilDate first).2.2 < (civilDate second).2.2) := by
  obtain ⟨months, low, high⟩ := civilDate_months first
  obtain ⟨months', low', high'⟩ := civilDate_months second
  have first_le := marchMonth_le first
  have second_le := marchMonth_le second
  simp only [civilDate_eq] at *
  rcases march_lt less with year | ⟨year, earlier⟩
  · omega
  · have month : marchMonth first < marchMonth second ∨
        marchMonth first = marchMonth second ∧
          (153 * marchMonth first + 2) / 5 ≤ dayOfYear first := by
      unfold marchMonth
      omega
    omega

theorem civilDate_day_lt (day : Int) : (civilDate day).2.2 < 100 := by
  have atMost := dayOfYear_le day
  rw [civilDate_eq]
  dsimp only
  unfold marchMonth
  omega

/-! The text as fields of fixed widths. -/

theorem digitChar_eq : ∀ value, value < 10 →
    Nat.digitChar value = Numeral.digit value := by decide

theorem padded_zero (width : Nat) :
    Numeral.padded 10 width 0 = List.replicate width '0' := by
  induction width with
  | zero => rfl
  | succ width ih =>
      rw [Numeral.padded, Nat.zero_div, ih, List.replicate_succ']
      rfl

theorem zeroPadded_eq {width number : Nat} (bound : number < 10 ^ (width + 1)) :
    zeroPadded (width + 1) number = Numeral.padded 10 (width + 1) number := by
  induction width generalizing number with
  | zero =>
      have small : number < 10 := by simpa using bound
      rw [zeroPadded, Nat.toDigits_of_lt_base small, digitChar_eq number small]
      simp [List.leftpad, Numeral.padded, Nat.mod_eq_of_lt small]
  | succ width ih =>
      rw [Numeral.padded]
      rcases Nat.lt_or_ge number 10 with small | large
      · rw [Nat.div_eq_of_lt small, padded_zero, Nat.mod_eq_of_lt small, zeroPadded,
          Nat.toDigits_of_lt_base small, digitChar_eq number small]
        rfl
      · have fits : number / 10 < 10 ^ (width + 1) :=
          Nat.div_lt_of_lt_mul (by rwa [Nat.mul_comm, ← Nat.pow_succ])
        have last := digitChar_eq (number % 10) (Nat.mod_lt _ (by decide))
        rw [← ih fits, zeroPadded, zeroPadded,
          Nat.toDigits_of_base_le (by decide) large, last]
        simp [List.leftpad]

/-- Years 1 to 9999, the ones `datetime` has. -/
def InCalendar (ns : Int) : Prop :=
  -62135596800 * 10 ^ 9 ≤ ns ∧ ns < 253402300800 * 10 ^ 9

theorem inCalendar_of_int64 {ns : Int} (low : -2 ^ 63 ≤ ns) (high : ns < 2 ^ 63) :
    InCalendar ns := by
  unfold InCalendar
  omega

def stampLayout : List (Nat × Text) :=
  [(4, ['-']), (2, ['-']), (2, ['T']), (2, [':']), (2, [':']), (2, ['.']), (9, [])]

def stamp (ns : Int) : List Nat :=
  let seconds := ns / 10 ^ 9
  let date := civilDate (seconds / 86400)
  let second := (seconds % 86400).toNat
  [date.1.toNat, date.2.1, date.2.2, second / 3600, second / 60 % 60, second % 60,
    (ns % 10 ^ 9).toNat]

theorem civilDate_year {day : Int} (low : -719162 ≤ day) (high : day < 2932897) :
    0 ≤ (civilDate day).1 ∧ (civilDate day).1 < 10000 := by
  have start := yearStart_le (dayOfEra_lt day)
  have small := yearOfEra_lt (dayOfEra_lt day)
  rw [civilDate_eq]
  dsimp only
  unfold calendarMonth marchMonth dayOfYear marchYear
  have eras : 0 ≤ era day ∧ (era day < 24 ∨ era day = 24 ∧ dayOfEra day ≤ 146036) := by
    unfold era dayOfEra
    omega
  rcases eras with ⟨positive, earlier | ⟨last, within⟩⟩
  · split <;> omega
  · rcases Nat.lt_or_ge (yearOfEra (dayOfEra day)) 399 with lower | upper
    · split <;> omega
    · have same : yearOfEra (dayOfEra day) = 399 := by omega
      have starts : yearStart 399 = 145731 := rfl
      rw [same] at start ⊢
      rw [starts] at start ⊢
      split <;> omega

theorem stamp_fits {ns : Int} (inside : InCalendar ns) :
    List.Forall₂ (fun field value => value < 10 ^ field.1) stampLayout (stamp ns) := by
  obtain ⟨low, high⟩ := inside
  obtain ⟨positive, year⟩ := civilDate_year
    (show -719162 ≤ ns / 10 ^ 9 / 86400 by omega)
    (show ns / 10 ^ 9 / 86400 < 2932897 by omega)
  obtain ⟨_, _, month⟩ := civilDate_months (ns / 10 ^ 9 / 86400)
  have day := civilDate_day_lt (ns / 10 ^ 9 / 86400)
  refine .cons ?_ (.cons ?_ (.cons ?_ (.cons ?_ (.cons ?_ (.cons ?_ (.cons ?_ .nil))))))
    <;> dsimp only <;> omega

theorem nsToIso_eq_fields {ns : Int} (inside : InCalendar ns) :
    nsToIso (some ns) = Numeral.fields stampLayout (stamp ns) := by
  have fits := stamp_fits inside
  simp only [stampLayout, stamp, List.forall₂_cons] at fits
  obtain ⟨year, month, day, hour, minute, second, nano, _⟩ := fits
  simp only [nsToIso, isoformat, stampLayout, stamp, Numeral.fields,
    zeroPadded_eq year, zeroPadded_eq month, zeroPadded_eq day, zeroPadded_eq hour,
    zeroPadded_eq minute, zeroPadded_eq second, zeroPadded_eq nano]
  simp

theorem stamp_lt {first second : Int} (inside : InCalendar first)
    (less : first < second) : stamp first < stamp second := by
  obtain ⟨low, high⟩ := inside
  obtain ⟨positive, _⟩ := civilDate_year
    (show -719162 ≤ first / 10 ^ 9 / 86400 by omega)
    (show first / 10 ^ 9 / 86400 < 2932897 by omega)
  simp only [stamp, List.cons_lt_cons_iff]
  rcases lt_trichotomy (first / 10 ^ 9 / 86400) (second / 10 ^ 9 / 86400) with
    earlier | same | later
  · have date := civilDate_lt earlier
    omega
  · rw [same]
    omega
  · omega

/-- What is earlier has the smaller text, code point by code point. -/
theorem nsToIso_lt {first second : Int} (inside : InCalendar first)
    (inside' : InCalendar second) (less : first < second) :
    nsToIso (some first) < nsToIso (some second) := by
  rw [nsToIso_eq_fields inside, nsToIso_eq_fields inside']
  exact Numeral.fields_lt (stamp_fits inside') rfl (stamp_lt inside less)

theorem nsToIso_lt_iff {first second : Int} (inside : InCalendar first)
    (inside' : InCalendar second) :
    nsToIso (some first) < nsToIso (some second) ↔ first < second := by
  constructor
  · intro less
    rcases lt_trichotomy first second with earlier | rfl | later
    · exact earlier
    · exact absurd less (lt_irrefl _)
    · exact absurd less (nsToIso_lt inside' inside later).not_gt
  · exact nsToIso_lt inside inside'

theorem nsToIso_before_epoch :
    nsToIso (some (-1)) < nsToIso (some 0) ↔ (-1 : Int) < 0 :=
  nsToIso_lt_iff (inCalendar_of_int64 (by decide) (by decide))
    (inCalendar_of_int64 (by decide) (by decide))

/-- A time that is missing, or one the calendar has. -/
def Shown (time : Option Int) : Prop :=
  ∀ ns, time = some ns → InCalendar ns

theorem Shown.newest {first second : Option Int} (isShown : Shown first)
    (isShown' : Shown second) : Shown (newest first second) := by
  cases first with
  | none => simpa using isShown'
  | some first =>
      cases second with
      | none => exact isShown
      | some second =>
          rintro ns ⟨⟩
          rcases max_choice first second with same | same
          · rw [same]
            exact isShown first rfl
          · rw [same]
            exact isShown' second rfl

/-- The text of the newest time is the greatest text. -/
theorem nsToIso_newest {first second : Option Int} (isShown : Shown first)
    (isShown' : Shown second) :
    nsToIso (newest first second) = max (nsToIso first) (nsToIso second) := by
  have least : ∀ text : Text, [] ≤ text := fun text => le_of_not_gt (List.not_lt_nil text)
  cases first with
  | none =>
      rw [newest_none_left]
      exact (max_eq_right (least _)).symm
  | some first =>
      cases second with
      | none => exact (max_eq_left (least _)).symm
      | some second =>
          have inside := isShown first rfl
          have inside' := isShown' second rfl
          rw [Catwalk.newest]
          rcases lt_trichotomy first second with earlier | rfl | later
          · rw [max_eq_right earlier.le, max_eq_right]
            exact (nsToIso_lt inside inside' earlier).le
          · rw [max_self, max_self]
          · rw [max_eq_left later.le, max_eq_left]
            exact (nsToIso_lt inside' inside later).le

def latest (texts : List Text) : Text :=
  texts.foldr max []

theorem Shown.foldr {times : List (Option Int)} (areShown : ∀ time ∈ times, Shown time) :
    Shown (times.foldr Catwalk.newest none) := by
  induction times with
  | nil => rintro ns ⟨⟩
  | cons time rest ih =>
      obtain ⟨isShown, areShown⟩ := List.forall_mem_cons.mp areShown
      exact isShown.newest (ih areShown)

theorem nsToIso_foldr {times : List (Option Int)}
    (areShown : ∀ time ∈ times, Shown time) :
    nsToIso (times.foldr newest none) = latest (times.map nsToIso) := by
  induction times with
  | nil => rfl
  | cons time rest ih =>
      obtain ⟨isShown, areShown⟩ := List.forall_mem_cons.mp areShown
      rw [List.foldr_cons, nsToIso_newest isShown (.foldr areShown), ih areShown]
      rfl

end Catwalk
