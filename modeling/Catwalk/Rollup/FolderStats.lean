import Mathlib.Algebra.BigOperators.Group.List.Basic
import Mathlib.Algebra.Order.Ring.Int
import Mathlib.Data.List.ReduceOption

/-! Running totals of one folder group, as a commutative monoid. -/

namespace Catwalk

def newest : Option Int → Option Int → Option Int
  | none, candidate => candidate
  | current, none => current
  | some current, some candidate => some (max current candidate)

@[simp] theorem newest_none_left (time : Option Int) :
    newest none time = time := by
  cases time <;> rfl

@[simp] theorem newest_none_right (time : Option Int) :
    newest time none = time := by
  cases time <;> rfl

theorem newest_comm (first second : Option Int) :
    newest first second = newest second first := by
  cases first <;> cases second <;> simp [newest, max_comm]

theorem newest_assoc (first second third : Option Int) :
    newest (newest first second) third =
      newest first (newest second third) := by
  cases first <;> cases second <;> cases third <;> simp [newest, max_assoc]

/-- Running totals for one folder group. -/
@[ext] structure FolderStats where
  files : Nat
  bytes : Int
  used : Int
  mtimeNs : Option Int
  atimeNs : Option Int
  deriving DecidableEq

namespace FolderStats

def new : FolderStats where
  files := 0
  bytes := 0
  used := 0
  mtimeNs := none
  atimeNs := none

def add (stats : FolderStats) (files : Nat) (nbytes used mtimeNs atimeNs :
    Option Int) : FolderStats where
  files := stats.files + files
  bytes := stats.bytes + nbytes.getD 0
  used := stats.used + used.getD 0
  mtimeNs := newest stats.mtimeNs mtimeNs
  atimeNs := newest stats.atimeNs atimeNs

instance : Zero FolderStats := ⟨new⟩

/-- `stats.add` of the fields of another record. -/
instance : Add FolderStats :=
  ⟨fun stats other => stats.add other.files other.bytes other.used
    other.mtimeNs other.atimeNs⟩

@[simp] theorem files_zero : (0 : FolderStats).files = 0 := rfl
@[simp] theorem bytes_zero : (0 : FolderStats).bytes = 0 := rfl
@[simp] theorem used_zero : (0 : FolderStats).used = 0 := rfl
@[simp] theorem mtimeNs_zero : (0 : FolderStats).mtimeNs = none := rfl
@[simp] theorem atimeNs_zero : (0 : FolderStats).atimeNs = none := rfl

@[simp] theorem files_add (first second : FolderStats) :
    (first + second).files = first.files + second.files := rfl

@[simp] theorem bytes_add (first second : FolderStats) :
    (first + second).bytes = first.bytes + second.bytes := rfl

@[simp] theorem used_add (first second : FolderStats) :
    (first + second).used = first.used + second.used := rfl

@[simp] theorem mtimeNs_add (first second : FolderStats) :
    (first + second).mtimeNs = newest first.mtimeNs second.mtimeNs := rfl

@[simp] theorem atimeNs_add (first second : FolderStats) :
    (first + second).atimeNs = newest first.atimeNs second.atimeNs := rfl

instance : AddCommMonoid FolderStats where
  add_assoc first second third := by
    ext1 <;> simp [add_assoc, newest_assoc]
  zero_add stats := by
    ext1 <;> simp
  add_zero stats := by
    ext1 <;> simp
  add_comm first second := by
    ext1 <;> simp [add_comm, newest_comm]
  nsmul := nsmulRec

theorem add_eq (stats : FolderStats) (files : Nat)
    (nbytes used mtimeNs atimeNs : Option Int) :
    stats.add files nbytes used mtimeNs atimeNs =
      stats + new.add files nbytes used mtimeNs atimeNs := by
  ext1 <;> simp [add, new]

theorem sum_eq (list : List FolderStats) :
    list.sum =
      { files := (list.map files).sum
        bytes := (list.map bytes).sum
        used := (list.map used).sum
        mtimeNs := (list.map mtimeNs).foldr newest none
        atimeNs := (list.map atimeNs).foldr newest none } := by
  induction list with
  | nil => rfl
  | cons stats rest ih =>
      rw [List.sum_cons, ih]
      rfl

end FolderStats

theorem foldr_newest (times : List (Option Int)) :
    times.foldr newest none = times.reduceOption.max? := by
  induction times with
  | nil => rfl
  | cons time rest ih =>
      rw [List.foldr_cons, ih]
      cases time with
      | none => simp
      | some time =>
          rw [List.reduceOption_cons_of_some, List.max?_cons]
          cases rest.reduceOption.max? <;> rfl

end Catwalk
