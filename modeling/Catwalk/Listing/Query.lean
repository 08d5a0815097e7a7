import Catwalk.Listing.Entry
import Mathlib.Data.List.Infix

/-! `_query_listing` and the listings derived from it: filters and the cap. -/

namespace Catwalk

inductive TypeFilter
  | all
  | file
  | dir
  | other
  deriving DecidableEq

/-- The rows `list_dir` yields for an element type, or `_filter_listing_type`
keeps; a null type is neither `FILE` nor `DIR`. -/
def TypeFilter.admits (filter : TypeFilter) (row : ListingRow) : Bool :=
  match filter with
  | .all => true
  | .file => row.elementType = some "FILE"
  | .dir => row.elementType = some "DIR"
  | .other => row.elementType ≠ some "FILE" ∧ row.elementType ≠ some "DIR"

/-- `match_substring` on the name -/
def nameContains (filter : Text) (row : ListingRow) : Bool :=
  decide (filter <:+: row.name)

/-- The rows a listing with these filters is about. -/
def matching (content : List ListingRow) (type : TypeFilter) (name : Text) :
    List ListingRow :=
  content.filter fun row => type.admits row ∧ nameContains name row

/-- The batches kept and whether the cap cut them, after `rows` rows. -/
def capBatches (listingCap : Nat) :
    Nat → List (List ListingRow) → List (List ListingRow) × Bool
  | _, [] => ([], false)
  | rows, batch :: rest =>
      if rows + batch.length > listingCap then
        ([batch.take (listingCap - rows)], true)
      else
        let (batches, truncated) :=
          capBatches listingCap (rows + batch.length) rest
        (batch :: batches, truncated)

def queryListing (listingCap : Nat) (batches : List (List ListingRow))
    (elapsedS : Rat) : Listing :=
  let (kept, truncated) := capBatches listingCap 0 batches
  ⟨kept.flatten, truncated, elapsedS⟩

/-- The part of a complete unfiltered listing that matches the filters. -/
def deriveListing (full : Listing) (type : TypeFilter) (name : Text) :
    Listing :=
  let table := if type = .all then full.table
    else full.table.filter type.admits
  let table := if name = [] then table else table.filter (nameContains name)
  ⟨table, false, 0⟩

def listingCost (nbytes : List ListingRow → Nat) (table : List ListingRow) :
    Nat :=
  max 1024 (nbytes table * (1 + maxSortVariants))

/-- `sorted(dirs.column("name").to_pylist())` -/
def childDirs (table : List ListingRow) : List Text :=
  ((table.filter TypeFilter.dir.admits).map ListingRow.name).mergeSort
    fun first second => first ≤ second

theorem capBatches_spec {listingCap rows : Nat} (within : rows ≤ listingCap)
    (batches : List (List ListingRow)) :
    (capBatches listingCap rows batches).1.flatten =
        batches.flatten.take (listingCap - rows) ∧
      ((capBatches listingCap rows batches).2 = true ↔
        listingCap < rows + batches.flatten.length) := by
  induction batches generalizing rows with
  | nil => simpa [capBatches] using within
  | cons batch rest ih =>
      unfold capBatches
      split
      next exceeds =>
        have inside : listingCap - rows ≤ batch.length := by omega
        refine ⟨?_, ?_⟩
        · rw [List.flatten_cons, List.flatten_nil, List.append_nil,
            List.flatten_cons, List.take_append_of_le_length inside]
        · simp only [List.flatten_cons, List.length_append, true_iff]
          omega
      next fits =>
        obtain ⟨kept, truncated⟩ := ih (Nat.le_of_not_lt fits)
        refine ⟨?_, ?_⟩
        · have outside : batch.length ≤ listingCap - rows := by omega
          rw [List.flatten_cons, List.flatten_cons, List.take_append,
            List.take_of_length_le outside, kept]
          congr 2
          omega
        · simp only [List.flatten_cons, List.length_append]
          rw [truncated, Nat.add_assoc]

theorem queryListing_table (listingCap : Nat)
    (batches : List (List ListingRow)) (elapsedS : Rat) :
    (queryListing listingCap batches elapsedS).table =
      batches.flatten.take listingCap :=
  (capBatches_spec (Nat.zero_le listingCap) batches).1

theorem queryListing_truncated (listingCap : Nat)
    (batches : List (List ListingRow)) (elapsedS : Rat) :
    (queryListing listingCap batches elapsedS).truncated = true ↔
      listingCap < batches.flatten.length := by
  have cut := (capBatches_spec (Nat.zero_le listingCap) batches).2
  rwa [Nat.zero_add] at cut

/-- What a listing of the content must be, whichever path served it. -/
structure Serves (listingCap : Nat) (content : List ListingRow)
    (type : TypeFilter) (name : Text) (listing : Listing) : Prop where
  truncated : listing.truncated = true ↔
    listingCap < (matching content type name).length
  complete : listing.truncated = false →
    listing.table.Perm (matching content type name)
  capped : listing.truncated = true → listing.table.length = listingCap ∧
    listing.table.Subperm (matching content type name)

/-- A query serves the content when the backend yields the matching rows, in
any order and split into any batches. -/
theorem queryListing_serves {listingCap : Nat} {content : List ListingRow}
    {type : TypeFilter} {name : Text} {batches : List (List ListingRow)}
    (elapsedS : Rat)
    (yielded : batches.flatten.Perm (matching content type name)) :
    Serves listingCap content type name
      (queryListing listingCap batches elapsedS) where
  truncated := by
    rw [queryListing_truncated, yielded.length_eq]
  complete notTruncated := by
    have fits : ¬ listingCap < batches.flatten.length := by
      rw [← queryListing_truncated _ _ elapsedS, notTruncated]
      exact Bool.false_ne_true
    rw [queryListing_table, List.take_of_length_le (Nat.le_of_not_lt fits)]
    exact yielded
  capped cut := by
    have exceeds := (queryListing_truncated _ _ _).mp cut
    rw [queryListing_table]
    refine ⟨List.length_take_of_le exceeds.le, ?_⟩
    exact (List.take_sublist _ _).subperm.trans yielded.subperm

theorem deriveListing_table (full : Listing) (type : TypeFilter)
    (name : Text) :
    (deriveListing full type name).table = matching full.table type name := by
  have byType : (if type = .all then full.table
      else full.table.filter type.admits) = full.table.filter type.admits := by
    split
    next all =>
      subst all
      exact (List.filter_eq_self.mpr fun _ _ => rfl).symm
    next => rfl
  have byName : ∀ rows : List ListingRow, (if name = [] then rows
      else rows.filter (nameContains name)) =
        rows.filter (nameContains name) := by
    intro rows
    split
    next empty =>
      subst empty
      refine (List.filter_eq_self.mpr fun row _ => ?_).symm
      simp [nameContains]
    next => rfl
  unfold deriveListing matching
  simp only [byType]
  rw [byName, List.filter_filter]
  refine List.filter_congr fun row _ => ?_
  rw [Bool.decide_and, Bool.decide_coe, Bool.decide_coe, Bool.and_comm]

theorem matching_all (content : List ListingRow) :
    matching content .all [] = content :=
  List.filter_eq_self.mpr fun row _ => by
    simp [TypeFilter.admits, nameContains]

/-- What is derived from a complete listing serves the filters: it cannot
exceed the cap, since the complete listing did not. -/
theorem deriveListing_serves {listingCap : Nat} {content : List ListingRow}
    {full : Listing} (serves : Serves listingCap content .all [] full)
    (notTruncated : full.truncated = false) (type : TypeFilter)
    (name : Text) :
    Serves listingCap content type name (deriveListing full type name) := by
  have complete := serves.complete notTruncated
  have fits : content.length ≤ listingCap := by
    have untruncated := serves.truncated
    rw [notTruncated, matching_all] at untruncated
    simpa using untruncated
  rw [matching_all] at complete
  have table : (deriveListing full type name).table.Perm
      (matching content type name) := by
    rw [deriveListing_table]
    exact complete.filter _
  refine ⟨?_, fun _ => table, fun cut => nomatch cut⟩
  have shorter : (matching content type name).length ≤ content.length :=
    List.length_filter_le _ _
  have short : ¬ listingCap < (matching content type name).length := by omega
  exact ⟨fun cut => (nomatch cut), fun exceeds => absurd exceeds short⟩

end Catwalk
