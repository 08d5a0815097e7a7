import Catwalk.Catalog.Path
import Catwalk.Data.OrderedDict
import Catwalk.Data.SortKey
import Mathlib.Data.List.Lex
import Mathlib.Data.Char
import Mathlib.Data.Bool.Basic

/-! Directory listings: rows, cached entries and their sorted variants. -/

namespace Catwalk

/-- The listing columns of one directory entry. -/
structure ListingRow where
  name : Text
  elementType : Option String
  size : Option Int
  used : Option Int
  mtime : Option Int
  atime : Option Int
  ownerName : Option Text
  extension : Option Text
  nlinks : Option Int
  deriving DecidableEq

/-- A directory listing as it is cached. -/
structure Listing where
  table : List ListingRow
  truncated : Bool
  elapsedS : Rat
  deriving DecidableEq

inductive SortColumn
  | name
  | size
  | mtime
  | atime
  | ownerName
  deriving DecidableEq

inductive SortOrder
  | ascending
  | descending
  deriving DecidableEq

/-- Anything but a sort key sorts by name. -/
def SortColumn.parse (sort : String) : SortColumn :=
  if sort = "size" then .size
  else if sort = "mtime" then .mtime
  else if sort = "atime" then .atime
  else if sort = "owner_name" then .ownerName
  else .name

def SortOrder.parse (order : String) : SortOrder :=
  if order = "desc" ∨ order = "descending" then .descending else .ascending

/-- `pc.not_equal(element_type, "DIR")`; null stays null. -/
def ListingRow.isFile (row : ListingRow) : Option Bool :=
  row.elementType.map (· ≠ "DIR")

def SortOrder.key {Value : Type} [LinearOrder Value] (order : SortOrder)
    (column : ListingRow → Option Value) : SortKey ListingRow :=
  match order with
  | .ascending => .ascending column
  | .descending => .descending column

def SortColumn.key (sort : SortColumn) (order : SortOrder) :
    SortKey ListingRow :=
  match sort with
  | .name => order.key fun row => some row.name
  | .size => order.key ListingRow.size
  | .mtime => order.key ListingRow.mtime
  | .atime => order.key ListingRow.atime
  | .ownerName => order.key ListingRow.ownerName

/-- The keys given to `sort_by`. -/
def sortKeys (sort : SortColumn) (order : SortOrder) :
    List (SortKey ListingRow) :=
  if sort = .name then [.ascending ListingRow.isFile, sort.key order]
  else [sort.key order, .ascending ListingRow.isFile,
    .ascending fun row => some row.name]

/-- `pyarrow`'s `sort_by`, call by call: it sorts by the keys, one after the
other, nulls last. -/
structure Sorting where
  sortBy : Nat → List (SortKey ListingRow) → List ListingRow → List ListingRow
  perm : ∀ call keys rows, (sortBy call keys rows).Perm rows
  sorted : ∀ call keys rows, SortKey.Sorted keys (sortBy call keys rows)

def maxSortVariants : Nat := 3

/-- A listing with its sorted variants, oldest first. -/
structure Entry where
  listing : Listing
  sorted : OrderedDict (SortColumn × SortOrder) (List ListingRow)

namespace Entry

def new (listing : Listing) : Entry := ⟨listing, .empty⟩

/-- `while len(sorted) > _MAX_SORT_VARIANTS: sorted.pop(next(iter(sorted)))` -/
def trim {Key Value : Type} : Nat → OrderedDict Key Value →
    OrderedDict Key Value
  | 0, variants => variants
  | fuel + 1, variants =>
      if variants.size ≤ maxSortVariants then variants
      else
        match variants.popFirst with
        | some (_, rest) => trim fuel rest
        | none => variants

/-- `_sorted_table`, a memo of at most three variants. -/
def sortedTable (sorting : Sorting) (call : Nat) (entry : Entry)
    (sort : SortColumn) (order : SortOrder) : List ListingRow × Entry :=
  match entry.sorted.get? (sort, order) with
  | some cached => (cached, entry)
  | none =>
      let out := sorting.sortBy call (sortKeys sort order) entry.listing.table
      let variants := entry.sorted.set (sort, order) out
      (out, { entry with sorted := trim variants.size variants })

/-- Every variant is the table sorted by its keys. -/
structure Sound (entry : Entry) : Prop where
  variants : ∀ sort order table,
    entry.sorted.get? (sort, order) = some table →
      table.Perm entry.listing.table ∧
        SortKey.Sorted (sortKeys sort order) table
  bounded : entry.sorted.size ≤ maxSortVariants

end Entry

end Catwalk
