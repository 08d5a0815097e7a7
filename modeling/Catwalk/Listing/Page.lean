import Catwalk.Listing.Entry
import Mathlib.Algebra.Order.Floor.Div
import Mathlib.Tactic.Positivity

/-! Pages of a listing, and the export they partition. -/

namespace Catwalk

structure PageConfig where
  pageDefault : Nat
  pageMax : Nat

/-- `sort` and `order` as they come from the query string. -/
structure PageRequest where
  page : Option Int
  pageSize : Option Int
  sort : String
  order : String

/-- One row at the JSON boundary. -/
structure EntryJson where
  name : Text
  elementType : Option String
  size : Option Int
  used : Option Int
  mtime : Text
  atime : Text
  ownerName : Option Text
  extension : Option Text
  nlinks : Option Int
  deriving DecidableEq

/-- The part of a `list_page` response that is read off the entry. -/
structure PageWindow where
  totalRows : Nat
  totalDirs : Nat
  totalFiles : Nat
  totalOther : Nat
  page : Nat
  pageSize : Nat
  pages : Nat
  truncated : Bool
  entries : List EntryJson

def clampPageSize (cfg : PageConfig) (pageSize : Option Int) : Nat :=
  (max 20 (min (cfg.pageMax : Int) (pageSize.getD cfg.pageDefault))).toNat

def entryJson (row : ListingRow) : EntryJson where
  name := row.name
  elementType := row.elementType
  size := row.size
  used := row.used
  mtime := nsToIso row.mtime
  atime := nsToIso row.atime
  ownerName := row.ownerName
  extension := row.extension
  nlinks := row.nlinks

/-- `_type_counts(table).get(element_type, 0)` -/
def typeCount (table : List ListingRow) (elementType : String) : Nat :=
  table.countP (·.elementType = some elementType)

namespace Entry

/-- `max(1, -(-total // page_size))` -/
def pages (total pageSize : Nat) : Nat :=
  (max 1 (-(-(total : Int) / pageSize))).toNat

/-- `max(1, min(int(page or 1), pages))` -/
def clampPage (page : Option Int) (pages : Nat) : Nat :=
  let requested : Int := match page with
    | none => 1
    | some page => if page = 0 then 1 else page
  (max 1 (min requested pages)).toNat

def page (sorting : Sorting) (call : Nat) (cfg : PageConfig) (entry : Entry)
    (request : PageRequest) : PageWindow × Entry :=
  let table := entry.listing.table
  let pageSize := clampPageSize cfg request.pageSize
  let total := table.length
  let pages := pages total pageSize
  let page := clampPage request.page pages
  let sorted := entry.sortedTable sorting call (.parse request.sort)
    (.parse request.order)
  let window := (sorted.1.drop ((page - 1) * pageSize)).take pageSize
  ({ totalRows := total
     totalDirs := typeCount table "DIR"
     totalFiles := typeCount table "FILE"
     totalOther := total - typeCount table "DIR" - typeCount table "FILE"
     page := page
     pageSize := pageSize
     pages := pages
     truncated := entry.listing.truncated
     entries := window.map entryJson }, sorted.2)

end Entry

end Catwalk
