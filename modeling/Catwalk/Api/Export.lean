import Catwalk.Api.Disposition
import Catwalk.Catalog.Timestamp
import Catwalk.Data.Csv
import Catwalk.Listing.Page
import Catwalk.Rollup.Compute

/-! The CSV exports of `app.py`: what a reader of the file finds in it. -/

namespace Catwalk.Api

structure HttpError where
  status : Nat
  detail : Text
  deriving DecidableEq

/-- A cell of a string or of an integer column. -/
inductive Value
  | text (value : Option Text)
  | number (value : Option Int)
  deriving DecidableEq

structure Table where
  names : List Text
  rows : List (List Value)

/-- pyarrow's cast of a timestamp to a string, and its `write_csv`. -/
structure ArrowCsv where
  cast : Int → Text
  writeCsv : Table → List UInt8

/-- `[=+@\-\t\r\n]` at the start -/
def startsFormula : Text → Bool
  | [] => false
  | char :: _ => ['=', '+', '@', '-', '\t', '\r', '\n'].contains char

def guard (text : Text) : Text :=
  if startsFormula text then '\'' :: text else text

def Value.guard : Value → Value
  | .text value => .text (value.map Api.guard)
  | .number value => .number value

/-- `_spreadsheet_safe` -/
def spreadsheetSafe (table : Table) : Table :=
  { table with rows := table.rows.map (·.map Value.guard) }

def chunkSize : Nat := 1024 ^ 2

/-- `while data := buf.read(1024**2)` -/
def readChunks (buf : List UInt8) : List (List UInt8) :=
  if buf = [] then [] else buf.take chunkSize :: readChunks (buf.drop chunkSize)
termination_by buf.length
decreasing_by
  have positive : 0 < chunkSize := by decide
  have some_byte : 0 < buf.length := List.length_pos_iff.mpr ‹_›
  rw [List.length_drop]
  omega

structure CsvResponse where
  headers : List (String × Text)
  chunks : List (List UInt8)

/-- `_csv_response` -/
def csvResponse (arrow : ArrowCsv) (table : Table) (filename : Text)
    (extraHeaders : List (String × Text)) : CsvResponse where
  headers := ("Content-Disposition", safeContentDisposition filename) :: extraHeaders
  chunks := readChunks (arrow.writeCsv (spreadsheetSafe table))

/-- `pc.replace_substring` of one character, once -/
def replaceFirst (pattern : Char) (replacement : Text) : Text → Text
  | [] => []
  | char :: later =>
      if char = pattern then replacement ++ later
      else char :: replaceFirst pattern replacement later

/-- `LISTING_COLUMNS` -/
def listingColumns : List Text :=
  ["name".toList, "element_type".toList, "size".toList, "used".toList,
    "mtime".toList, "atime".toList, "owner_name".toList, "extension".toList,
    "nlinks".toList]

def timeCell (arrow : ArrowCsv) (time : Option Int) : Value :=
  .text (time.map fun ns => replaceFirst ' ' ['T'] (arrow.cast ns))

def listingCells (arrow : ArrowCsv) (row : ListingRow) : List Value :=
  [.text (some row.name), .text (row.elementType.map String.toList),
    .number row.size, .number row.used, timeCell arrow row.mtime,
    timeCell arrow row.atime, .text row.ownerName, .text row.extension,
    .number row.nlinks]

/-- `normalize_prefix(path).strip("/").replace("/", "_") or "root"` -/
def safeName (path : Text) : Text :=
  let isSlash := fun char : Char => char == '/'
  let stripped := ((normalizePrefix path).dropWhile isSlash).rdropWhile isSlash
  let safe := stripped.map fun char => if char = '/' then '_' else char
  if safe = [] then "root".toList else safe

/-- `api_export_listing`; `answer` is that of `listing_table`. -/
def exportListing (arrow : ArrowCsv) (path : Text) (type : String)
    (answer : Except Text (List ListingRow × Bool)) :
    Except HttpError CsvResponse :=
  if type ∉ ["all", "file", "dir", "other"] then
    .error ⟨400, "type must be all|file|dir|other".toList⟩
  else
    match answer with
    | .error e => .error ⟨502, "catalog query failed: ".toList ++ e⟩
    | .ok (rows, truncated) =>
        let suffix := if truncated then "-TRUNCATED".toList else []
        .ok (csvResponse arrow ⟨listingColumns, rows.map (listingCells arrow)⟩
          ("catwalk-listing-".toList ++ safeName path ++ suffix ++ ".csv".toList)
          [("X-Catwalk-Truncated", (if truncated then "true" else "false").toList),
            ("X-Catwalk-Row-Count", Numeral.written 10 rows.length)])

def rollupColumns : List Text :=
  ["folder".toList, "file_count".toList, "total_bytes".toList,
    "total_used".toList, "last_modified".toList, "last_accessed".toList]

def rollupCells (child : Child) : List Value :=
  [.text (some child.name), .number (some child.fileCount),
    .number (some child.totalBytes), .number (some child.totalUsed),
    .text (some child.lastModified), .text (some child.lastAccessed)]

/-- `api_export_rollup`; `cached` is the answer of the rollup cache. -/
def exportRollup (arrow : ArrowCsv) (cfg : RollupConfig) (path : Text) (depth : Int)
    (cached : Option RollupResult) : Except HttpError CsvResponse :=
  if depth < 1 ∨ cfg.rollupMaxDepth < depth then
    .error ⟨400, "depth must be between 1 and ".toList ++
      Numeral.written 10 cfg.rollupMaxDepth⟩
  else
    match cached with
    | none => .error ⟨404, ("rollup not computed yet -- request /api/rollup " ++
        "for this path first").toList⟩
    | some result =>
        .ok (csvResponse arrow ⟨rollupColumns, result.children.map rollupCells⟩
          ("catwalk-rollup-".toList ++ safeName path ++ ".csv".toList) [])

/-! What pyarrow documents. -/

/-- Strings are quoted, integers are not, and null is an empty field. -/
def Value.field : Value → Csv.Field
  | .text (some value) => .quoted value
  | .number (some value) => .bare (Numeral.decimal value)
  | .text none | .number none => .bare []

/-- A timestamp prints with a space between its date and its time. -/
def castLayout : List (Nat × Text) :=
  [(4, ['-']), (2, ['-']), (2, [' ']), (2, [':']), (2, [':']), (2, ['.']), (9, [])]

structure ArrowCsv.Documented (arrow : ArrowCsv) : Prop where
  cast : ∀ ns, InCalendar ns →
    arrow.cast ns = Numeral.fields castLayout (stamp ns)
  writeCsv : ∀ table, arrow.writeCsv table = Percent.utf8
    (Csv.render (table.names.map .quoted :: table.rows.map (·.map Value.field)))

/-! The body. -/

theorem flatten_readChunks (buf : List UInt8) :
    (readChunks buf).flatten = buf := by
  fun_induction readChunks buf with
  | case1 => rfl
  | case2 buf _ ih => rw [List.flatten_cons, ih, List.take_append_drop]

theorem length_readChunks (buf : List UInt8) :
    ∀ chunk ∈ readChunks buf, chunk ≠ [] ∧ chunk.length ≤ chunkSize := by
  fun_induction readChunks buf with
  | case1 => exact fun _ member => absurd member List.not_mem_nil
  | case2 buf some_byte ih =>
      intro chunk member
      rcases List.mem_cons.mp member with rfl | later
      · refine ⟨?_, List.length_take_le _ _⟩
        intro empty
        rcases List.take_eq_nil_iff.mp empty with none_read | nothing
        · exact absurd none_read (by decide)
        · exact some_byte nothing
      · exact ih chunk later

theorem digit_plain : ∀ value, value < 10 →
    Numeral.digit value ≠ '"' ∧ Numeral.digit value ≠ ',' ∧
      Numeral.digit value ≠ '\n' ∧ Numeral.digit value ≠ ' ' ∧
      Numeral.digit value ≠ '-' := by decide

theorem written_plain {number : Nat} {char : Char}
    (member : char ∈ Numeral.written 10 number) :
    char ≠ '"' ∧ char ≠ ',' ∧ char ≠ '\n' ∧ char ≠ ' ' ∧ char ≠ '-' := by
  obtain ⟨value, small, rfl⟩ := Numeral.mem_padded (by decide) member
  exact digit_plain value small

theorem decimal_plain (number : Int) : (Csv.Field.bare (Numeral.decimal number)).Plain := by
  intro char member
  rw [Numeral.decimal] at member
  split at member
  · rcases List.mem_cons.mp member with rfl | later
    · decide
    · obtain ⟨noQuote, noComma, noEnd, _⟩ := written_plain later
      exact ⟨noQuote, noComma, noEnd⟩
  · obtain ⟨noQuote, noComma, noEnd, _⟩ := written_plain member
    exact ⟨noQuote, noComma, noEnd⟩

theorem field_plain (value : Value) : value.field.Plain := by
  cases value with
  | text value =>
      cases value with
      | none => exact fun _ member => absurd member List.not_mem_nil
      | some text => trivial
  | number value =>
      cases value with
      | none => exact fun _ member => absurd member List.not_mem_nil
      | some number => exact decimal_plain number

theorem startsFormula_guard (text : Text) : startsFormula (guard text) = false := by
  rw [guard]
  split
  · rfl
  next harmless => simpa using harmless

/-- A body reads as its header and its rows, and no quoted field of a row starts
a formula. -/
theorem csvResponse_reads {arrow : ArrowCsv} (documented : arrow.Documented)
    {table : Table} (columns : table.names ≠ [])
    (filled : ∀ row ∈ table.rows, row ≠ []) (filename : Text)
    (extraHeaders : List (String × Text)) :
    ∃ text, (csvResponse arrow table filename extraHeaders).chunks.flatten =
        Percent.utf8 text ∧
      Csv.read text = some (table.names.map .quoted ::
        table.rows.map (·.map fun value => value.guard.field)) := by
  have rows : (spreadsheetSafe table).rows.map (·.map Value.field) =
      table.rows.map (·.map fun value => value.guard.field) := by
    simp [spreadsheetSafe, Function.comp_def]
  refine ⟨_, (flatten_readChunks _).trans (documented.writeCsv _), ?_⟩
  rw [rows]
  apply Csv.read_render
  · intro row member
    rcases List.mem_cons.mp member with rfl | inBody
    · exact fun empty => columns (List.map_eq_nil_iff.mp empty)
    · obtain ⟨cells, inTable, rfl⟩ := List.mem_map.mp inBody
      exact fun empty => filled cells inTable (List.map_eq_nil_iff.mp empty)
  · intro row member field inRow
    rcases List.mem_cons.mp member with rfl | inBody
    · obtain ⟨name, _, rfl⟩ := List.mem_map.mp inRow
      trivial
    · obtain ⟨cells, _, rfl⟩ := List.mem_map.mp inBody
      obtain ⟨value, _, rfl⟩ := List.mem_map.mp inRow
      exact field_plain _

theorem guard_field_safe {value : Value} {text : Text}
    (quoted : value.guard.field = .quoted text) : startsFormula text = false := by
  cases value with
  | text value =>
      cases value with
      | none => cases quoted
      | some value =>
          cases quoted
          exact startsFormula_guard value
  | number value => cases value <;> cases quoted

/-! Times. -/

theorem replaceFirst_append {pattern : Char} {before : Text}
    (absent : pattern ∉ before) (replacement behind : Text) :
    replaceFirst pattern replacement (before ++ pattern :: behind) =
      before ++ replacement ++ behind := by
  induction before with
  | nil => exact if_pos rfl
  | cons char before ih =>
      have other : char ≠ pattern := by
        rintro rfl
        exact absent List.mem_cons_self
      have later : pattern ∉ before := fun member =>
        absent (List.mem_cons_of_mem char member)
      rw [List.cons_append, replaceFirst, if_neg other, ih later]
      rfl

/-- The cast with a `T` in place of the space is the text of `ns_to_iso`. -/
theorem replaceFirst_cast {arrow : ArrowCsv} (documented : arrow.Documented)
    {ns : Int} (inside : InCalendar ns) :
    replaceFirst ' ' ['T'] (arrow.cast ns) = nsToIso (some ns) := by
  have noSpace : ∀ width number, ' ' ∉ Numeral.padded 10 width number := by
    intro width number member
    obtain ⟨value, small, same⟩ := Numeral.mem_padded (by decide) member
    exact (digit_plain value small).2.2.2.1 same.symm
  rw [documented.cast ns inside, nsToIso_eq_fields inside]
  obtain ⟨year, month, day, clock, parts⟩ : ∃ year month day, ∃ clock : List Nat,
      stamp ns = year :: month :: day :: clock := ⟨_, _, _, _, rfl⟩
  rw [parts]
  have absent : ' ' ∉ Numeral.padded 10 4 year ++ '-' ::
      (Numeral.padded 10 2 month ++ '-' :: Numeral.padded 10 2 day) := by
    simp [noSpace]
  have replaced := replaceFirst_append absent ['T']
    (Numeral.fields [(2, [':']), (2, [':']), (2, ['.']), (9, [])] clock)
  simpa [castLayout, stampLayout, Numeral.fields] using replaced

theorem startsFormula_time {ns : Int} (inside : InCalendar ns) :
    startsFormula (nsToIso (some ns)) = false := by
  have harmless : ∀ value, value < 10 →
      startsFormula [Numeral.digit value] = false := by decide
  obtain ⟨year, later, parts⟩ : ∃ year later, stamp ns = year :: later :=
    ⟨_, _, rfl⟩
  rw [nsToIso_eq_fields inside, parts, stampLayout, Numeral.fields]
  cases written : Numeral.padded 10 4 year with
  | nil =>
      have length := Numeral.length_padded 10 4 year
      rw [written] at length
      cases length
  | cons char others =>
      obtain ⟨value, small, rfl⟩ := Numeral.mem_padded (by decide)
        (written ▸ List.mem_cons_self : char ∈ Numeral.padded 10 4 year)
      exact harmless value small

theorem nsToIso_ne_nil {ns : Int} (inside : InCalendar ns) :
    nsToIso (some ns) ≠ [] := by
  obtain ⟨year, later, parts⟩ : ∃ year later, stamp ns = year :: later :=
    ⟨_, _, rfl⟩
  rw [nsToIso_eq_fields inside, parts, stampLayout, Numeral.fields]
  simp [Numeral.padded]

/-! The rows of a listing. -/

def textField : Option Text → Csv.Field
  | none => .bare []
  | some text => .quoted (guard text)

def numberField : Option Int → Csv.Field
  | none => .bare []
  | some number => .bare (Numeral.decimal number)

def timeField (time : Text) : Csv.Field :=
  if time = [] then .bare [] else .quoted time

/-- The fields of an entry as `list_page` answers it. -/
def record (entry : EntryJson) : List Csv.Field :=
  [.quoted (guard entry.name), textField (entry.elementType.map String.toList),
    numberField entry.size, numberField entry.used, timeField entry.mtime,
    timeField entry.atime, textField entry.ownerName, textField entry.extension,
    numberField entry.nlinks]

theorem field_guard_text (value : Option Text) :
    (Value.text value).guard.field = textField value := by
  cases value <;> rfl

theorem field_guard_number (value : Option Int) :
    (Value.number value).guard.field = numberField value := by
  cases value <;> rfl

theorem field_guard_time {arrow : ArrowCsv} (documented : arrow.Documented)
    {time : Option Int} (shown : Shown time) :
    (timeCell arrow time).guard.field = timeField (nsToIso time) := by
  cases time with
  | none => rfl
  | some ns =>
      have inside := shown ns rfl
      rw [timeCell, field_guard_text, timeField, if_neg (nsToIso_ne_nil inside),
        Option.map_some, replaceFirst_cast documented inside, textField, guard,
        startsFormula_time inside]
      rfl

theorem fields_listingCells {arrow : ArrowCsv} (documented : arrow.Documented)
    {row : ListingRow} (mtime : Shown row.mtime) (atime : Shown row.atime) :
    (listingCells arrow row).map (fun value => value.guard.field) =
      record (entryJson row) := by
  simp only [listingCells, List.map_cons, List.map_nil, field_guard_text,
    field_guard_number, field_guard_time documented mtime,
    field_guard_time documented atime]
  rfl

theorem exportListing_body {arrow : ArrowCsv} (documented : arrow.Documented)
    {type : String} (known : type ∈ ["all", "file", "dir", "other"]) (path : Text)
    (rows : List ListingRow) (truncated : Bool) :
    ∃ response text,
      exportListing arrow path type (.ok (rows, truncated)) = .ok response ∧
      response.chunks.flatten = Percent.utf8 text ∧
      Csv.read text = some (listingColumns.map .quoted :: rows.map fun row =>
        (listingCells arrow row).map fun value => value.guard.field) ∧
      response.headers.lookup "X-Catwalk-Row-Count" =
        some (Numeral.written 10 rows.length) := by
  have columns : (Table.mk listingColumns (rows.map (listingCells arrow))).names ≠ [] :=
    List.cons_ne_nil _ _
  have filled : ∀ cells ∈ (Table.mk listingColumns
      (rows.map (listingCells arrow))).rows, cells ≠ [] := by
    intro cells member
    obtain ⟨row, _, rfl⟩ := List.mem_map.mp member
    exact List.cons_ne_nil _ _
  obtain ⟨text, body, reads⟩ := csvResponse_reads documented columns filled
    ("catwalk-listing-".toList ++ safeName path ++
      (if truncated then "-TRUNCATED".toList else []) ++ ".csv".toList)
    [("X-Catwalk-Truncated", (if truncated then "true" else "false").toList),
      ("X-Catwalk-Row-Count", Numeral.written 10 rows.length)]
  rw [List.map_map] at reads
  exact ⟨_, text, if_neg (not_not.mpr known), body, reads, rfl⟩

/-- An export reads, field by field and in order, as the entries that the pages of
the listing show, and no text in it starts a formula. -/
theorem exportListing_reads {arrow : ArrowCsv} (documented : arrow.Documented)
    {type : String} (known : type ∈ ["all", "file", "dir", "other"])
    {rows : List ListingRow}
    (times : ∀ row ∈ rows, Shown row.mtime ∧ Shown row.atime) (path : Text)
    (truncated : Bool) :
    ∃ response text records,
      exportListing arrow path type (.ok (rows, truncated)) = .ok response ∧
      response.chunks.flatten = Percent.utf8 text ∧
      Csv.read text = some (listingColumns.map .quoted :: records) ∧
      records = rows.map (fun row => record (entryJson row)) ∧
      (∀ record ∈ records, ∀ text, .quoted text ∈ record →
        startsFormula text = false) ∧
      (∀ chunk ∈ response.chunks, chunk.length ≤ chunkSize) ∧
      response.headers.lookup "X-Catwalk-Row-Count" =
        some (Numeral.written 10 records.length) := by
  obtain ⟨response, text, answered, body, reads, count⟩ :=
    exportListing_body documented known path rows truncated
  refine ⟨response, text, _, answered, body, reads, ?_, ?_, ?_, ?_⟩
  · apply List.map_congr_left
    intro row member
    exact fields_listingCells documented (times row member).1 (times row member).2
  · intro record member quoted inRecord
    obtain ⟨row, _, rfl⟩ := List.mem_map.mp member
    obtain ⟨value, _, same⟩ := List.mem_map.mp inRecord
    exact guard_field_safe same
  · rw [exportListing, if_neg (not_not.mpr known)] at answered
    cases answered
    exact fun chunk member => (length_readChunks _ chunk member).2
  · rw [count, List.length_map]

def sampleArrow : ArrowCsv where
  cast ns := Numeral.fields castLayout (stamp ns)
  writeCsv table := Percent.utf8
    (Csv.render (table.names.map .quoted :: table.rows.map (·.map Value.field)))

theorem sampleArrow_documented : sampleArrow.Documented :=
  ⟨fun _ _ => rfl, fun _ => rfl⟩

def sampleRow : ListingRow where
  name := "=1+1,\"x\"".toList
  elementType := some "FILE"
  size := some 12
  used := none
  mtime := some 1786561285000000007
  atime := none
  ownerName := some []
  extension := none
  nlinks := some 1

theorem sampleRow_times : Shown sampleRow.mtime ∧ Shown sampleRow.atime := by
  constructor
  · rintro ns ⟨⟩
    exact inCalendar_of_int64 (by decide) (by decide)
  · rintro ns ⟨⟩

theorem sampleRow_reads :
    ∃ response text records,
      exportListing sampleArrow "/a/b".toList "all" (.ok ([sampleRow], true)) =
        .ok response ∧
      response.chunks.flatten = Percent.utf8 text ∧
      Csv.read text = some (listingColumns.map .quoted :: records) ∧
      records = [record (entryJson sampleRow)] := by
  have times : ∀ row ∈ [sampleRow], Shown row.mtime ∧ Shown row.atime := by
    intro row member
    rw [List.mem_singleton.mp member]
    exact sampleRow_times
  obtain ⟨response, text, records, answered, body, reads, same, _⟩ :=
    @exportListing_reads sampleArrow sampleArrow_documented "all" (by decide)
      [sampleRow] times "/a/b".toList true
  exact ⟨response, text, records, answered, body, reads, same⟩

/-- The export of a rollup reads as all children of the cached result, whatever
the responses cut off. -/
theorem exportRollup_reads {arrow : ArrowCsv} (documented : arrow.Documented)
    (cfg : RollupConfig) (path : Text) {depth : Int} (positive : 1 ≤ depth)
    (bounded : depth ≤ cfg.rollupMaxDepth) (result : RollupResult) :
    ∃ response text,
      exportRollup arrow cfg path depth (some result) = .ok response ∧
      response.chunks.flatten = Percent.utf8 text ∧
      Csv.read text = some (rollupColumns.map .quoted ::
        result.children.map fun child =>
          [.quoted (guard child.name), .bare (Numeral.decimal child.fileCount),
            .bare (Numeral.decimal child.totalBytes), .bare (Numeral.decimal child.totalUsed),
            .quoted (guard child.lastModified),
            .quoted (guard child.lastAccessed)]) := by
  have columns : (Table.mk rollupColumns
      (result.children.map rollupCells)).names ≠ [] := List.cons_ne_nil _ _
  have filled : ∀ cells ∈ (Table.mk rollupColumns
      (result.children.map rollupCells)).rows, cells ≠ [] := by
    intro cells member
    obtain ⟨child, _, rfl⟩ := List.mem_map.mp member
    exact List.cons_ne_nil _ _
  obtain ⟨text, body, reads⟩ := csvResponse_reads documented columns filled
    ("catwalk-rollup-".toList ++ safeName path ++ ".csv".toList) []
  rw [List.map_map] at reads
  refine ⟨_, text, if_neg ?_, body, reads⟩
  omega

/-! What the fields of a row leave open: nothing, where no text reads as one that
was guarded. -/

def Unguarded (text : Text) : Prop :=
  ∀ later, text = '\'' :: later → startsFormula later = false

theorem guard_inj {first second : Text} (plain : Unguarded first)
    (plain' : Unguarded second) (same : guard first = guard second) :
    first = second := by
  have quoted : ∀ text other : Text, Unguarded other → startsFormula text = true →
      startsFormula other = false → '\'' :: text ≠ other := by
    intro text other plain formula _ same
    rw [plain text same.symm] at formula
    cases formula
  rw [guard, guard] at same
  split at same <;> split at same
  · exact List.tail_eq_of_cons_eq same
  next formula harmless =>
      exact absurd same (quoted first second plain' formula (by simpa using harmless))
  next harmless formula =>
      exact absurd same.symm
        (quoted second first plain formula (by simpa using harmless))
  · exact same

theorem written_ne_nil (number : Nat) : Numeral.written 10 number ≠ [] := by
  rw [Numeral.written, Numeral.padded]
  simp

theorem numberField_inj {first second : Option Int}
    (same : numberField first = numberField second) : first = second := by
  have shown : ∀ number, Numeral.decimal number ≠ [] := by
    intro number
    rw [Numeral.decimal]
    split
    · exact List.cons_ne_nil _ _
    · exact written_ne_nil _
  cases first <;> cases second <;> simp only [numberField, Csv.Field.bare.injEq] at same
  · rfl
  · exact absurd same.symm (shown _)
  · exact absurd same (shown _)
  · rw [Numeral.decimal_inj same]

theorem textField_inj {first second : Option Text}
    (plain : ∀ text ∈ first, Unguarded text)
    (plain' : ∀ text ∈ second, Unguarded text)
    (same : textField first = textField second) : first = second := by
  cases first with
  | none =>
      cases second with
      | none => rfl
      | some second => cases same
  | some first =>
      cases second with
      | none => cases same
      | some second =>
          rw [guard_inj (plain first rfl) (plain' second rfl)
            (Csv.Field.quoted.inj same)]

theorem timeField_inj {first second : Option Int} (shown : Shown first)
    (shown' : Shown second)
    (same : timeField (nsToIso first) = timeField (nsToIso second)) :
    first = second := by
  have texts : nsToIso first = nsToIso second := by
    rw [timeField, timeField] at same
    split at same <;> split at same
    next none_shown none_shown' => exact none_shown.trans none_shown'.symm
    · cases same
    · cases same
    · exact Csv.Field.quoted.inj same
  cases first with
  | none =>
      cases second with
      | none => rfl
      | some second => exact absurd texts.symm (nsToIso_ne_nil (shown' second rfl))
  | some first =>
      cases second with
      | none => exact absurd texts (nsToIso_ne_nil (shown first rfl))
      | some second =>
          have inside := shown first rfl
          have inside' := shown' second rfl
          rcases lt_trichotomy first second with less | equal | less
          · exact absurd texts (nsToIso_lt inside inside' less).ne
          · rw [equal]
          · exact absurd texts.symm (nsToIso_lt inside' inside less).ne

/-- A row whose times the calendar has and whose texts need no guard to be told
apart. -/
structure Legible (row : ListingRow) : Prop where
  name : Unguarded row.name
  elementType : ∀ type ∈ row.elementType, Unguarded type.toList
  ownerName : ∀ owner ∈ row.ownerName, Unguarded owner
  extension : ∀ extension ∈ row.extension, Unguarded extension
  mtime : Shown row.mtime
  atime : Shown row.atime

theorem record_inj {first second : ListingRow} (legible : Legible first)
    (legible' : Legible second)
    (same : record (entryJson first) = record (entryJson second)) :
    first = second := by
  simp only [record, entryJson, List.cons.injEq, Csv.Field.quoted.injEq] at same
  obtain ⟨name, type, size, used, mtime, atime, owner, extension, nlinks, _⟩ := same
  have named := guard_inj legible.name legible'.name name
  have sized := numberField_inj size
  have filled := numberField_inj used
  have linked := numberField_inj nlinks
  have modified := timeField_inj legible.mtime legible'.mtime mtime
  have accessed := timeField_inj legible.atime legible'.atime atime
  have owned := textField_inj legible.ownerName legible'.ownerName owner
  have extended := textField_inj legible.extension legible'.extension extension
  have typed : first.elementType = second.elementType := by
    have texts : ∀ row : ListingRow, Legible row →
        ∀ text ∈ row.elementType.map String.toList, Unguarded text := by
      intro row legible text member
      obtain ⟨type, found, rfl⟩ := Option.map_eq_some_iff.mp member
      exact legible.elementType type found
    have lists := textField_inj (texts first legible) (texts second legible') type
    exact Option.map_injective (fun _ _ => String.toList_inj.mp) lists
  cases first
  cases second
  rw [ListingRow.mk.injEq]
  exact ⟨named, typed, sized, filled, modified, accessed, owned, extended, linked⟩

theorem utf8_inj {first second : Text}
    (same : Percent.utf8 first = Percent.utf8 second) : first = second := by
  have decoded : ∀ text : Text,
      (Percent.utf8 text).toByteArray.utf8Decode?.map Array.toList = some text := by
    intro text
    have bytes : (Percent.utf8 text).toByteArray = text.utf8Encode := rfl
    simp [bytes, List.utf8Decode?_utf8Encode]
  have both := decoded first
  rw [same, decoded second] at both
  exact (Option.some.inj both).symm

theorem record_list_inj {first second : List ListingRow}
    (legible : ∀ row ∈ first, Legible row) (legible' : ∀ row ∈ second, Legible row)
    (same : first.map (fun row => record (entryJson row)) =
      second.map (fun row => record (entryJson row))) : first = second := by
  induction first generalizing second with
  | nil => exact (List.map_eq_nil_iff.mp same.symm).symm
  | cons row rest ih =>
      cases second with
      | nil => cases same
      | cons row' rest' =>
          obtain ⟨head, tail⟩ := List.cons.inj same
          rw [record_inj (legible row List.mem_cons_self)
            (legible' row' List.mem_cons_self) head]
          rw [ih (fun other member => legible other (List.mem_cons_of_mem row member))
            (fun other member => legible' other (List.mem_cons_of_mem row' member))
            tail]

/-- The body of an export determines the rows that were exported, whatever the
paths, the filters and the chunks. -/
theorem exportListing_lossless {arrow : ArrowCsv} (documented : arrow.Documented)
    {path path' : Text} {type type' : String} {rows rows' : List ListingRow}
    {truncated truncated' : Bool} {response response' : CsvResponse}
    (legible : ∀ row ∈ rows, Legible row) (legible' : ∀ row ∈ rows', Legible row)
    (exported : exportListing arrow path type (.ok (rows, truncated)) = .ok response)
    (exported' : exportListing arrow path' type' (.ok (rows', truncated')) =
      .ok response')
    (same : response.chunks.flatten = response'.chunks.flatten) : rows = rows' := by
  have reads : ∀ {path type rows truncated response},
      (∀ row ∈ rows, Legible row) →
      exportListing arrow path type (.ok (rows, truncated)) = .ok response →
      ∃ text, response.chunks.flatten = Percent.utf8 text ∧
        Csv.read text = some (listingColumns.map .quoted ::
          rows.map fun row => record (entryJson row)) := by
    intro path type rows truncated response legible exported
    have known : type ∈ ["all", "file", "dir", "other"] := by
      by_contra unknown
      rw [exportListing, if_pos unknown] at exported
      cases exported
    obtain ⟨answered, text, answers, body, read, _⟩ :=
      exportListing_body documented known path rows truncated
    cases answers.symm.trans exported
    refine ⟨text, body, read.trans ?_⟩
    congr 2
    apply List.map_congr_left
    intro row member
    exact fields_listingCells documented (legible row member).mtime
      (legible row member).atime
  obtain ⟨text, body, read⟩ := reads legible exported
  obtain ⟨text', body', read'⟩ := reads legible' exported'
  have sameText : text = text' := utf8_inj (body.symm.trans (same.trans body'))
  rw [sameText, read'] at read
  exact record_list_inj legible legible'
    (List.tail_eq_of_cons_eq (Option.some.inj read)).symm

theorem sampleRow_legible : Legible sampleRow where
  name := nofun
  elementType := by
    rintro type ⟨⟩
    exact nofun
  ownerName := by
    rintro owner ⟨⟩
    exact nofun
  extension := by
    rintro extension ⟨⟩
  mtime := sampleRow_times.1
  atime := sampleRow_times.2

theorem sampleRow_lossless :
    ∃ response response',
      exportListing sampleArrow "/a".toList "all" (.ok ([sampleRow], true)) =
        .ok response ∧
      exportListing sampleArrow "/b".toList "file" (.ok ([sampleRow], false)) =
        .ok response' ∧
      response.headers ≠ response'.headers ∧
      response.chunks = response'.chunks ∧ [sampleRow] = [sampleRow] := by
  have legible : ∀ row ∈ [sampleRow], Legible row := by
    intro row member
    rw [List.mem_singleton.mp member]
    exact sampleRow_legible
  let table : Table := ⟨listingColumns, [listingCells sampleArrow sampleRow]⟩
  have exported : exportListing sampleArrow "/a".toList "all"
      (.ok ([sampleRow], true)) = .ok (csvResponse sampleArrow table
        "catwalk-listing-a-TRUNCATED.csv".toList
        [("X-Catwalk-Truncated", "true".toList),
          ("X-Catwalk-Row-Count", ['1'])]) := rfl
  have exported' : exportListing sampleArrow "/b".toList "file"
      (.ok ([sampleRow], false)) = .ok (csvResponse sampleArrow table
        "catwalk-listing-b.csv".toList
        [("X-Catwalk-Truncated", "false".toList),
          ("X-Catwalk-Row-Count", ['1'])]) := rfl
  refine ⟨_, _, exported, exported', by decide, rfl, ?_⟩
  exact exportListing_lossless sampleArrow_documented legible legible exported
    exported' rfl

end Catwalk.Api
