import Mathlib.Data.List.Basic

/-! Comma-separated texts: a quoted field doubles its quotes, a bare one has
nothing to quote, and what is written is read back. -/

namespace Catwalk.Csv

inductive Field
  | quoted (text : List Char)
  | bare (text : List Char)
  deriving DecidableEq

namespace Field

def text : Field → List Char
  | .quoted text | .bare text => text

/-- A bare field shows no separator and no quote. -/
def Plain : Field → Prop
  | .quoted _ => True
  | .bare text => ∀ char ∈ text, char ≠ '"' ∧ char ≠ ',' ∧ char ≠ '\n'

end Field

def escape (text : List Char) : List Char :=
  text.flatMap fun char => if char = '"' then ['"', '"'] else [char]

def Field.render : Field → List Char
  | .quoted text => '"' :: escape text ++ ['"']
  | .bare text => text

def renderRow : List Field → List Char
  | [] => ['\n']
  | [field] => field.render ++ ['\n']
  | field :: next :: later => field.render ++ ',' :: renderRow (next :: later)

def render (rows : List (List Field)) : List Char := rows.flatMap renderRow

/-- Before a field, in a bare or a quoted one, and after a quote in the latter. -/
inductive Mode
  | start
  | plain
  | inside
  | closing
  deriving DecidableEq

/-- What has been read: of the field, of its row, and of the rows before. -/
structure Reader where
  mode : Mode
  field : List Char
  row : List Field
  rows : List (List Field)
  deriving DecidableEq

namespace Reader

def endField (reader : Reader) (field : Field) : Reader :=
  { reader with mode := .start, field := [], row := reader.row ++ [field] }

def endRow (reader : Reader) (field : Field) : Reader where
  mode := .start
  field := []
  row := []
  rows := reader.rows ++ [reader.row ++ [field]]

/-- One character more; a quote has no place in a bare field, nor anything but a
separator behind a closed one. -/
def feed (reader : Reader) (char : Char) : Option Reader :=
  match reader.mode with
  | .start | .plain =>
      if char = ',' then some (reader.endField (.bare reader.field))
      else if char = '\n' then some (reader.endRow (.bare reader.field))
      else if char = '"' then
        if reader.mode = .start then some { reader with mode := .inside } else none
      else some { reader with mode := .plain, field := reader.field ++ [char] }
  | .inside =>
      if char = '"' then some { reader with mode := .closing }
      else some { reader with field := reader.field ++ [char] }
  | .closing =>
      if char = '"' then
        some { reader with mode := .inside, field := reader.field ++ [char] }
      else if char = ',' then some (reader.endField (.quoted reader.field))
      else if char = '\n' then some (reader.endRow (.quoted reader.field))
      else none

def feedAll (reader : Reader) (text : List Char) : Option Reader :=
  text.foldlM feed reader

/-- Every row ends with its own line. -/
def finish (reader : Reader) : Option (List (List Field)) :=
  if reader.mode = .start ∧ reader.row = [] then some reader.rows else none

def empty : Reader := ⟨.start, [], [], []⟩

end Reader

/-- The rows of a text, or nothing where it is not of the format. -/
def read (text : List Char) : Option (List (List Field)) :=
  (Reader.empty.feedAll text).bind Reader.finish

namespace Reader

theorem feedAll_nil (reader : Reader) : reader.feedAll [] = some reader := rfl

theorem feedAll_cons {reader next : Reader} {char : Char}
    (fed : reader.feed char = some next) (later : List Char) :
    reader.feedAll (char :: later) = next.feedAll later := by
  rw [feedAll, List.foldlM_cons, fed]
  rfl

theorem feedAll_append {reader next : Reader} {text : List Char}
    (fed : reader.feedAll text = some next) (later : List Char) :
    reader.feedAll (text ++ later) = next.feedAll later := by
  rw [feedAll, List.foldlM_append]
  rw [feedAll] at fed
  rw [fed]
  rfl

theorem feedAll_escapeChar (char : Char) (field : List Char) (row : List Field)
    (rows : List (List Field)) :
    (Reader.mk .inside field row rows).feedAll
        (if char = '"' then ['"', '"'] else [char]) =
      some ⟨.inside, field ++ [char], row, rows⟩ := by
  split
  next isQuote =>
      subst isQuote
      rfl
  next other =>
      have fed : (Reader.mk .inside field row rows).feed char =
          some ⟨.inside, field ++ [char], row, rows⟩ := if_neg other
      rw [feedAll_cons fed, feedAll_nil]

/-- An escaped text is read inside the quotes. -/
theorem feedAll_escape (text : List Char) (field : List Char) (row : List Field)
    (rows : List (List Field)) :
    (Reader.mk .inside field row rows).feedAll (escape text) =
      some ⟨.inside, field ++ text, row, rows⟩ := by
  induction text generalizing field with
  | nil =>
      rw [List.append_nil]
      rfl
  | cons char later ih =>
      have rest := ih (field ++ [char])
      rw [List.append_assoc] at rest
      rw [escape, List.flatMap_cons,
        feedAll_append (feedAll_escapeChar char field row rows)]
      exact rest

/-- A bare text is read up to its separator. -/
theorem feedAll_plain {text : List Char} (isPlain : (Field.bare text).Plain) :
    ∀ mode field row rows, mode = .start ∨ mode = .plain →
      ∃ ahead, (ahead = .start ∨ ahead = .plain) ∧
        (Reader.mk mode field row rows).feedAll text =
          some ⟨ahead, field ++ text, row, rows⟩ := by
  induction text with
  | nil =>
      intro mode field row rows opened
      refine ⟨mode, opened, ?_⟩
      rw [List.append_nil]
      rfl
  | cons char later ih =>
      intro mode field row rows opened
      obtain ⟨noQuote, noComma, noEnd⟩ := isPlain char List.mem_cons_self
      have fed : (Reader.mk mode field row rows).feed char =
          some ⟨.plain, field ++ [char], row, rows⟩ := by
        rcases opened with rfl | rfl <;>
          simp [feed, noQuote, noComma, noEnd]
      obtain ⟨ahead, still, read⟩ := ih
        (fun other member => isPlain other (List.mem_cons_of_mem char member))
        .plain (field ++ [char]) row rows (.inr rfl)
      refine ⟨ahead, still, ?_⟩
      rw [feedAll_cons fed, read, List.append_assoc]
      rfl

/-- A field together with the separator behind it. -/
theorem feedAll_field {field : Field} (isPlain : field.Plain) {separator : Char}
    (row : List Field) (rows : List (List Field)) (later : List Char) :
    (separator = ',' →
      (Reader.mk .start [] row rows).feedAll (field.render ++ separator :: later) =
        (Reader.mk .start [] (row ++ [field]) rows).feedAll later) ∧
    (separator = '\n' →
      (Reader.mk .start [] row rows).feedAll (field.render ++ separator :: later) =
        (Reader.mk .start [] [] (rows ++ [row ++ [field]])).feedAll later) := by
  cases field with
  | bare text =>
      obtain ⟨ahead, still, read⟩ :=
        feedAll_plain isPlain .start [] row rows (.inl rfl)
      rw [Field.render, feedAll_append read]
      constructor <;> rintro rfl <;> rcases still with rfl | rfl <;>
        exact feedAll_cons rfl later
  | quoted text =>
      have opened : (Reader.mk .start [] row rows).feed '"' =
          some ⟨.inside, [], row, rows⟩ := rfl
      have closed : (Reader.mk .inside text row rows).feed '"' =
          some ⟨.closing, text, row, rows⟩ := rfl
      have inner : (Reader.mk .start [] row rows).feedAll
          (Field.render (.quoted text)) = some ⟨.closing, text, row, rows⟩ := by
        rw [Field.render, List.cons_append, feedAll_cons opened,
          feedAll_append (feedAll_escape text [] row rows), List.nil_append,
          feedAll_cons closed]
        rfl
      rw [feedAll_append inner]
      constructor <;> rintro rfl <;> exact feedAll_cons rfl later

theorem feedAll_renderRow {fields : List Field} (some_field : fields ≠ [])
    (arePlain : ∀ field ∈ fields, field.Plain) :
    ∀ (row : List Field) (rows : List (List Field)) (later : List Char),
      (Reader.mk .start [] row rows).feedAll (renderRow fields ++ later) =
        (Reader.mk .start [] [] (rows ++ [row ++ fields])).feedAll later := by
  induction fields with
  | nil => exact absurd rfl some_field
  | cons field rest ih =>
      intro row rows later
      have isPlain := arePlain field List.mem_cons_self
      cases rest with
      | nil =>
          rw [renderRow, List.append_assoc]
          exact (feedAll_field isPlain row rows later).2 rfl
      | cons next others =>
          rw [renderRow, List.append_assoc, List.cons_append,
            (feedAll_field isPlain row rows _).1 rfl,
            ih nofun (fun other member =>
              arePlain other (List.mem_cons_of_mem field member))]
          simp

end Reader

/-- What is written is read back, field by field. -/
theorem read_render {rows : List (List Field)} (some_fields : ∀ row ∈ rows, row ≠ [])
    (arePlain : ∀ row ∈ rows, ∀ field ∈ row, field.Plain) :
    read (render rows) = some rows := by
  have fed : ∀ before : List (List Field),
      (Reader.mk .start [] [] before).feedAll (render rows) =
        some ⟨.start, [], [], before ++ rows⟩ := by
    induction rows with
    | nil =>
        intro before
        rw [List.append_nil]
        rfl
    | cons row later ih =>
        intro before
        rw [render, List.flatMap_cons,
          Reader.feedAll_renderRow (some_fields row List.mem_cons_self)
            (arePlain row List.mem_cons_self)]
        have rest := ih
          (fun other member => some_fields other (List.mem_cons_of_mem row member))
          (fun other member => arePlain other (List.mem_cons_of_mem row member))
          (before ++ [row])
        rw [List.append_assoc] at rest
        exact rest
  rw [read, Reader.empty, fed []]
  rfl

example : read (render [[.quoted "a\"b".toList, .bare []], [.bare ['7']]]) =
    some [[.quoted "a\"b".toList, .bare []], [.bare ['7']]] := by decide

end Catwalk.Csv
