import Catwalk.Data.OrderedDict
import Catwalk.Data.Regex
import Catwalk.Data.Strings
import Mathlib.Data.Char

/-! The settings file of `cli.py`: what is written is read back, and what the
reader refuses. -/

namespace Catwalk.Cli

/-- `sys.exit(f"{path}:{lineno}: expected KEY=VALUE, got {got!r}")` -/
structure Malformed where
  path : Text
  lineno : Nat
  got : Text
  deriving DecidableEq

/-- `[A-Za-z_]` -/
def isKeyStart (char : Char) : Bool :=
  ('A' ≤ char ∧ char ≤ 'Z') ∨ ('a' ≤ char ∧ char ≤ 'z') ∨ char = '_'

/-- `[A-Za-z0-9_]` -/
def isKeyChar (char : Char) : Bool :=
  isKeyStart char ∨ ('0' ≤ char ∧ char ≤ '9')

/-- `[A-Za-z_][A-Za-z0-9_]*` -/
def keyPattern : Regex Char := .seq (.one isKeyStart) (.star isKeyChar)

def exportPrefix : Text := "export ".toList

def isQuote (char : Char) : Bool := "\"'".toList.contains char

/-- One pair of quotes around a value is not part of it. -/
def unquote (value : Text) : Text :=
  if 2 ≤ value.length ∧ value.head? = value.getLast? ∧
      value.head?.any isQuote then
    value.tail.dropLast
  else value

/-- What one round of the loop makes of its line. -/
inductive Reading
  | skipped
  | malformed
  | entry (key value : Text)
  deriving DecidableEq

def readLine (raw : Text) : Reading :=
  let line := strip raw
  if line = [] ∨ ['#'] <+: line then .skipped
  else
    let line := lstrip (removePrefix exportPrefix line)
    let (key, sep, value) := partition '=' line
    let key := strip key
    if sep = [] ∨ keyPattern.fullmatch key = false then .malformed
    else .entry key (unquote (strip value))

/-- The loop over the lines from `lineno` on. -/
def loadFrom (path : Text) :
    Nat → List Text → OrderedDict Text Text →
      Except Malformed (OrderedDict Text Text)
  | _, [], entries => .ok entries
  | lineno, raw :: later, entries =>
      match readLine raw with
      | .skipped => loadFrom path (lineno + 1) later entries
      | .malformed => .error ⟨path, lineno, strip raw⟩
      | .entry key value =>
          loadFrom path (lineno + 1) later (entries.set key value)

/-- `load_env_file`, `text` being what `path.read_text()` returns. -/
def loadEnvFile (path text : Text) :
    Except Malformed (OrderedDict Text Text) :=
  loadFrom path 1 (splitlines text) .empty

/-! The loop. -/

def Reading.pair? : Reading → Option (Text × Text)
  | .entry key value => some (key, value)
  | .skipped | .malformed => none

/-- Without a malformed line every entry is stored, the later ones on top. -/
theorem loadFrom_ok (path : Text) {lines : List Text}
    (each : ∀ raw ∈ lines, readLine raw ≠ .malformed) (lineno : Nat)
    (entries : OrderedDict Text Text) :
    loadFrom path lineno lines entries =
      .ok ((lines.filterMap fun raw => (readLine raw).pair?).foldl
        (fun entries pair => entries.set pair.1 pair.2) entries) := by
  induction lines generalizing lineno entries with
  | nil => rfl
  | cons raw later ih =>
      have rest := ih fun other member =>
        each other (List.mem_cons_of_mem _ member)
      rw [loadFrom]
      cases read : readLine raw with
      | malformed => exact absurd read (each raw List.mem_cons_self)
      | skipped =>
          rw [List.filterMap_cons_none (by simp [read, Reading.pair?])]
          exact rest (lineno + 1) entries
      | entry key value =>
          rw [List.filterMap_cons_some (b := (key, value))
            (by simp [read, Reading.pair?]), List.foldl_cons]
          exact rest (lineno + 1) (entries.set key value)

/-- The first malformed line is reported, with its number. -/
theorem loadFrom_malformed (path : Text) {before later : List Text}
    {raw : Text} (each : ∀ other ∈ before, readLine other ≠ .malformed)
    (malformed : readLine raw = .malformed) (lineno : Nat)
    (entries : OrderedDict Text Text) :
    loadFrom path lineno (before ++ raw :: later) entries =
      .error ⟨path, lineno + before.length, strip raw⟩ := by
  induction before generalizing lineno entries with
  | nil => rw [List.nil_append, loadFrom, malformed]; rfl
  | cons other before ih =>
      have rest := ih fun next member =>
        each next (List.mem_cons_of_mem _ member)
      have count : lineno + (before.length + 1) =
          lineno + 1 + before.length := by omega
      rw [List.cons_append, loadFrom, List.length_cons, count]
      cases read : readLine other with
      | malformed => exact absurd read (each other List.mem_cons_self)
      | skipped => exact rest (lineno + 1) entries
      | entry key value => exact rest (lineno + 1) (entries.set key value)

theorem loadFrom_error_iff (path : Text) (lines : List Text) (lineno : Nat)
    (entries : OrderedDict Text Text) :
    (∃ error, loadFrom path lineno lines entries = .error error) ↔
      ∃ raw ∈ lines, readLine raw = .malformed := by
  induction lines generalizing lineno entries with
  | nil => simp [loadFrom]
  | cons raw later ih =>
      rw [loadFrom]
      cases read : readLine raw with
      | malformed => simp [read]
      | skipped => simp [read, ih]
      | entry key value => simp [read, ih]

theorem get?_foldl_set (pairs : List (Text × Text))
    (entries : OrderedDict Text Text) (key : Text) :
    (pairs.foldl (fun entries pair => entries.set pair.1 pair.2)
        entries).get? key =
      (pairs.reverse.lookup key).or (entries.get? key) := by
  induction pairs generalizing entries with
  | nil => rfl
  | cons pair pairs ih =>
      obtain ⟨stored, value⟩ := pair
      rw [List.foldl_cons, ih, List.reverse_cons, List.lookup_append,
        OrderedDict.get?_set, Option.or_assoc]
      congr 1
      by_cases same : key = stored
      · simp [same]
      · rw [if_neg same, List.lookup_cons, beq_false_of_ne same]
        rfl

/-! What a line says. -/

/-- A key that the reader takes. -/
def ValidKey (key : Text) : Prop :=
  ∃ first later, key = first :: later ∧ isKeyStart first = true ∧
    ∀ char ∈ later, isKeyChar char = true

theorem fullmatch_keyPattern {key : Text} :
    keyPattern.fullmatch key = true ↔ ValidKey key :=
  Regex.fullmatch_one_star

instance ValidKey.decidable (key : Text) : Decidable (ValidKey key) :=
  decidable_of_iff _ fullmatch_keyPattern

/-- Nothing to read: blank or a comment. -/
def Skipped (raw : Text) : Prop := strip raw = [] ∨ ['#'] <+: strip raw

/-- The line behind its blanks and the `export ` in front. -/
def assignmentOf (raw : Text) : Text :=
  lstrip (removePrefix exportPrefix (strip raw))

theorem readLine_skipped {raw : Text} (skipped : Skipped raw) :
    readLine raw = .skipped :=
  if_pos skipped

theorem readLine_read {raw : Text} (read : ¬ Skipped raw) :
    readLine raw =
      if (partition '=' (assignmentOf raw)).2.1 = [] ∨
          keyPattern.fullmatch (strip (partition '=' (assignmentOf raw)).1) =
            false then
        .malformed
      else
        .entry (strip (partition '=' (assignmentOf raw)).1)
          (unquote (strip (partition '=' (assignmentOf raw)).2.2)) :=
  if_neg read

theorem readLine_found {raw before later : Text} (read : ¬ Skipped raw)
    (cut : assignmentOf raw = before ++ '=' :: later) (free : '=' ∉ before) :
    readLine raw =
      if ValidKey (strip before) then
        .entry (strip before) (unquote (strip later))
      else .malformed := by
  rw [readLine_read read, cut, partition_found free]
  by_cases valid : ValidKey (strip before)
  · have fits := fullmatch_keyPattern.mpr valid
    rw [if_pos valid, if_neg (by simp [fits])]
  · have differs := eq_false_of_ne_true (mt fullmatch_keyPattern.mp valid)
    rw [if_neg valid, if_pos (.inr differs)]

theorem readLine_absent {raw : Text} (read : ¬ Skipped raw)
    (absent : '=' ∉ assignmentOf raw) : readLine raw = .malformed := by
  rw [readLine_read read, partition_absent absent]
  exact if_pos (.inl rfl)

theorem readLine_malformed_iff {raw : Text} :
    readLine raw = .malformed ↔ ¬ Skipped raw ∧
      ('=' ∉ assignmentOf raw ∨
        ∃ before later, assignmentOf raw = before ++ '=' :: later ∧
          '=' ∉ before ∧ ¬ ValidKey (strip before)) := by
  by_cases skipped : Skipped raw
  · simp [readLine_skipped skipped, skipped]
  · rw [and_iff_right skipped]
    by_cases present : '=' ∈ assignmentOf raw
    · obtain ⟨before, later, cut, free⟩ := exists_first present
      rw [readLine_found skipped cut free]
      constructor
      · intro malformed
        refine .inr ⟨before, later, cut, free, fun valid => ?_⟩
        rw [if_pos valid] at malformed
        cases malformed
      · intro refused
        rcases refused with absent | found
        · exact absurd present absent
        · obtain ⟨before', later', cut', free', invalid⟩ := found
          have same := readLine_found skipped cut' free'
          rw [if_neg invalid, readLine_found skipped cut free] at same
          exact same
    · exact iff_of_true (readLine_absent skipped present) (.inl present)

end Catwalk.Cli
