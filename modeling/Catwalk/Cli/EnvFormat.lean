import Catwalk.Cli.EnvFile

/-! Settings as they are written, and that they are read back. -/

namespace Catwalk.Cli

/-- Blanks that stay in their line. -/
def Blanks (text : Text) : Prop :=
  ∀ char ∈ text, isSpace char = true ∧ isLineEnd char = false

instance Blanks.decidable (text : Text) : Decidable (Blanks text) :=
  List.decidableBAll _ text

theorem Blanks.oneLine {text : Text} (blanks : Blanks text) : OneLine text :=
  fun char member => (blanks char member).2

theorem Blanks.spaces {text : Text} (blanks : Blanks text) :
    ∀ char ∈ text, isSpace char = true :=
  fun char member => (blanks char member).1

inductive Quote
  | double
  | single

def Quote.char : Quote → Char
  | .double => Char.ofNat 34
  | .single => Char.ofNat 39

/-- A pair as it may stand in its line: `KEY="value"` or `KEY='value'`, blanks
around it, around its `=` and behind the `export ` it may start with. -/
structure Setting where
  lead : Text
  lead_blank : Blanks lead
  /-- the blanks behind `export `, where that is written -/
  exported : Option Text
  exported_blank : ∀ gap, exported = some gap → Blanks gap
  key : Text
  key_valid : ValidKey key
  before : Text
  before_blank : Blanks before
  after : Text
  after_blank : Blanks after
  quote : Quote
  value : Text
  value_line : OneLine value
  trail : Text
  trail_blank : Blanks trail

namespace Setting

def quoted (setting : Setting) : Text :=
  setting.quote.char :: setting.value ++ [setting.quote.char]

def assignment (setting : Setting) : Text :=
  (setting.key ++ setting.before) ++ '=' :: (setting.after ++ setting.quoted)

def opening (setting : Setting) : Text :=
  match setting.exported with
  | none => []
  | some gap => exportPrefix ++ gap

def text (setting : Setting) : Text :=
  setting.lead ++ (setting.opening ++ setting.assignment) ++ setting.trail

/-- The key is the word `export`, written without the prefix and with a space
right behind it: the reader takes it for the prefix. -/
def ReadsAsPrefix (setting : Setting) : Prop :=
  setting.exported = none ∧ setting.key = "export".toList ∧
    [' '] <+: setting.before

end Setting

/-- A line of the file. -/
inductive FileLine
  | blank (text : Text) (blanks : Blanks text)
  | comment (lead text : Text) (blanks : Blanks lead) (line : OneLine text)
  | setting (written : Setting)

namespace FileLine

def text : FileLine → Text
  | .blank text _ => text
  | .comment lead text _ _ => lead ++ '#' :: text
  | .setting written => written.text

def pair? : FileLine → Option (Text × Text)
  | .blank _ _ | .comment _ _ _ _ => none
  | .setting written => some (written.key, written.value)

def ReadsAsPrefix : FileLine → Prop
  | .blank _ _ | .comment _ _ _ _ => False
  | .setting written => written.ReadsAsPrefix

end FileLine

/-- A file of such lines, each with what ends it; nothing ends the last. -/
structure EnvFile where
  lines : List (FileLine × Text)
  breaks : ∀ line ∈ lines, Break line.2
  last : FileLine

namespace EnvFile

def text (file : EnvFile) : Text :=
  (file.lines.flatMap fun line => line.1.text ++ line.2) ++ file.last.text

def all (file : EnvFile) : List FileLine :=
  file.lines.map Prod.fst ++ [file.last]

/-- The pairs of the file, in order. -/
def pairs (file : EnvFile) : List (Text × Text) :=
  file.all.filterMap FileLine.pair?

end EnvFile

/-! The characters of a key. -/

theorem toNat_keyChar {char : Char} (inKey : isKeyChar char = true) :
    48 ≤ char.toNat ∧ char.toNat ≤ 122 ∧ char.toNat ≠ 61 := by
  simp only [isKeyChar, isKeyStart, Bool.decide_or, Bool.decide_and,
    Bool.or_eq_true, Bool.and_eq_true, decide_eq_true_eq, Char.le_def,
    UInt32.le_iff_toNat_le] at inKey
  change ((65 ≤ char.toNat ∧ char.toNat ≤ 90) ∨
    (97 ≤ char.toNat ∧ char.toNat ≤ 122) ∨ char = '_') ∨
      (48 ≤ char.toNat ∧ char.toNat ≤ 57) at inKey
  rcases inKey with (upper | lower | rfl) | digit
  · omega
  · omega
  · decide
  · omega

theorem isSpace_keyChar {char : Char} (inKey : isKeyChar char = true) :
    isSpace char = false := by
  have bounds := toNat_keyChar inKey
  rw [isSpace, decide_eq_false_iff_not]
  omega

theorem isLineEnd_keyChar {char : Char} (inKey : isKeyChar char = true) :
    isLineEnd char = false := by
  have bounds := toNat_keyChar inKey
  rw [isLineEnd, decide_eq_false_iff_not]
  omega

theorem isKeyChar_blank {char : Char} (blank : isSpace char = true) :
    isKeyChar char = false := by
  cases inKey : isKeyChar char with
  | false => rfl
  | true => rw [isSpace_keyChar inKey] at blank; cases blank

theorem ValidKey.chars {key : Text} (valid : ValidKey key) :
    ∀ char ∈ key, isKeyChar char = true := by
  obtain ⟨first, later, rfl, start, rest⟩ := valid
  intro char member
  rcases List.mem_cons.mp member with rfl | member
  · simp [isKeyChar, start]
  · exact rest char member

theorem ValidKey.ne_nil {key : Text} (valid : ValidKey key) : key ≠ [] := by
  obtain ⟨first, later, rfl, _, _⟩ := valid
  exact List.cons_ne_nil _ _

theorem ValidKey.trimmed {key : Text} (valid : ValidKey key) :
    Trimmed key :=
  ⟨fun char head =>
      isSpace_keyChar (valid.chars char (List.mem_of_mem_head? head)),
    fun char last =>
      isSpace_keyChar (valid.chars char (List.mem_of_getLast? last))⟩

@[simp] theorem isSpace_quote (quote : Quote) :
    isSpace quote.char = false := by
  cases quote <;> rfl

@[simp] theorem isLineEnd_quote (quote : Quote) :
    isLineEnd quote.char = false := by
  cases quote <;> rfl

@[simp] theorem isQuote_quote (quote : Quote) :
    isQuote quote.char = true := by
  cases quote <;> rfl

/-! A setting is read back. -/

namespace Setting

variable (setting : Setting)

theorem oneLine_text : OneLine setting.text := by
  have key : OneLine setting.key := fun char member =>
    isLineEnd_keyChar (setting.key_valid.chars char member)
  have closing : OneLine [setting.quote.char] := by
    intro char member
    rw [List.mem_singleton.mp member]
    exact isLineEnd_quote _
  have quoted : OneLine setting.quoted :=
    closing.append setting.value_line |>.append closing
  have opening : OneLine setting.opening := by
    rw [Setting.opening]
    cases exported : setting.exported with
    | none => exact fun char member => absurd member List.not_mem_nil
    | some gap =>
        have blank := (setting.exported_blank gap exported).oneLine
        exact OneLine.append (by decide) blank
  have assignment : OneLine setting.assignment :=
    (key.append setting.before_blank.oneLine).append_cons (by decide)
      (setting.after_blank.oneLine.append quoted)
  exact (setting.lead_blank.oneLine.append
    (opening.append assignment)).append setting.trail_blank.oneLine

theorem trimmed_quoted : Trimmed setting.quoted := by
  constructor
  · intro char head
    cases head
    exact isSpace_quote _
  · intro char last
    rw [quoted, List.getLast?_concat] at last
    cases last
    exact isSpace_quote _

theorem getLast?_assignment (start : Text) :
    (start ++ setting.assignment).getLast? = some setting.quote.char := by
  have whole : start ++ setting.assignment =
      (start ++ ((setting.key ++ setting.before) ++ '=' ::
        (setting.after ++ setting.quote.char :: setting.value))) ++
        [setting.quote.char] := by
    simp [assignment, quoted]
  rw [whole, List.getLast?_concat]

theorem head?_assignment :
    ∃ first, setting.assignment.head? = some first ∧
      isKeyChar first = true := by
  obtain ⟨first, later, key, _⟩ := setting.key_valid
  refine ⟨first, by rw [assignment, key]; rfl, ?_⟩
  exact setting.key_valid.chars first (by rw [key]; exact List.mem_cons_self)

theorem trimmed_line : Trimmed (setting.opening ++ setting.assignment) := by
  constructor
  · intro char head
    rw [opening] at head
    cases exported : setting.exported with
    | none =>
        obtain ⟨first, same, inKey⟩ := setting.head?_assignment
        rw [exported, List.nil_append, same] at head
        cases head
        exact isSpace_keyChar inKey
    | some gap =>
        rw [exported] at head
        cases head
        rfl
  · intro char last
    rw [getLast?_assignment] at last
    cases last
    exact isSpace_quote _

theorem line_ne_nil : setting.opening ++ setting.assignment ≠ [] := by
  simp [assignment]

theorem strip_text :
    strip setting.text = setting.opening ++ setting.assignment :=
  strip_trimmed setting.lead_blank.spaces setting.trail_blank.spaces
    setting.line_ne_nil setting.trimmed_line

theorem not_skipped : ¬ Skipped setting.text := by
  intro skipped
  rcases skipped with empty | comment
  · rw [strip_text] at empty
    exact setting.line_ne_nil empty
  · rw [strip_text, opening] at comment
    cases exported : setting.exported with
    | some gap =>
        rw [exported] at comment
        obtain ⟨tail, same⟩ := comment
        exact absurd (List.cons.inj same).1 (by decide)
    | none =>
        obtain ⟨first, head, inKey⟩ := setting.head?_assignment
        rw [exported, List.nil_append] at comment
        obtain ⟨tail, same⟩ := comment
        rw [← same] at head
        cases head
        exact absurd inKey (by decide)

theorem key_of_prefix {rest : Text}
    (unlike : ∀ char, rest.head? = some char → isKeyChar char = false)
    (starts : exportPrefix <+: setting.key ++ rest) :
    setting.key = "export".toList ∧ [' '] <+: rest := by
  have word : ∀ char ∈ "export".toList, isKeyChar char = true :=
    List.all_eq_true.mp rfl
  obtain ⟨tail, same⟩ := starts
  have parts : "export".toList ++ ' ' :: tail = setting.key ++ rest := same
  have ends : rest.takeWhile isKeyChar = [] := by
    cases rest with
    | nil => rfl
    | cons char later =>
        exact List.takeWhile_cons_of_neg (by simp [unlike char rfl])
  have key : setting.key = "export".toList := by
    have front := congrArg (List.takeWhile isKeyChar) parts
    rw [List.takeWhile_append_of_pos word,
      List.takeWhile_append_of_pos setting.key_valid.chars, ends,
      List.takeWhile_cons_of_neg (by decide)] at front
    simpa using front.symm
  rw [key] at parts
  exact ⟨key, tail, List.append_cancel_left parts⟩

theorem head?_behind_key (char : Char)
    (head : (setting.before ++ '=' ::
      (setting.after ++ setting.quoted)).head? = some char) :
    isKeyChar char = false := by
  cases before : setting.before with
  | nil => rw [before] at head; cases head; rfl
  | cons first later =>
      rw [before] at head
      cases head
      apply isKeyChar_blank
      apply setting.before_blank.spaces
      rw [before]
      exact List.mem_cons_self

/-- Unless the key is read as the prefix, what is left of the line begins
with the key. -/
theorem assignmentOf_text (fits : ¬ setting.ReadsAsPrefix) :
    assignmentOf setting.text = setting.assignment := by
  have trimmed : Trimmed setting.assignment := by
    constructor
    · intro char head
      obtain ⟨first, same, inKey⟩ := setting.head?_assignment
      rw [same] at head
      cases head
      exact isSpace_keyChar inKey
    · intro char last
      rw [← List.nil_append setting.assignment, getLast?_assignment] at last
      cases last
      exact isSpace_quote _
  rw [assignmentOf, strip_text, opening]
  cases exported : setting.exported with
  | some gap =>
      have blank := (setting.exported_blank gap exported).spaces
      rw [List.append_assoc, removePrefix, if_pos (List.prefix_append _ _),
        List.drop_left]
      exact lstrip_trimmed blank trimmed
  | none =>
      have other : ¬ exportPrefix <+: setting.assignment := by
        rw [assignment, List.append_assoc]
        intro starts
        obtain ⟨key, space⟩ :=
          setting.key_of_prefix setting.head?_behind_key starts
        refine fits ⟨exported, key, ?_⟩
        cases before : setting.before with
        | nil =>
            rw [before] at space
            obtain ⟨tail, same⟩ := space
            exact absurd (List.cons.inj same).1 (by decide)
        | cons first later =>
            rw [before] at space
            obtain ⟨tail, same⟩ := space
            rw [(List.cons.inj same).1]
            exact ⟨later, rfl⟩
      rw [List.nil_append, removePrefix, if_neg other]
      exact lstrip_trimmed (fun _ member => absurd member List.not_mem_nil)
        trimmed

theorem unquote_quoted : unquote setting.quoted = setting.value := by
  have last : setting.quoted.getLast? = some setting.quote.char :=
    List.getLast?_concat
  have long : 2 ≤ setting.quoted.length := by simp [quoted]
  have around : 2 ≤ setting.quoted.length ∧
      setting.quoted.head? = setting.quoted.getLast? ∧
        setting.quoted.head?.any isQuote = true := by
    refine ⟨long, last.symm, ?_⟩
    exact isQuote_quote setting.quote
  rw [unquote, if_pos around]
  exact List.dropLast_concat

theorem readLine_text (fits : ¬ setting.ReadsAsPrefix) :
    readLine setting.text = .entry setting.key setting.value := by
  have free : '=' ∉ setting.key ++ setting.before := by
    intro member
    rcases List.mem_append.mp member with inKey | blank
    · exact absurd (setting.key_valid.chars _ inKey) (by decide)
    · exact absurd (setting.before_blank.spaces _ blank) (by decide)
  have key : strip (setting.key ++ setting.before) = setting.key :=
    strip_trimmed (fun _ member => absurd member List.not_mem_nil)
      setting.before_blank.spaces setting.key_valid.ne_nil
      setting.key_valid.trimmed
  have value : strip (setting.after ++ setting.quoted) = setting.quoted := by
    rw [← List.append_nil (setting.after ++ setting.quoted)]
    exact strip_trimmed setting.after_blank.spaces
      (fun _ member => absurd member List.not_mem_nil) (by simp [quoted])
      setting.trimmed_quoted
  rw [readLine_found setting.not_skipped (setting.assignmentOf_text fits)
    free, key, value, if_pos setting.key_valid, unquote_quoted]

end Setting

namespace FileLine

theorem oneLine_text (line : FileLine) : OneLine line.text := by
  cases line with
  | blank text blanks => exact blanks.oneLine
  | comment lead text blanks line =>
      exact blanks.oneLine.append_cons (by decide) line
  | setting written => exact written.oneLine_text

theorem readLine_pair? (line : FileLine) (fits : ¬ line.ReadsAsPrefix) :
    readLine line.text ≠ .malformed ∧
      (readLine line.text).pair? = line.pair? := by
  cases line with
  | blank text blanks =>
      rw [FileLine.text, readLine_skipped (.inl (strip_blanks blanks.spaces))]
      exact ⟨Reading.noConfusion, rfl⟩
  | comment lead text blanks line =>
      have skipped : Skipped (lead ++ '#' :: text) := by
        refine .inr ?_
        have drop : (lead ++ '#' :: text).dropWhile isSpace = '#' :: text := by
          rw [dropWhile_blanks blanks.spaces]
          exact List.dropWhile_cons_of_neg (by decide)
        rw [strip, drop]
        obtain ⟨tail, whole⟩ := List.rdropWhile_prefix isSpace ('#' :: text)
        cases kept : ('#' :: text).rdropWhile isSpace with
        | nil =>
            have all := List.rdropWhile_eq_nil_iff.mp kept '#'
              List.mem_cons_self
            cases all
        | cons first later =>
            rw [kept] at whole
            rw [(List.cons.inj whole).1]
            exact ⟨later, rfl⟩
      rw [FileLine.text, readLine_skipped skipped]
      exact ⟨Reading.noConfusion, rfl⟩
  | setting written =>
      rw [FileLine.text, written.readLine_text fits]
      exact ⟨Reading.noConfusion, rfl⟩

end FileLine

theorem EnvFile.splitlines_text (file : EnvFile) :
    splitlines file.text = (file.lines.map fun line => line.1.text) ++
      if file.last.text = [] then [] else [file.last.text] := by
  have each : ∀ line ∈ file.lines.map fun line => (line.1.text, line.2),
      OneLine line.1 ∧ Break line.2 := by
    intro line member
    obtain ⟨source, inFile, rfl⟩ := List.mem_map.mp member
    exact ⟨source.1.oneLine_text, file.breaks source inFile⟩
  have written := splitlines_written each file.last.oneLine_text
  rw [List.flatMap_map, List.map_map] at written
  exact written

theorem EnvFile.filterMap_lines (file : EnvFile)
    (fits : ∀ line ∈ file.all, ¬ line.ReadsAsPrefix) :
    (splitlines file.text).filterMap (fun raw => (readLine raw).pair?) =
      file.pairs := by
  have listed : ∀ lines : List (FileLine × Text),
      (∀ line ∈ lines, ¬ line.1.ReadsAsPrefix) →
        (lines.map fun line => line.1.text).filterMap
          (fun raw => (readLine raw).pair?) =
            (lines.map Prod.fst).filterMap FileLine.pair? := by
    intro lines each
    rw [List.filterMap_map, List.filterMap_map]
    apply List.filterMap_congr
    intro line member
    exact (line.1.readLine_pair? (each line member)).2
  have final := (file.last.readLine_pair? (fits file.last
    (List.mem_append_right _ (List.mem_singleton_self _)))).2
  have inFile : ∀ line ∈ file.lines, ¬ line.1.ReadsAsPrefix := by
    intro line member
    exact fits line.1 (List.mem_append_left _ (List.mem_map_of_mem member))
  rw [EnvFile.splitlines_text, List.filterMap_append, listed _ inFile,
    EnvFile.pairs, EnvFile.all, List.filterMap_append]
  congr 1
  by_cases empty : file.last.text = []
  · rw [empty] at final
    rw [if_pos empty, List.filterMap_cons_none final.symm]
    rfl
  · rw [if_neg empty, List.filterMap_cons, List.filterMap_cons, final]
    rfl

theorem EnvFile.not_malformed (file : EnvFile)
    (fits : ∀ line ∈ file.all, ¬ line.ReadsAsPrefix) :
    ∀ raw ∈ splitlines file.text, readLine raw ≠ .malformed := by
  intro raw member
  have written : ∃ line ∈ file.all, raw = line.text := by
    rw [EnvFile.splitlines_text] at member
    rcases List.mem_append.mp member with inside | final
    · obtain ⟨line, inFile, rfl⟩ := List.mem_map.mp inside
      exact ⟨line.1, List.mem_append_left _ (List.mem_map_of_mem inFile), rfl⟩
    · by_cases empty : file.last.text = []
      · rw [if_pos empty] at final
        cases final
      · rw [if_neg empty] at final
        exact ⟨file.last,
          List.mem_append_right _ (List.mem_singleton_self _),
          List.mem_singleton.mp final⟩
  obtain ⟨line, inFile, rfl⟩ := written
  exact (line.readLine_pair? (fits line inFile)).1

theorem loadEnvFile_error {path text : Text} {error : Malformed}
    (refused : loadEnvFile path text = .error error) :
    ∃ before raw later, splitlines text = before ++ raw :: later ∧
      (∀ other ∈ before, readLine other ≠ .malformed) ∧
      readLine raw = .malformed ∧
      error = ⟨path, 1 + before.length, strip raw⟩ := by
  obtain ⟨bad, member, malformed⟩ :=
    (loadFrom_error_iff path (splitlines text) 1 .empty).mp ⟨error, refused⟩
  obtain ⟨raw, found⟩ : ∃ raw, (splitlines text).find?
      (fun line => readLine line = .malformed) = some raw := by
    rw [← Option.isSome_iff_exists, List.find?_isSome]
    exact ⟨bad, member, decide_eq_true malformed⟩
  obtain ⟨isBad, before, later, split, earlier⟩ :=
    List.find?_eq_some_iff_append.mp found
  have each : ∀ other ∈ before, readLine other ≠ .malformed := by
    intro other inside
    simpa using earlier other inside
  have malformed := of_decide_eq_true isBad
  refine ⟨before, raw, later, split, each, malformed, ?_⟩
  rw [loadEnvFile, split, loadFrom_malformed path each malformed] at refused
  exact (Except.error.inj refused).symm

/-- Whatever pairs are written, the last value of each key is read back; and a
text is refused exactly when one of its lines has no `=` or no valid key in
front of it. -/
theorem loadEnvFile_reads_back (path : Text) :
    (∀ file : EnvFile, (∀ line ∈ file.all, ¬ line.ReadsAsPrefix) →
      ∃ entries, loadEnvFile path file.text = .ok entries ∧
        ∀ key, entries.get? key = file.pairs.reverse.lookup key) ∧
      ∀ text : Text,
        (∃ error, loadEnvFile path text = .error error) ↔
          ∃ raw ∈ splitlines text, ¬ Skipped raw ∧
            ('=' ∉ assignmentOf raw ∨
              ∃ before later,
                assignmentOf raw = before ++ '=' :: later ∧
                  '=' ∉ before ∧ ¬ ValidKey (strip before)) := by
  constructor
  · intro file fits
    refine ⟨_, loadFrom_ok path (file.not_malformed fits) 1 .empty, ?_⟩
    intro key
    rw [file.filterMap_lines fits, get?_foldl_set, OrderedDict.get?_empty,
      Option.or_none]
  · intro text
    rw [loadEnvFile, loadFrom_error_iff]
    constructor
    · intro found
      obtain ⟨raw, member, malformed⟩ := found
      exact ⟨raw, member, readLine_malformed_iff.mp malformed⟩
    · intro found
      obtain ⟨raw, member, refused⟩ := found
      exact ⟨raw, member, readLine_malformed_iff.mpr refused⟩

/-- The later of two lines about one key wins. -/
theorem loadEnvFile_reads_back_later :
    ∃ file : EnvFile, file.text = "export K='a=b'\n K = \"'\"".toList ∧
      ∃ entries, loadEnvFile [] file.text = .ok entries ∧
        entries.get? "K".toList = some "'".toList := by
  let first : Setting :=
    ⟨[], by decide, some [], by simp [Blanks], "K".toList,
      ⟨'K', [], rfl, rfl, by simp⟩, [], by decide, [], by decide, .single,
      "a=b".toList, by decide, [], by decide⟩
  let second : Setting :=
    ⟨[' '], by decide, none, by simp, "K".toList,
      ⟨'K', [], rfl, rfl, by simp⟩, [' '], by decide, [' '], by decide,
      .double, "'".toList, by decide, [], by decide⟩
  let file : EnvFile :=
    ⟨[(.setting first, ['\n'])],
      fun line member => .inr ⟨'\n', by rw [List.mem_singleton.mp member],
        by decide, by decide⟩, .setting second⟩
  have fits : ∀ line ∈ file.all, ¬ line.ReadsAsPrefix := by
    intro line member key
    simp only [EnvFile.all, file, List.map_cons, List.map_nil,
      List.singleton_append, List.mem_cons, List.not_mem_nil, or_false]
      at member
    rcases member with rfl | rfl
    · exact absurd key.1 (by decide)
    · exact absurd key.2.1 (by decide)
  obtain ⟨entries, loaded, each⟩ := (loadEnvFile_reads_back []).1 file fits
  exact ⟨file, rfl, entries, loaded, each "K".toList⟩

/-- A setting of the key `export` with a space behind the key is refused. -/
theorem loadEnvFile_export_refused :
    ∃ file : EnvFile, file.text = "export = \"x\"".toList ∧
      file.pairs = [("export".toList, "x".toList)] ∧
      loadEnvFile "catwalk.env".toList file.text =
        .error ⟨"catwalk.env".toList, 1, "export = \"x\"".toList⟩ := by
  let written : Setting :=
    ⟨[], by decide, none, by simp, "export".toList,
      ⟨'e', "xport".toList, rfl, rfl, List.all_eq_true.mp rfl⟩, [' '], by decide, [' '],
      by decide, .double, "x".toList, by decide, [], by decide⟩
  refine ⟨⟨[], fun line member => absurd member List.not_mem_nil,
    .setting written⟩, rfl, rfl, ?_⟩
  have malformed : readLine "export = \"x\"".toList = .malformed := by decide
  have lines : splitlines "export = \"x\"".toList =
      [] ++ "export = \"x\"".toList :: [] := by decide
  change loadEnvFile _ "export = \"x\"".toList = _
  rw [loadEnvFile, lines,
    loadFrom_malformed _ (fun _ member => absurd member List.not_mem_nil)
      malformed]
  rfl

end Catwalk.Cli
