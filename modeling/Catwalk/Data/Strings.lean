import Catwalk.Catalog.Path

/-! Texts cut into lines and fields the way the methods of `str` do it. -/

namespace Catwalk

/-- Where `str.splitlines` ends a line. -/
def isLineEnd (char : Char) : Bool :=
  let code := char.toNat
  (10 ≤ code ∧ code ≤ 13) ∨ (28 ≤ code ∧ code ≤ 30) ∨ code = 0x85 ∨
    code = 0x2028 ∨ code = 0x2029

/-- The lines from here on, `line` being the part of the current one that is
already read; a line feed after a carriage return ends no further line. -/
def splitlinesFrom : Text → Bool → Text → List Text
  | line, _, [] => if line = [] then [] else [line]
  | line, returned, char :: later =>
      if returned = true ∧ char = '\n' then splitlinesFrom line false later
      else if isLineEnd char then
        line :: splitlinesFrom [] (char == '\r') later
      else splitlinesFrom (line ++ [char]) false later

def splitlines (text : Text) : List Text := splitlinesFrom [] false text

def lstrip (text : Text) : Text := text.dropWhile isSpace

def removePrefix (start text : Text) : Text :=
  if start <+: text then text.drop start.length else text

/-- `text.partition(sep)` for a separator of one character. -/
def partition (sep : Char) (text : Text) : Text × Text × Text :=
  let later := text.dropWhile (· != sep)
  (text.takeWhile (· != sep), later.take 1, later.drop 1)

/-- `text.split()` -/
def split (text : Text) : List Text :=
  (text.splitOnP isSpace).filter (· ≠ [])

/-- `text.rsplit(sep, 1)` for a separator of one character. -/
def rsplit (sep : Char) (text : Text) : List Text :=
  if sep ∈ text then
    [(text.rdropWhile (· != sep)).dropLast, text.rtakeWhile (· != sep)]
  else [text]

/-! Lines. -/

/-- What stands in one line. -/
def OneLine (text : Text) : Prop := ∀ char ∈ text, isLineEnd char = false

instance OneLine.decidable (text : Text) : Decidable (OneLine text) :=
  List.decidableBAll _ text

/-- What ends a line: `"\r\n"`, or one of the other characters. -/
def Break (text : Text) : Prop :=
  text = ['\r', '\n'] ∨
    ∃ char, text = [char] ∧ isLineEnd char = true ∧ char ≠ '\r'

theorem OneLine.cons {char : Char} {text : Text}
    (line : OneLine (char :: text)) :
    isLineEnd char = false ∧ OneLine text :=
  List.forall_mem_cons.mp line

theorem OneLine.append {first second : Text} (line : OneLine first)
    (line' : OneLine second) : OneLine (first ++ second) := by
  intro char member
  rcases List.mem_append.mp member with inside | inside
  · exact line char inside
  · exact line' char inside

theorem OneLine.append_cons {first second : Text} {char : Char}
    (line : OneLine first) (one : isLineEnd char = false)
    (line' : OneLine second) : OneLine (first ++ char :: second) :=
  line.append (List.forall_mem_cons.mpr ⟨one, line'⟩)

theorem splitlinesFrom_oneLine {text : Text} (line : OneLine text)
    (before later : Text) :
    splitlinesFrom before false (text ++ later) =
      splitlinesFrom (before ++ text) false later := by
  induction text generalizing before with
  | nil => rw [List.append_nil, List.nil_append]
  | cons char text ih =>
      obtain ⟨one, line⟩ := line.cons
      rw [List.cons_append, splitlinesFrom, if_neg (by simp),
        if_neg (by simp [one]), ih line, List.append_assoc]
      rfl

theorem splitlinesFrom_break {text : Text} (ends : Break text)
    (line later : Text) :
    splitlinesFrom line false (text ++ later) =
      line :: splitlinesFrom [] false later := by
  rcases ends with rfl | ⟨char, rfl, isEnd, notReturn⟩
  · rfl
  · rw [List.singleton_append, splitlinesFrom, if_neg (by simp),
      if_pos isEnd, beq_false_of_ne notReturn]

/-- Lines written one after the other, the last one perhaps without an end,
are read back. -/
theorem splitlines_written {lines : List (Text × Text)} {last : Text}
    (each : ∀ line ∈ lines, OneLine line.1 ∧ Break line.2)
    (final : OneLine last) :
    splitlines ((lines.flatMap fun line => line.1 ++ line.2) ++ last) =
      lines.map Prod.fst ++ if last = [] then [] else [last] := by
  rw [splitlines]
  induction lines with
  | nil =>
      have whole := splitlinesFrom_oneLine final [] []
      rw [List.append_nil] at whole
      exact whole
  | cons line lines ih =>
      obtain ⟨oneLine, ends⟩ := each line List.mem_cons_self
      rw [List.flatMap_cons, List.append_assoc, List.append_assoc,
        splitlinesFrom_oneLine oneLine, splitlinesFrom_break ends,
        ih fun other member => each other (List.mem_cons_of_mem _ member)]
      rfl

/-! What stands around a text. -/

/-- Neither end of the text is a blank. -/
def Trimmed (text : Text) : Prop :=
  (∀ char, text.head? = some char → isSpace char = false) ∧
    ∀ char, text.getLast? = some char → isSpace char = false

theorem dropWhile_blanks {test : Char → Bool} {blanks : Text}
    (blank : ∀ char ∈ blanks, test char = true) (text : Text) :
    (blanks ++ text).dropWhile test = text.dropWhile test :=
  List.dropWhile_append_of_pos blank

theorem dropWhile_eq_self {test : Char → Bool} {text : Text}
    (head : ∀ char, text.head? = some char → test char = false) :
    text.dropWhile test = text := by
  cases text with
  | nil => rfl
  | cons char later =>
      exact List.dropWhile_cons_of_neg (by simp [head char rfl])

theorem rdropWhile_blanks {test : Char → Bool} {blanks : Text}
    (blank : ∀ char ∈ blanks, test char = true) (text : Text) :
    (text ++ blanks).rdropWhile test = text.rdropWhile test := by
  rw [List.rdropWhile, List.reverse_append, dropWhile_blanks]
  · rfl
  · intro char member
    exact blank char (List.mem_reverse.mp member)

theorem rdropWhile_eq_self {test : Char → Bool} {text : Text}
    (last : ∀ char, text.getLast? = some char → test char = false) :
    text.rdropWhile test = text := by
  rw [List.rdropWhile, dropWhile_eq_self, List.reverse_reverse]
  intro char head
  rw [List.head?_reverse] at head
  exact last char head

theorem lstrip_trimmed {blanks text : Text}
    (blank : ∀ char ∈ blanks, isSpace char = true)
    (trimmed : Trimmed text) : lstrip (blanks ++ text) = text := by
  rw [lstrip, dropWhile_blanks blank, dropWhile_eq_self trimmed.1]

theorem strip_trimmed {before text behind : Text}
    (blank : ∀ char ∈ before, isSpace char = true)
    (blank' : ∀ char ∈ behind, isSpace char = true) (some : text ≠ [])
    (trimmed : Trimmed text) : strip (before ++ text ++ behind) = text := by
  have head : ∀ char, (text ++ behind).head? = .some char →
      isSpace char = false := by
    intro char first
    cases text with
    | nil => exact absurd rfl some
    | cons other later => exact trimmed.1 char first
  rw [strip, List.append_assoc, dropWhile_blanks blank,
    dropWhile_eq_self head, rdropWhile_blanks blank',
    rdropWhile_eq_self trimmed.2]

theorem strip_blanks {text : Text}
    (blank : ∀ char ∈ text, isSpace char = true) : strip text = [] := by
  rw [strip, List.dropWhile_eq_nil_iff.mpr blank]
  rfl

/-! Cuts at a character. -/

theorem partition_found {sep : Char} {before : Text}
    (free : sep ∉ before) (later : Text) :
    partition sep (before ++ sep :: later) = (before, [sep], later) := by
  have differ : ∀ char ∈ before, (char != sep) = true := by
    intro char member
    exact bne_iff_ne.mpr fun same => free (same ▸ member)
  rw [partition, dropWhile_blanks differ,
    List.takeWhile_append_of_pos differ]
  simp

theorem partition_absent {sep : Char} {text : Text} (absent : sep ∉ text) :
    partition sep text = (text, [], []) := by
  have differ : ∀ char ∈ text, (char != sep) = true := by
    intro char member
    exact bne_iff_ne.mpr fun same => absent (same ▸ member)
  rw [partition, List.dropWhile_eq_nil_iff.mpr differ,
    List.takeWhile_eq_self_iff.mpr differ]
  rfl

theorem exists_first {sep : Char} {text : Text} (present : sep ∈ text) :
    ∃ before later, text = before ++ sep :: later ∧ sep ∉ before := by
  induction text with
  | nil => cases present
  | cons char text ih =>
      by_cases same : char = sep
      · exact ⟨[], text, by rw [same, List.nil_append], List.not_mem_nil⟩
      · have inside : sep ∈ text := by
          rcases List.mem_cons.mp present with rfl | inside
          · exact absurd rfl same
          · exact inside
        obtain ⟨before, later, rfl, free⟩ := ih inside
        refine ⟨char :: before, later, rfl, ?_⟩
        intro member
        rcases List.mem_cons.mp member with rfl | member
        · exact same rfl
        · exact free member

theorem rsplit_found {sep : Char} {later : Text} (free : sep ∉ later)
    (before : Text) :
    rsplit sep (before ++ sep :: later) = [before, later] := by
  have differ : ∀ char ∈ later.reverse, (char != sep) = true := by
    intro char member
    apply bne_iff_ne.mpr
    intro same
    exact free (same ▸ List.mem_reverse.mp member)
  have reversed : (before ++ sep :: later).reverse =
      later.reverse ++ sep :: before.reverse := by
    simp
  have taken : (before ++ sep :: later).rtakeWhile (· != sep) = later := by
    rw [List.rtakeWhile, reversed, List.takeWhile_append_of_pos differ]
    simp
  have dropped : (before ++ sep :: later).rdropWhile (· != sep) =
      before ++ [sep] := by
    rw [List.rdropWhile, reversed, dropWhile_blanks differ]
    simp
  rw [rsplit, if_pos (List.mem_append_right _ List.mem_cons_self), taken,
    dropped, List.dropLast_concat]

/-! Fields. -/

/-- A field of a line: a text without blanks. -/
def Word (text : Text) : Prop :=
  text ≠ [] ∧ ∀ char ∈ text, isSpace char = false

instance Word.decidable (text : Text) : Decidable (Word text) :=
  have := List.decidableBAll (isSpace · = false) text
  inferInstanceAs (Decidable (_ ∧ _))

/-- The line consists of the fields, set apart by blanks. -/
inductive Spaced : Text → List Text → Prop
  | blank {blanks : Text} :
      (∀ char ∈ blanks, isSpace char = true) → Spaced blanks []
  | field {blanks word later : Text} {words : List Text} :
      (∀ char ∈ blanks, isSpace char = true) → Word word →
      (∀ char, later.head? = some char → isSpace char = true) →
      Spaced later words → Spaced (blanks ++ (word ++ later)) (word :: words)

theorem split_blank {char : Char} (blank : isSpace char = true)
    (later : Text) : split (char :: later) = split later := by
  rw [split, List.splitOnP_cons_eq_if_modifyHead, if_pos blank]
  rfl

theorem split_blanks {blanks : Text}
    (blank : ∀ char ∈ blanks, isSpace char = true) (later : Text) :
    split (blanks ++ later) = split later := by
  induction blanks with
  | nil => rfl
  | cons char blanks ih =>
      obtain ⟨isBlank, blank⟩ := List.forall_mem_cons.mp blank
      rw [List.cons_append, split_blank isBlank, ih blank]

theorem Word.split {word later : Text} (isWord : Word word)
    (apart : ∀ char, later.head? = some char → isSpace char = true) :
    Catwalk.split (word ++ later) = word :: Catwalk.split later := by
  cases later with
  | nil =>
      rw [List.append_nil, Catwalk.split,
        List.splitOnP_eq_singleton isWord.2,
        List.filter_cons_of_pos (by simp [isWord.1])]
      rfl
  | cons char later =>
      have blank := apart char rfl
      rw [split_blank blank, Catwalk.split,
        List.splitOnP_append_cons_of_forall_mem isWord.2 char blank,
        List.filter_cons_of_pos (by simp [isWord.1])]
      rfl

theorem Spaced.split {line : Text} {words : List Text}
    (spaced : Spaced line words) : split line = words := by
  induction spaced with
  | blank blank =>
      have all := split_blanks blank []
      rw [List.append_nil] at all
      exact all
  | field blank isWord apart _ ih =>
      rw [split_blanks blank, isWord.split apart, ih]

theorem Spaced.cons_blank {char : Char} {line : Text} {words : List Text}
    (blank : isSpace char = true) (spaced : Spaced line words) :
    Spaced (char :: line) words := by
  cases spaced with
  | blank blanks => exact .blank (List.forall_mem_cons.mpr ⟨blank, blanks⟩)
  | field blanks isWord apart rest =>
      rw [← List.cons_append]
      exact .field (List.forall_mem_cons.mpr ⟨blank, blanks⟩) isWord apart rest

theorem Spaced.cons_word {char : Char} {line : Text} {words : List Text}
    (inWord : isSpace char = false) (spaced : Spaced line words) :
    ∃ words', Spaced (char :: line) words' := by
  have single : Word [char] :=
    ⟨List.cons_ne_nil _ _, List.forall_mem_singleton.mpr inWord⟩
  have noBlank : ∀ char ∈ ([] : Text), isSpace char = true :=
    fun _ member => absurd member List.not_mem_nil
  by_cases apart : ∀ char, line.head? = some char → isSpace char = true
  · exact ⟨[char] :: words, .field noBlank single apart spaced⟩
  · cases spaced with
    | blank blanks =>
        refine absurd ?_ apart
        intro other head
        exact blanks other (List.mem_of_mem_head? head)
    | @field blanks word later words blank isWord behind rest =>
        cases blanks with
        | cons first blanks =>
            refine absurd ?_ apart
            intro other head
            cases head
            exact blank _ List.mem_cons_self
        | nil =>
            have longer : Word (char :: word) :=
              ⟨List.cons_ne_nil _ _,
                List.forall_mem_cons.mpr ⟨inWord, isWord.2⟩⟩
            exact ⟨(char :: word) :: words, .field noBlank longer behind rest⟩

theorem spaced_of_split {line : Text} {words : List Text}
    (parts : split line = words) : Spaced line words := by
  have fields : ∃ words, Spaced line words := by
    clear parts
    induction line with
    | nil => exact ⟨[], .blank fun _ member => absurd member List.not_mem_nil⟩
    | cons char line ih =>
        obtain ⟨words, spaced⟩ := ih
        cases blank : isSpace char with
        | true => exact ⟨words, spaced.cons_blank blank⟩
        | false => exact spaced.cons_word blank
  obtain ⟨words', spaced⟩ := fields
  rw [← parts, spaced.split]
  exact spaced

end Catwalk
