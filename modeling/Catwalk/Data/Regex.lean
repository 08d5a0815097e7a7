import Mathlib.Data.List.DropRight

/-! Patterns matched by backtracking, over an arbitrary alphabet. -/

namespace Catwalk

universe u

/-- The patterns of the scripts: a class of characters stands once or
greedily repeated. -/
inductive Regex (α : Type u) where
  | start
  | finish
  | one (test : α → Bool)
  | star (test : α → Bool)
  | plus (test : α → Bool)
  | seq (first second : Regex α)
  | alt (first second : Regex α)

namespace Regex

variable {α : Type u}

/-- How far the class reaches from here. -/
def reach (test : α → Bool) (later : List α) : Nat :=
  (later.takeWhile test).length

/-- The lengths of the matches at an offset, the preferred one first: a
greedy repetition gives back one character after the other, an alternative
is tried after the ones to its left. -/
def lengths : Regex α → Nat → List α → List Nat
  | start, offset, _ => if offset = 0 then [0] else []
  | finish, _, later => if later = [] then [0] else []
  | one test, _, later =>
      match later with
      | [] => []
      | char :: _ => if test char then [1] else []
  | star test, _, later => (List.range (reach test later + 1)).reverse
  | plus test, _, later =>
      ((List.range (reach test later)).map (· + 1)).reverse
  | seq first second, offset, later =>
      (first.lengths offset later).flatMap fun length =>
        (second.lengths (offset + length) (later.drop length)).map
          (length + ·)
  | alt first second, offset, later =>
      first.lengths offset later ++ second.lengths offset later

/-- `re.fullmatch` -/
def fullmatch (pattern : Regex α) (text : List α) : Bool :=
  (pattern.lengths 0 text).contains text.length

/-- Replacement from an offset on, `pending` characters of a match still
being skipped. -/
def replaceFrom (pattern : Regex α) (text : List α) :
    Nat → Nat → List α → List α
  | _, _ + 1, [] => []
  | offset, 0, [] =>
      match (pattern.lengths offset []).head? with
      | none => []
      | some _ => text
  | offset, pending + 1, _ :: later =>
      pattern.replaceFrom text (offset + 1) pending later
  | offset, 0, char :: later =>
      match (pattern.lengths offset (char :: later)).head? with
      | none => char :: pattern.replaceFrom text (offset + 1) 0 later
      | some 0 =>
          text ++ char :: pattern.replaceFrom text (offset + 1) 0 later
      | some (length + 1) =>
          text ++ pattern.replaceFrom text (offset + 1) length later

/-- `re.sub`, and `String.prototype.replace` under the flag `g`: the
leftmost match is replaced, and the search goes on behind it. -/
def replaceAll (pattern : Regex α) (text subject : List α) : List α :=
  pattern.replaceFrom text 0 0 subject

@[simp] theorem reach_nil (test : α → Bool) : reach test [] = 0 := rfl

theorem reach_cons_pos {test : α → Bool} {char : α} (holds : test char = true)
    (later : List α) :
    reach test (char :: later) = reach test later + 1 := by
  simp [reach, holds]

theorem reach_cons_neg {test : α → Bool} {char : α}
    (fails : test char = false) (later : List α) :
    reach test (char :: later) = 0 := by
  simp [reach, fails]

theorem reach_le (test : α → Bool) (later : List α) :
    reach test later ≤ later.length :=
  (List.takeWhile_prefix test).length_le

theorem drop_reach (test : α → Bool) (later : List α) :
    later.drop (reach test later) = later.dropWhile test := by
  induction later with
  | nil => rfl
  | cons char later ih =>
      cases holds : test char with
      | true =>
          rw [reach_cons_pos holds, List.drop_succ_cons, ih,
            List.dropWhile_cons_of_pos holds]
      | false =>
          rw [reach_cons_neg holds, List.drop_zero,
            List.dropWhile_cons_of_neg (by simp [holds])]

theorem reach_eq_length {test : α → Bool} {later : List α} :
    reach test later = later.length ↔ ∀ char ∈ later, test char = true := by
  induction later with
  | nil => simp
  | cons char later ih =>
      cases holds : test char with
      | true => simp [reach_cons_pos holds, ih, holds]
      | false => simp [reach_cons_neg holds, holds]

/-! Whole texts. -/

theorem fullmatch_iff {pattern : Regex α} {text : List α} :
    pattern.fullmatch text = true ↔
      text.length ∈ pattern.lengths 0 text := by
  simp [fullmatch]

theorem mem_lengths_star {test : α → Bool} {offset length : Nat}
    {later : List α} :
    length ∈ (star test).lengths offset later ↔ length ≤ reach test later := by
  rw [lengths, List.mem_reverse, List.mem_range, Nat.lt_succ_iff]

theorem fullmatch_one_star {first others : α → Bool} {text : List α} :
    (seq (one first) (star others)).fullmatch text = true ↔
      ∃ char later, text = char :: later ∧ first char = true ∧
        ∀ other ∈ later, others other = true := by
  rw [fullmatch_iff]
  cases text with
  | nil => simp [lengths]
  | cons char later =>
      cases holds : first char with
      | false => simp [lengths, holds]
      | true =>
          have starts : (one first).lengths 0 (char :: later) = [1] := by
            simp [lengths, holds]
          rw [lengths, starts]
          simp only [List.flatMap_singleton, List.mem_map,
            mem_lengths_star, List.drop_succ_cons, List.drop_zero,
            List.length_cons]
          constructor
          · intro found
            obtain ⟨length, within, total⟩ := found
            have bound := reach_le others later
            have whole : reach others later = later.length := by omega
            exact ⟨char, later, rfl, holds, reach_eq_length.mp whole⟩
          · intro found
            obtain ⟨_, _, same, _, every⟩ := found
            cases same
            exact ⟨later.length, (reach_eq_length.mpr every).ge,
              Nat.add_comm _ _⟩

/-! Replacement. -/

/-- The rest of a match contributes nothing. -/
theorem replaceFrom_pending (pattern : Regex α) (text : List α)
    {offset pending : Nat} {later : List α}
    (within : pending ≤ later.length) :
    pattern.replaceFrom text offset pending later =
      pattern.replaceFrom text (offset + pending) 0 (later.drop pending) := by
  induction pending generalizing offset later with
  | zero => rfl
  | succ pending ih =>
      cases later with
      | nil => cases within
      | cons char later =>
          rw [replaceFrom, ih (Nat.le_of_succ_le_succ within),
            List.drop_succ_cons, Nat.add_assoc, Nat.add_comm 1]

theorem replaceFrom_none {pattern : Regex α} (text : List α) {offset : Nat}
    {char : α} {later : List α}
    (free : pattern.lengths offset (char :: later) = []) :
    pattern.replaceFrom text offset 0 (char :: later) =
      char :: pattern.replaceFrom text (offset + 1) 0 later := by
  rw [replaceFrom, free]
  rfl

theorem replaceFrom_some {pattern : Regex α} (text : List α)
    {offset length : Nat} {char : α} {later : List α}
    (found : (pattern.lengths offset (char :: later)).head? =
      some (length + 1))
    (within : length ≤ later.length) :
    pattern.replaceFrom text offset 0 (char :: later) =
      text ++ pattern.replaceFrom text (offset + 1 + length) 0
        (later.drop length) := by
  rw [replaceFrom, found]
  exact congrArg (text ++ ·) (replaceFrom_pending pattern text within)

theorem head?_lengths_plus {test : α → Bool} {char : α}
    (holds : test char = true) (offset : Nat) (later : List α) :
    ((plus test).lengths offset (char :: later)).head? =
      some (reach test later + 1) := by
  rw [lengths, reach_cons_pos holds, List.range_succ, List.map_append,
    List.reverse_append]
  rfl

theorem lengths_plus_neg {test : α → Bool} {char : α}
    (fails : test char = false) (offset : Nat) (later : List α) :
    (plus test).lengths offset (char :: later) = [] := by
  rw [lengths, reach_cons_neg fails]
  rfl

/-- A run of the class becomes the text, what lies outside stays. -/
theorem mem_replaceFrom_plus {test : α → Bool} {text : List α} {char : α}
    {offset pending : Nat} {later : List α}
    (member : char ∈ (plus test).replaceFrom text offset pending later) :
    char ∈ text ∨ char ∈ later ∧ test char = false := by
  induction later generalizing offset pending with
  | nil => cases pending <;> cases member
  | cons first later ih =>
      have behind : ∀ {offset pending : Nat},
          char ∈ (plus test).replaceFrom text offset pending later →
            char ∈ text ∨ char ∈ first :: later ∧ test char = false := by
        intro offset pending member
        rcases ih member with inText | kept
        · exact .inl inText
        · exact .inr ⟨List.mem_cons_of_mem _ kept.1, kept.2⟩
      cases pending with
      | succ pending => exact behind member
      | zero =>
          cases holds : test first with
          | false =>
              rw [replaceFrom_none text (lengths_plus_neg holds _ _)] at member
              rcases List.mem_cons.mp member with rfl | member
              · exact .inr ⟨List.mem_cons_self, holds⟩
              · exact behind member
          | true =>
              rw [replaceFrom, head?_lengths_plus holds] at member
              rcases List.mem_append.mp member with inText | member
              · exact .inl inText
              · exact behind member

theorem mem_replaceAll_plus {test : α → Bool} {text subject : List α}
    {char : α} (member : char ∈ (plus test).replaceAll text subject) :
    char ∈ text ∨ char ∈ subject ∧ test char = false :=
  mem_replaceFrom_plus member

/-! The runs of a class at the two ends. -/

/-- `^c+|c+$` -/
def ends (test : α → Bool) : Regex α :=
  alt (seq start (plus test)) (seq (plus test) finish)

theorem lengths_plus_finish (test : α → Bool) (offset : Nat) (char : α)
    (later : List α) :
    (seq (plus test) finish).lengths offset (char :: later) =
      if reach test (char :: later) = later.length + 1 then
        [later.length + 1] else [] := by
  have short : ∀ bound, bound ≤ later.length →
      (((List.range bound).map (· + 1)).reverse.flatMap fun length =>
        (finish.lengths (offset + length)
          ((char :: later).drop length)).map (length + ·)) = [] := by
    intro bound within
    apply List.flatMap_eq_nil_iff.mpr
    intro length member
    have reached : length ≤ later.length := by
      obtain ⟨shorter, inside, rfl⟩ :=
        List.mem_map.mp (List.mem_reverse.mp member)
      have := List.mem_range.mp inside
      omega
    have more : (char :: later).drop length ≠ [] := by
      intro nothing
      have all := List.drop_eq_nil_iff.mp nothing
      rw [List.length_cons] at all
      omega
    rw [lengths, if_neg more]
    rfl
  have bound : reach test (char :: later) ≤ later.length + 1 :=
    reach_le test (char :: later)
  rw [lengths, lengths]
  by_cases whole : reach test (char :: later) = later.length + 1
  · rw [if_pos whole, whole, List.range_succ, List.map_append,
      List.reverse_append, List.flatMap_append, short _ le_rfl]
    simp [lengths]
  · rw [if_neg whole]
    exact short _ (by omega)

theorem lengths_ends_succ (test : α → Bool) (offset : Nat) (char : α)
    (later : List α) :
    (ends test).lengths (offset + 1) (char :: later) =
      if reach test (char :: later) = later.length + 1 then
        [later.length + 1] else [] :=
  lengths_plus_finish test (offset + 1) char later

theorem rdropWhile_all {test : α → Bool} {subject : List α}
    (all : reach test subject = subject.length) :
    subject.rdropWhile test = [] :=
  List.rdropWhile_eq_nil_iff.mpr (reach_eq_length.mp all)

theorem rdropWhile_cons {test : α → Bool} {char : α} {later : List α}
    (some : reach test (char :: later) ≠ later.length + 1) :
    (char :: later).rdropWhile test = char :: later.rdropWhile test := by
  induction later using List.reverseRecOn with
  | nil =>
      cases holds : test char with
      | true => exact absurd (reach_cons_pos holds []) some
      | false => simp [List.rdropWhile_singleton, holds]
  | append_singleton later last ih =>
      cases holds : test last with
      | false =>
          rw [← List.cons_append,
            List.rdropWhile_concat_neg _ _ _ (by simp [holds]),
            List.rdropWhile_concat_neg _ _ _ (by simp [holds])]
          rfl
      | true =>
          rw [← List.cons_append, List.rdropWhile_concat_pos _ _ _ holds,
            List.rdropWhile_concat_pos _ _ _ holds]
          apply ih
          intro all
          apply some
          have every := reach_eq_length.mp
            (all.trans (List.length_cons (a := char)).symm)
          apply reach_eq_length.mpr
          intro other member
          rw [← List.cons_append] at member
          rcases List.mem_append.mp member with inside | atEnd
          · exact every other inside
          · rw [List.mem_singleton.mp atEnd, holds]

@[simp] theorem replaceFrom_ends_nil (test : α → Bool) (offset : Nat) :
    (ends test).replaceFrom [] offset 0 [] = [] := by
  have free : (ends test).lengths offset [] = [] := by
    simp [ends, lengths]
  rw [replaceFrom, free]
  rfl

/-- Behind the first character only the run at the end is left to match. -/
theorem replaceFrom_ends_succ (test : α → Bool) (offset : Nat)
    (later : List α) :
    (ends test).replaceFrom [] (offset + 1) 0 later =
      later.rdropWhile test := by
  induction later generalizing offset with
  | nil => rfl
  | cons char later ih =>
      have found := lengths_ends_succ test offset char later
      by_cases all : reach test (char :: later) = later.length + 1
      · rw [if_pos all] at found
        rw [replaceFrom_some [] (congrArg List.head? found) le_rfl,
          List.drop_length, rdropWhile_all all, replaceFrom_ends_nil]
        rfl
      · rw [if_neg all] at found
        rw [replaceFrom_none [] found, ih, rdropWhile_cons all]

/-- Nothing is left of the runs of a class at the ends of a text. -/
theorem replaceAll_ends (test : α → Bool) (subject : List α) :
    (ends test).replaceAll [] subject =
      (subject.dropWhile test).rdropWhile test := by
  cases subject with
  | nil => rfl
  | cons char later =>
      have leading : (seq start (plus test)).lengths 0 (char :: later) =
          (plus test).lengths 0 (char :: later) := by
        simp [lengths]
      rw [replaceAll]
      cases holds : test char with
      | true =>
          have found : ((ends test).lengths 0 (char :: later)).head? =
              some (reach test later + 1) := by
            rw [ends, lengths, leading, List.head?_append,
              head?_lengths_plus holds]
            rfl
          rw [replaceFrom_some [] found (reach_le test later), drop_reach,
            List.dropWhile_cons_of_pos holds, Nat.add_comm,
            replaceFrom_ends_succ]
          rfl
      | false =>
          have stays : reach test (char :: later) ≠ later.length + 1 := by
            rw [reach_cons_neg holds]
            omega
          have free : (ends test).lengths 0 (char :: later) = [] := by
            rw [ends, lengths, leading, lengths_plus_neg holds,
              lengths_plus_finish, if_neg stays]
            rfl
          rw [replaceFrom_none [] free, replaceFrom_ends_succ,
            List.dropWhile_cons_of_neg (by simp [holds]),
            rdropWhile_cons stays]

end Regex

end Catwalk
