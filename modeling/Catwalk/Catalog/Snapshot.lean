import Catwalk.Catalog.Components
import Catwalk.Data.Numeral
import Catwalk.Data.Strings

/-! The newest snapshot of the catalog: the pages of one listing, and the
order of the names on them. -/

namespace Catwalk.Snapshot

universe u

/-- `api.list_snapshots(bucket, name_prefix, next_token)`: the names, whether
there are more, and the next token. -/
abbrev Api (Token : Type u) :=
  Text → Text → Option Token → List Text × Bool × Option Token

def catalogBucket : Text := "vast-big-catalog-bucket".toList

variable {Token : Type u}

/-- The loop over the pages, in as many rounds as the fuel allows: the names
it collects and the tokens it asks with. -/
def collect (list : Option Token → List Text × Bool × Option Token) :
    Nat → Option Token → List Text → List (Option Token) →
      Option (List Text × List (Option Token))
  | 0, _, _, _ => none
  | fuel + 1, token, names, calls =>
      let (page, truncated, next) := list token
      let names := names ++ page
      let calls := calls ++ [token]
      if truncated = false ∨ page = [] then some (names, calls)
      else collect list fuel next names calls

/-- `n.strip("/").removeprefix(".snapshot/")` -/
def bareName (n : Text) : Text :=
  removePrefix ".snapshot/".toList (stripSlashes n)

/-- `max(snaps) if snaps else None` -/
def maxName : List Text → Option Text
  | [] => none
  | snap :: snaps =>
      some (snaps.foldl (fun best next => if best < next then next else best)
        snap)

/-- `newest_catalog_snapshot`, with the tokens of its calls. -/
def newestCatalogSnapshot (api : Api Token) (namePrefix : Text) (fuel : Nat) :
    Option (Option Text × List (Option Token)) :=
  (collect (api catalogBucket namePrefix) fuel none [] []).map
    fun (names, calls) => (maxName (names.map bareName), calls)

/-! Names. -/

/-- Numbers of fixed widths, each with what stands behind it. -/
def joined : List (Nat × Char) → List Nat → Text
  | (width, sep) :: layout, number :: numbers =>
      Numeral.padded 10 width number ++ sep :: joined layout numbers
  | _, _ => []

/-- A time as a name tells it. -/
structure Stamp where
  year : Nat
  year_lt : year < 10 ^ 4
  month : Nat
  month_lt : month < 10 ^ 2
  day : Nat
  day_lt : day < 10 ^ 2
  hour : Nat
  hour_lt : hour < 10 ^ 2
  minute : Nat
  minute_lt : minute < 10 ^ 2
  second : Nat
  second_lt : second < 10 ^ 2

namespace Stamp

def fields (stamp : Stamp) : List Nat :=
  [stamp.year, stamp.month, stamp.day, stamp.hour, stamp.minute, stamp.second]

/-- Chronological order: the first field that differs decides. -/
def Before (first second : Stamp) : Prop := first.fields < second.fields

/-- `YYYY-MM-DD_HH_MM_SS_` -/
def layout : List (Nat × Char) :=
  [(4, '-'), (2, '-'), (2, '_'), (2, '_'), (2, '_'), (2, '_')]

def text (stamp : Stamp) : Text := joined layout stamp.fields ++ "UTC".toList

/-- `<prefix>_YYYY-MM-DD_HH_MM_SS_UTC` -/
def name (namePrefix : Text) (stamp : Stamp) : Text :=
  namePrefix ++ '_' :: stamp.text

end Stamp

/-- A name in a listing, bare or as `.snapshot/<name>/`. -/
structure Entry where
  stamp : Stamp
  decorated : Bool

def Entry.text (namePrefix : Text) (entry : Entry) : Text :=
  if entry.decorated then
    ".snapshot/".toList ++ entry.stamp.name namePrefix ++ ['/']
  else entry.stamp.name namePrefix

/-- The pages that a service hands out from a token on: more follow a page
that is truncated and has names, and no others. -/
inductive Serves (list : Option Token → List Text × Bool × Option Token) :
    Option Token → List (List Text) → Prop
  | last {token next : Option Token} {page : List Text} {truncated : Bool} :
      list token = (page, truncated, next) →
      truncated = false ∨ page = [] → Serves list token [page]
  | more {token next : Option Token} {page : List Text}
      {pages : List (List Text)} :
      list token = (page, true, next) → page ≠ [] →
      Serves list next pages → Serves list token (page :: pages)

/-! The loop reads every page once. -/

theorem Serves.collect
    {list : Option Token → List Text × Bool × Option Token}
    {token : Option Token} {pages : List (List Text)}
    (serves : Serves list token pages) :
    ∃ calls, calls.map (fun token => (list token).1) = pages ∧
      ∀ fuel names before, pages.length ≤ fuel →
        Snapshot.collect list fuel token names before =
          some (names ++ pages.flatten, before ++ calls) := by
  induction serves with
  | @last token next page truncated answer final =>
      refine ⟨[token], by simp [answer], ?_⟩
      intro fuel names before enough
      cases fuel with
      | zero => cases enough
      | succ fuel =>
          rw [Snapshot.collect, answer]
          dsimp only
          rw [if_pos final, List.flatten_cons, List.flatten_nil,
            List.append_nil]
  | @more token next page pages answer nonempty _ ih =>
      obtain ⟨calls, each, collects⟩ := ih
      refine ⟨token :: calls, by simp [answer, each], ?_⟩
      intro fuel names before enough
      cases fuel with
      | zero => cases enough
      | succ fuel =>
          rw [Snapshot.collect, answer]
          dsimp only
          rw [if_neg (by simp [nonempty]),
            collects fuel _ _ (Nat.le_of_succ_le_succ enough),
            List.flatten_cons, List.append_assoc, List.append_assoc]
          rfl

/-! Names of one prefix stand in the order of their times. -/

theorem joined_lt {layout : List (Nat × Char)} {first second : List Nat}
    (fits : List.Forall₂ (fun cell number => number < 10 ^ cell.1) layout
      first)
    (fits' : List.Forall₂ (fun cell number => number < 10 ^ cell.1) layout
      second)
    (less : first < second) (rest rest' : Text) :
    joined layout first ++ rest < joined layout second ++ rest' := by
  induction fits generalizing second with
  | nil => cases fits'; cases less
  | @cons cell number layout numbers bound fits ih =>
      cases fits' with
      | @cons _ number' _ numbers' bound' fits' =>
          rw [joined, joined, List.append_assoc, List.append_assoc]
          rcases List.cons_lt_cons_iff.mp less with smaller | ⟨rfl, later⟩
          · apply Numeral.append_lt_append
            · exact Numeral.padded_lt (by decide) smaller bound'
            · rw [Numeral.length_padded, Numeral.length_padded]
          · apply List.append_left_lt
            exact List.Lex.cons (ih fits' later)

theorem Stamp.fits (stamp : Stamp) :
    List.Forall₂ (fun (cell : Nat × Char) number => number < 10 ^ cell.1)
      Stamp.layout stamp.fields :=
  .cons stamp.year_lt <| .cons stamp.month_lt <| .cons stamp.day_lt <|
    .cons stamp.hour_lt <| .cons stamp.minute_lt <|
      .cons stamp.second_lt .nil

theorem Stamp.name_lt (namePrefix : Text) {first second : Stamp}
    (before : first.Before second) :
    first.name namePrefix < second.name namePrefix := by
  apply List.append_left_lt
  apply List.Lex.cons
  exact joined_lt first.fits second.fits before _ _

/-! `max` -/

theorem foldl_max (snap : Text) (snaps : List Text) :
    snaps.foldl (fun best next => if best < next then next else best) snap ∈
        snap :: snaps ∧
      ∀ other ∈ snap :: snaps,
        ¬ snaps.foldl (fun best next => if best < next then next else best)
          snap < other := by
  induction snaps generalizing snap with
  | nil =>
      refine ⟨List.mem_cons_self, ?_⟩
      intro other member
      rw [List.mem_singleton.mp member]
      exact lt_irrefl _
  | cons next snaps ih =>
      rw [List.foldl_cons]
      by_cases less : snap < next
      · rw [if_pos less]
        obtain ⟨member, greatest⟩ := ih next
        refine ⟨List.mem_cons_of_mem _ member, ?_⟩
        intro other inside
        rcases List.mem_cons.mp inside with rfl | later
        · intro above
          exact greatest next List.mem_cons_self (above.trans less)
        · exact greatest other later
      · rw [if_neg less]
        obtain ⟨member, greatest⟩ := ih snap
        constructor
        · rcases List.mem_cons.mp member with same | later
          · rw [same]
            exact List.mem_cons_self
          · exact List.mem_cons_of_mem _ (List.mem_cons_of_mem _ later)
        · intro other inside
          rcases List.mem_cons.mp inside with rfl | later
          · exact greatest _ List.mem_cons_self
          · rcases List.mem_cons.mp later with rfl | later
            · intro above
              have atLeast := greatest snap List.mem_cons_self
              exact less (lt_of_le_of_lt (not_lt.mp atLeast) above)
            · exact greatest other (List.mem_cons_of_mem _ later)

/-! Entries. -/

theorem Stamp.name_eq (namePrefix : Text) (stamp : Stamp) :
    ∃ front, stamp.name namePrefix = front ++ ['C'] :=
  ⟨namePrefix ++ '_' :: (joined layout stamp.fields ++ "UT".toList), by
    simp [name, text]⟩

theorem rdropWhile_name (namePrefix front behind : Text) (stamp : Stamp)
    (slashes : ∀ char ∈ behind, char = '/') :
    (front ++ stamp.name namePrefix ++ behind).rdropWhile (· == '/') =
      front ++ stamp.name namePrefix := by
  obtain ⟨rest, name⟩ := stamp.name_eq namePrefix
  rw [rdropWhile_blanks fun char member =>
    beq_iff_eq.mpr (slashes char member), name, ← List.append_assoc,
    List.rdropWhile_concat_neg _ _ _ (by decide)]

theorem bareName_decorated (namePrefix : Text) (stamp : Stamp) :
    bareName (".snapshot/".toList ++ stamp.name namePrefix ++ ['/']) =
      stamp.name namePrefix := by
  have stripped : stripSlashes
      (".snapshot/".toList ++ stamp.name namePrefix ++ ['/']) =
        ".snapshot/".toList ++ stamp.name namePrefix := by
    have front : (".snapshot/".toList ++ stamp.name namePrefix ++
        ['/']).dropWhile (· == '/') =
          ".snapshot/".toList ++ stamp.name namePrefix ++ ['/'] := by
      rw [List.append_assoc]
      exact List.dropWhile_cons_of_neg (by decide)
    rw [stripSlashes, front]
    apply rdropWhile_name
    intro char member
    exact List.mem_singleton.mp member
  rw [bareName, stripped, removePrefix, if_pos (List.prefix_append _ _),
    List.drop_left]

/-- Nothing in front of the names that the loop would take off. -/
def PlainPrefix (namePrefix : Text) : Prop :=
  ¬ ['/'] <+: namePrefix ∧ ¬ ".snapshot/".toList <+: namePrefix

instance PlainPrefix.decidable (namePrefix : Text) :
    Decidable (PlainPrefix namePrefix) :=
  inferInstanceAs (Decidable (_ ∧ _))

/-- What a name begins with its prefix begins with, up to an underscore. -/
theorem prefix_of_name {start namePrefix : Text} {stamp : Stamp}
    (free : '_' ∉ start) (starts : start <+: stamp.name namePrefix) :
    start <+: namePrefix := by
  rw [Stamp.name] at starts
  rcases List.prefix_or_prefix_of_prefix starts
    (List.prefix_append namePrefix _) with inside | beyond
  · exact inside
  · obtain ⟨rest, whole⟩ := beyond
    cases rest with
    | nil => exact ⟨[], by rw [← whole, List.append_nil, List.append_nil]⟩
    | cons char rest =>
        rw [← whole] at starts
        have same := (List.prefix_append_right_inj namePrefix).mp starts
        have first := (List.cons_prefix_cons.mp same).1
        exact absurd (by simp [← whole, first]) free

theorem bareName_bare {namePrefix : Text} (plain : PlainPrefix namePrefix)
    (stamp : Stamp) :
    bareName (stamp.name namePrefix) = stamp.name namePrefix := by
  have front : (stamp.name namePrefix).dropWhile (· == '/') =
      stamp.name namePrefix := by
    apply dropWhile_eq_self
    intro char head
    apply beq_false_of_ne
    intro slash
    subst slash
    apply plain.1
    apply prefix_of_name (by decide)
    cases name : stamp.name namePrefix with
    | nil => rw [name] at head; cases head
    | cons first rest =>
        rw [name] at head
        cases head
        exact ⟨rest, rfl⟩
  have stripped : stripSlashes (stamp.name namePrefix) =
      stamp.name namePrefix := by
    have last := rdropWhile_name namePrefix [] [] stamp
      fun _ member => absurd member List.not_mem_nil
    rw [List.nil_append, List.append_nil] at last
    rw [stripSlashes, front, last]
  rw [bareName, stripped, removePrefix, if_neg]
  intro starts
  exact plain.2 (prefix_of_name (by decide) starts)

theorem Entry.bareName_text {namePrefix : Text} {entry : Entry}
    (plain : entry.decorated = false → PlainPrefix namePrefix) :
    bareName (entry.text namePrefix) = entry.stamp.name namePrefix := by
  rw [Entry.text]
  cases decorated : entry.decorated with
  | true => exact bareName_decorated namePrefix entry.stamp
  | false => exact bareName_bare (plain decorated) entry.stamp

/-- However the entries are ordered and paged, every page is asked for once
and the name of the latest time is returned. -/
theorem newestCatalogSnapshot_latest (api : Api Token) (namePrefix : Text)
    (pages : List (List Entry))
    (serves : Serves (api catalogBucket namePrefix) none
      (pages.map (List.map (Entry.text namePrefix))))
    (plain : ∀ entry ∈ pages.flatten,
      entry.decorated = false → PlainPrefix namePrefix) :
    ∃ result calls,
      (∀ fuel, pages.length ≤ fuel →
        newestCatalogSnapshot api namePrefix fuel = some (result, calls)) ∧
      calls.map (fun token => (api catalogBucket namePrefix token).1) =
        pages.map (List.map (Entry.text namePrefix)) ∧
      (result = none ↔ pages.flatten = []) ∧
      ∀ name, result = some name →
        ∃ entry ∈ pages.flatten, name = entry.stamp.name namePrefix ∧
          ∀ other ∈ pages.flatten, ¬ entry.stamp.Before other.stamp := by
  obtain ⟨calls, each, collects⟩ := serves.collect
  have names : (pages.map (List.map (Entry.text namePrefix))).flatten.map
      bareName = pages.flatten.map fun entry =>
        entry.stamp.name namePrefix := by
    rw [← List.map_flatten, List.map_map]
    apply List.map_congr_left
    intro entry member
    exact Entry.bareName_text (plain entry member)
  refine ⟨maxName (pages.flatten.map fun entry =>
    entry.stamp.name namePrefix), calls, ?_, each, ?_, ?_⟩
  · intro fuel enough
    rw [newestCatalogSnapshot, collects fuel [] [] (by simpa using enough),
      List.nil_append, List.nil_append]
    exact congrArg (fun snaps => some (maxName snaps, calls)) names
  · cases pages.flatten with
    | nil => exact iff_of_true rfl rfl
    | cons entry entries =>
        apply iff_of_false
        · exact Option.some_ne_none _
        · exact List.cons_ne_nil _ _
  · intro name found
    cases entries : pages.flatten with
    | nil => rw [entries] at found; cases found
    | cons entry later =>
        rw [entries, List.map_cons, maxName] at found
        obtain ⟨member, greatest⟩ := foldl_max (entry.stamp.name namePrefix)
          (later.map fun entry => entry.stamp.name namePrefix)
        rw [Option.some.inj found, ← List.map_cons (f := fun entry : Entry =>
          entry.stamp.name namePrefix)] at member greatest
        obtain ⟨best, inside, rfl⟩ := List.mem_map.mp member
        refine ⟨best, inside, rfl, ?_⟩
        intro other inside' before
        exact greatest _ (List.mem_map_of_mem inside')
          (Stamp.name_lt namePrefix before)

theorem newestCatalogSnapshot_latest_pages :
    ∃ api : Api Nat, ∀ fuel, 2 ≤ fuel →
      newestCatalogSnapshot api "big_catalog".toList fuel =
        some (some "big_catalog_2026-08-12_19_01_25_UTC".toList,
          [none, some 1]) := by
  let early : Entry := ⟨⟨2026, by decide, 8, by decide, 12, by decide, 18,
    by decide, 1, by decide, 26, by decide⟩, true⟩
  let late : Entry := ⟨⟨2026, by decide, 8, by decide, 12, by decide, 19,
    by decide, 1, by decide, 25, by decide⟩, false⟩
  let api : Api Nat := fun _ namePrefix token =>
    if token = none then ([late.text namePrefix], true, some 1)
    else ([early.text namePrefix], false, some 2)
  have serves : Serves (api catalogBucket "big_catalog".toList) none
      ([[late], [early]].map (List.map (Entry.text "big_catalog".toList))) :=
    .more rfl (List.cons_ne_nil _ _) (.last rfl (.inl rfl))
  obtain ⟨result, calls, runs, _⟩ :=
    newestCatalogSnapshot_latest api "big_catalog".toList [[late], [early]]
      serves fun _ _ _ => by decide
  have evaluated : newestCatalogSnapshot api "big_catalog".toList 2 =
      some (some "big_catalog_2026-08-12_19_01_25_UTC".toList,
        [none, some 1]) := by decide +kernel
  refine ⟨api, fun fuel enough => ?_⟩
  rw [← evaluated, runs 2 le_rfl]
  exact runs fuel enough

/-- A bare name whose prefix begins with a slash comes back without it. -/
theorem newestCatalogSnapshot_slash :
    ∃ (api : Api Nat) (entry : Entry),
      Serves (api catalogBucket ['/']) none [[entry.text ['/']]] ∧
      entry.stamp.name ['/'] = "/_2026-08-12_19_01_25_UTC".toList ∧
      newestCatalogSnapshot api ['/'] 1 =
        some (some "_2026-08-12_19_01_25_UTC".toList, [none]) := by
  let entry : Entry := ⟨⟨2026, by decide, 8, by decide, 12, by decide, 19,
    by decide, 1, by decide, 25, by decide⟩, false⟩
  refine ⟨fun _ namePrefix _ => ([entry.text namePrefix], false, none), entry,
    .last rfl (.inl rfl), by decide, by decide⟩

end Catwalk.Snapshot
