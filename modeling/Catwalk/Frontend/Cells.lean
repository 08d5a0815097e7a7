import Catwalk.Rollup.Report

/-! The rollup column of the listing table: what a cell says of a directory is true
of the catalog that the rollup read. -/

namespace Catwalk.Cells

open RollupService

/-- The value that `renderRollup` keeps under the path of a rollup. -/
structure Kept where
  children : Text → Option Child
  truncated : Bool

/-- In `byName` the last child of a name counts. -/
def keep (body : Api.PublicResult) : Kept where
  children name := body.result.children.reverse.find? (·.name = name)
  truncated := body.childrenTruncated

/-- The last cell of a directory's row in `renderTable`. -/
inductive RollupCell
  | stats (child : Child)
  | notAmongLargest
  | notPresent
  | computing
  | unavailable

def RollupCell.title (fmtTime : Text → Text) : RollupCell → Text
  | .stats child =>
      "descendant total; last modified ".toList ++ fmtTime child.lastModified
  | .notAmongLargest =>
      "not among the largest children in the rollup (result truncated)".toList
  | .notPresent =>
      "not present when this rollup was computed (directory is newer)".toList
  | .computing => "rollup still computing".toList
  | .unavailable =>
      "no rollup available for this directory (see the rollup panel)".toList

/-- `inFlight` is `rollupInFlight === state.path`. -/
def rollupCell (rollup : Option Kept) (inFlight : Bool) (name : Text) : RollupCell :=
  match rollup with
  | some rollup =>
      match rollup.children name with
      | some child => .stats child
      | none => if rollup.truncated then .notAmongLargest else .notPresent
  | none => if inFlight then .computing else .unavailable

/-- The bytes of the rows below a child directory. -/
def bytesBelow (path name : Text) (rows : List FileRow) : Int :=
  ((groupRows (normalizePrefix path) 1 rows name).map fun row => row.size.getD 0).sum

section Rollup

variable {arrow : Arrow} {backend : Backend} {cfg : RollupConfig} {path : Text}
  {depth : Nat} {input : RollupInput} {groups : Groups} {result : RollupResult}
  {rows : List FileRow} {dirs : Finset Text}

/-- A rollup that was not refused has seen every child directory, for all that
`list_child_dirs` was limited. -/
theorem childDirs_complete (limited : cfg.rollupMaxGroups ≠ 0)
    (finished : Finished cfg path depth input groups result)
    (lists : ListsChildDirs dirs (cfg.rollupMaxGroups + 1) input.childDirs) :
    input.childDirs.toFinset = dirs := by
  apply lists.all
  have seeded : input.childDirs.toFinset ⊆ groups.keys.toFinset := by
    rw [finished.keys]
    exact Finset.subset_union_right
  have size : groups.keys.toFinset.card = groups.size :=
    (List.toFinset_card_of_nodup groups.nodup).trans groups.length_keys
  have within := finished.within limited
  have atMost := Finset.card_le_card seeded
  rw [lists.card_toFinset, size] at atMost
  omega

theorem groupRows_perm (files : input.reader.flatten.Perm rows) (key : Text) :
    (groupRows (normalizePrefix path) depth input.reader.flatten key).Perm
      (groupRows (normalizePrefix path) depth rows key) :=
  files.filter _

theorem groupRows_eq_nil {key : Text}
    (absent : key ∉ groupKeys (normalizePrefix path) depth rows) :
    groupRows (normalizePrefix path) depth rows key = [] := by
  rw [groupRows, List.filter_eq_nil_iff]
  intro row member
  rw [decide_eq_true_eq]
  rintro rfl
  exact absent (List.mem_toFinset.mpr (List.mem_map_of_mem member))

end Rollup

theorem keep_some {body : Api.PublicResult} {name : Text} {child : Child}
    (found : (keep body).children name = some child) :
    child ∈ body.result.children ∧ child.name = name := by
  have member := List.mem_reverse.mp (List.mem_of_find?_eq_some found)
  exact ⟨member, by simpa using List.find?_some found⟩

theorem keep_none {body : Api.PublicResult} {name : Text}
    (missing : (keep body).children name = none) :
    ∀ child ∈ body.result.children, child.name ≠ name := by
  intro child member
  simpa using List.find?_eq_none.mp missing child (List.mem_reverse.mpr member)

/-- A size in the column is that of the files below the directory; a directory said
to be newer was not in the catalog, nor any file below it; and one left out of the
largest is at most as large as all that are shown. -/
theorem cells_truthful {arrow : Arrow} (documented : arrow.Documented)
    {backend : Backend} {cfg : Api.Config} (limited : cfg.rollup.rollupMaxGroups ≠ 0)
    {path : Text} {rows : List FileRow} {dirs : Finset Text} {input : RollupInput}
    (answers : Answers rows dirs cfg.rollup.rollupMaxGroups input)
    (times : ∀ row ∈ rows, Shown row.mtime ∧ Shown row.atime)
    {result : RollupResult} {reported : List Nat}
    (rolled : rollup arrow backend cfg.rollup path 1 input = .ok (result, reported))
    (childLimit : Option Nat) (inFlight : Bool) (name : Text) :
    let body := Api.publicResult cfg result childLimit
    let cell := rollupCell (some (keep body)) inFlight name
    (∀ child, cell = .stats child →
      child.fileCount = (groupRows (normalizePrefix path) 1 rows name).length ∧
        child.totalBytes = bytesBelow path name rows) ∧
    (cell = .notPresent →
      name ∉ dirs ∧ groupRows (normalizePrefix path) 1 rows name = []) ∧
    (cell = .notAmongLargest → name ∈ dirs →
      ∀ child ∈ body.result.children, bytesBelow path name rows ≤ child.totalBytes) ∧
    (name ∈ dirs → cell = .notAmongLargest ∨ ∃ child, cell = .stats child) := by
  intro body cell
  obtain ⟨_, groups, _, finished⟩ := rollup_eq_ok documented rolled
  have reports := finished.reports fun row member =>
    times row (answers.files.mem_iff.mp member)
  obtain ⟨_, omitted, _, cuts⟩ := @publicResult_cuts cfg result reports.sorted childLimit
  have complete := childDirs_complete limited finished answers.childDirs
  have counted : ∀ child ∈ result.children, child.name = name →
      child.fileCount = (groupRows (normalizePrefix path) 1 rows name).length ∧
        child.totalBytes = bytesBelow path name rows := by
    intro child member named
    obtain ⟨files, bytes, _⟩ := reports.child child member
    rw [named] at files bytes
    have perm := @groupRows_perm path 1 input rows answers.files name
    exact ⟨files.trans perm.length_eq, bytes.trans (perm.map _).sum_eq⟩
  have listed : name ∈ dirs → ∃ child ∈ result.children, child.name = name := by
    intro isDir
    rw [← complete, List.mem_toFinset] at isDir
    exact List.mem_map.mp ((reports.names name).mpr (.inr isDir))
  have inBody : ∀ child ∈ body.result.children, child ∈ result.children := by
    intro child member
    rw [cuts.children]
    exact List.mem_append_left _ member
  cases found : (keep body).children name with
  | some child =>
      have isStats : cell = .stats child := by
        simp only [cell, rollupCell, found]
      obtain ⟨member, named⟩ := keep_some found
      rw [isStats]
      refine ⟨?_, nofun, nofun, fun _ => .inr ⟨child, rfl⟩⟩
      rintro _ ⟨⟩
      exact counted child (inBody child member) named
  | none =>
      have absent := keep_none found
      cases truncated : body.childrenTruncated with
      | true =>
          have isCut : cell = .notAmongLargest := by
            have kept : (keep body).truncated = true := truncated
            simp only [cell, rollupCell, found, kept, if_true]
          rw [isCut]
          refine ⟨nofun, nofun, fun _ isDir child shown => ?_, fun _ => .inl rfl⟩
          obtain ⟨other, member, named⟩ := listed isDir
          rw [← (counted other member named).2]
          rw [cuts.children] at member
          rcases List.mem_append.mp member with isShown | isOmitted
          · exact absurd named (absent other isShown)
          · exact cuts.smaller child shown other isOmitted
      | false =>
          have isNew : cell = .notPresent := by
            have kept : (keep body).truncated = false := truncated
            simp only [cell, rollupCell, found, kept]
            rfl
          have whole : result.children = body.result.children := by
            have none_omitted : omitted = [] := by
              by_contra some_omitted
              rw [cuts.truncated.mpr some_omitted] at truncated
              cases truncated
            rw [cuts.children, none_omitted, List.append_nil]
          have unnamed : name ∉ result.children.map (·.name) := by
            intro member
            obtain ⟨child, inResult, named⟩ := List.mem_map.mp member
            exact absent child (whole ▸ inResult) named
          rw [isNew]
          refine ⟨nofun, fun _ => ⟨?_, ?_⟩, nofun, fun isDir => ?_⟩
          · intro isDir
            obtain ⟨child, member, named⟩ := listed isDir
            exact absent child (whole ▸ member) named
          · have nowhere : name ∉ groupKeys (normalizePrefix path) 1
                input.reader.flatten :=
              fun inGroup => unnamed ((reports.names name).mpr (.inl inGroup))
            have perm := @groupRows_perm path 1 input rows answers.files name
            rw [groupRows_eq_nil nowhere] at perm
            exact perm.nil_eq.symm
          · obtain ⟨child, member, named⟩ := listed isDir
            exact absurd named (absent child (whole ▸ member))

theorem truncated_of_notAmongLargest {kept : Kept} {inFlight : Bool} {name : Text}
    (cut : rollupCell (some kept) inFlight name = .notAmongLargest) :
    kept.truncated = true := by
  unfold rollupCell at cut
  cases found : kept.children name with
  | some child =>
      simp only [found] at cut
      cases cut
  | none =>
      simp only [found] at cut
      split at cut
      next truncated => exact truncated
      next => cases cut

/-- Two children are all that this rollup has. -/
theorem sampleRows_cells :
    ∃ result reported,
      rollup plainArrow .sequential sampleConfig "/data".toList 1 sampleInput =
        .ok (result, reported) ∧
      ∃ child, rollupCell (some (keep
        (Api.publicResult sampleApi result (some 2)))) false "a".toList =
          .stats child ∧ child.fileCount = 2 ∧ child.totalBytes = 12 := by
  obtain ⟨⟨result, reported⟩, rolled⟩ : ∃ answer, rollup plainArrow .sequential
      sampleConfig "/data".toList 1 sampleInput = .ok answer :=
    rollup_ok plainArrow_documented ⟨by decide, by decide, by decide⟩ (by decide)
      (by decide)
  have answers : Answers sampleRows {"a".toList} 2 sampleInput :=
    ⟨.rfl, by decide, by decide, by decide⟩
  have times : ∀ row ∈ sampleRows, Shown row.mtime ∧ Shown row.atime := by
    have early : ∀ ns : Int, 0 ≤ ns → ns ≤ 20 → Shown (some ns) := by
      rintro ns low high _ ⟨⟩
      exact inCalendar_of_int64 (by omega) (by omega)
    have missing : Shown none := nofun
    intro row member
    simp only [sampleRows, List.mem_cons, List.not_mem_nil, or_false] at member
    rcases member with rfl | rfl | rfl
    · exact ⟨early 20 (by decide) (by decide), missing⟩
    · exact ⟨missing, missing⟩
    · exact ⟨early 10 (by decide) (by decide), early 3 (by decide) (by decide)⟩
  obtain ⟨counted, _, _, listed⟩ := cells_truthful plainArrow_documented
    (show sampleApi.rollup.rollupMaxGroups ≠ 0 by decide) answers times rolled (some 2)
    false "a".toList
  refine ⟨result, reported, rolled, ?_⟩
  rcases listed (by decide) with cut | ⟨child, shown⟩
  · obtain ⟨_, groups, _, finished⟩ := rollup_eq_ok plainArrow_documented rolled
    have few : groups.size ≤ 2 := finished.within (by decide)
    have length : result.children.length = groups.size := by
      rw [finished.children, (perm_children groups).length_eq, List.length_map]
      rfl
    have truncated := truncated_of_notAmongLargest cut
    have more : 2 < result.children.length := of_decide_eq_true truncated
    omega
  · obtain ⟨files, bytes⟩ := counted child shown
    exact ⟨child, shown, files.trans (by decide), bytes.trans (by decide)⟩

end Catwalk.Cells
