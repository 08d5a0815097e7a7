import Catwalk.Service.Contents

/-! A listing is the same whichever path served it. -/

namespace Catwalk.Service

/-- `list_dir` yields exactly the rows of the directory that satisfy the
filters, where `content` is what each directory holds at an epoch. -/
def Delivers (content : Option String → Text → List ListingRow)
    (state : State) : Label → Prop
  | .rows id batches _ => ∀ task, state.task id = some task →
      batches.flatten.Perm
        (matching (content task.epoch task.path) task.type task.name)
  | _ => True

/-- Every listing serves the content of its key. -/
def served (setting : Setting)
    (content : Option String → Text → List ListingRow) : Contract where
  listing key value := ∃ entry, value = some entry ∧
    Serves setting.cfg.listingCap (content key.epoch key.path) key.type key.name
      entry.listing
  rollup _ _ := True
  source _ _ := True

theorem served_kept (setting : Setting)
    (content : Option String → Text → List ListingRow) :
    (served setting content).Kept setting (Delivers content) where
  catalog _ _ _ _ _ _ _ _ := trivial
  rows state id batches elapsedS task flight source delivers found _ _ :=
    ⟨_, rfl, queryListing_serves elapsedS (delivers task found)⟩
  derive full epoch path type name stored complete := by
    obtain ⟨entry, same, serves⟩ := stored
    cases same
    exact ⟨_, rfl, deriveListing_serves serves complete type name⟩
  rollup _ _ _ _ _ _ _ _ _ _ := trivial

/-- Whatever the cache held and whoever filled it, `_base_listing` returns all
matching rows, or as many as the cap allows and says so. -/
theorem baseListing_serves (setting : Setting)
    (content : Option String → Text → List ListingRow) (state : State)
    (reachable : (system setting).Reachable (Delivers content) state)
    (id : Nat) (task : Task) (value : Option Cached) (fromCache : Bool)
    (found : state.task id = some task)
    (returned : task.place = .caching (.returned value fromCache)) :
    ∃ entry, value = some entry ∧
      (entry.listing.truncated = true ↔ setting.cfg.listingCap <
        (matching (content task.epoch task.path) task.type task.name).length) ∧
      (entry.listing.truncated = false → entry.listing.table.Perm
        (matching (content task.epoch task.path) task.type task.name)) ∧
      (entry.listing.truncated = true →
        entry.listing.table.length = setting.cfg.listingCap ∧
        entry.listing.table.Subperm
          (matching (content task.epoch task.path) task.type task.name)) := by
  have holds := (holds_of_reachable (served_kept setting content)
    reachable).task found
  rw [returned] at holds
  obtain ⟨entry, same, serves⟩ := holds
  exact ⟨entry, same, serves.truncated, serves.complete, serves.capped⟩

/-! A complete listing, and one of its directories alone derived from it. -/

def sampleContent : List ListingRow := [sampleRow 'd' "DIR", sampleRow 'f' "FILE"]

def asking : List Label :=
  .list .table ['a'] .all [] :: polling 0 ++ List.replicate 5 (.advance 0) ++
    [.catalog 0 true]

/-- The rows arrive the other way round, after an empty batch. -/
def answering : Label :=
  .rows 0 [[], [sampleRow 'f' "FILE"], [sampleRow 'd' "DIR"]] 0

def filtering : List Label :=
  List.replicate 4 (.advance 0) ++ .list .table ['a'] .dir [] :: reading 1 ++
    List.replicate 8 (.advance 1)

/-- The listing a task has been returned. -/
def State.returned (state : State) (id : Nat) : Option (Listing × Bool) :=
  match (state.task id).map Task.place with
  | some (.caching (.returned (some value) fromCache)) =>
      some (value.listing, fromCache)
  | _ => none

theorem State.returned_eq_some {state : State} {id : Nat} {listing : Listing}
    {fromCache : Bool} (returned : state.returned id = some (listing, fromCache)) :
    ∃ task value, state.task id = some task ∧ value.listing = listing ∧
      task.place = .caching (.returned (some value) fromCache) := by
  unfold State.returned at returned
  split at returned
  next value other place =>
    cases returned
    obtain ⟨task, found, place⟩ := Option.map_eq_some_iff.mp place
    exact ⟨task, value, found, rfl, place⟩
  · cases returned

theorem asking_delivers :
    (system sampleSetting).Meets (Delivers fun _ _ => sampleContent) sampleStart
      (asking ++ answering :: filtering) := by
  have quiet : ∀ label, (∀ id batches elapsedS,
      label ≠ .rows id batches elapsedS) → ∀ state,
        Delivers (fun _ _ => sampleContent) state label := by
    intro label notRows state
    cases label with
    | rows id batches elapsedS => exact absurd rfl (notRows id batches elapsedS)
    | _ => trivial
  have asked : ((system sampleSetting).run sampleStart ([] ++ asking)).map
      (fun state => (state.task 0).map fun task => (task.type, task.name)) =
        some (some (.all, [])) := by decide
  refine StepSystem.MeetsAfter.meets <|
    .quiet (fun label member => quiet label ?_) <| .cons ?_ <|
    List.append_nil filtering ▸
      .quiet (fun label member => quiet label ?_) .nil
  · rintro id batches elapsedS rfl
    simp [asking, polling] at member
  · intro middle ran task found
    rw [ran, Option.map_some, found, Option.map_some] at asked
    obtain ⟨type, name⟩ := Prod.mk.inj (Option.some.inj (Option.some.inj asked))
    rw [type, name, matching_all]
    exact List.Perm.swap _ _ _
  · rintro id batches elapsedS rfl
    simp [filtering, reading] at member

theorem derivedListing_serves :
    ∃ final task value, (system sampleSetting).run sampleStart
        (asking ++ answering :: filtering) = some final ∧
      final.task 1 = some task ∧
      task.place = .caching (.returned (some value) false) ∧
      value.listing = ⟨[sampleRow 'd' "DIR"], false, 0⟩ ∧
      ∃ entry, some value = some entry ∧
        (entry.listing.truncated = true ↔ sampleSetting.cfg.listingCap <
          (matching sampleContent task.type task.name).length) ∧
        (entry.listing.truncated = false → entry.listing.table.Perm
          (matching sampleContent task.type task.name)) ∧
        (entry.listing.truncated = true →
          entry.listing.table.length = sampleSetting.cfg.listingCap ∧
          entry.listing.table.Subperm
            (matching sampleContent task.type task.name)) := by
  have derived : ((system sampleSetting).run sampleStart
      (asking ++ answering :: filtering)).bind (·.returned 1) =
        some (⟨[sampleRow 'd' "DIR"], false, 0⟩, false) := by decide
  obtain ⟨final, ran, derived⟩ := Option.bind_eq_some_iff.mp derived
  obtain ⟨task, value, found, listing, returned⟩ := State.returned_eq_some derived
  refine ⟨final, task, value, ran, found, returned, listing, ?_⟩
  exact baseListing_serves sampleSetting (fun _ _ => sampleContent) final
    (.of_run (.start sampleStart_initial) asking_delivers ran) 1 task _ _ found
    returned

end Catwalk.Service
