import Catwalk.Service.Contents

/-! Which snapshot the cached and reported rows come from. -/

namespace Catwalk.Service

/-- What a transaction that asks for an epoch may read: its snapshot, or the
live table when there is none to pin or its lookup has failed. -/
def Source.ReadsFor (epoch : Option String) (source : Source) : Prop :=
  match State.pinned epoch with
  | none => source = .live none
  | some name => source = .snapshot name ∨ source = .live (some name)

/-- What it reads when no lookup fails. -/
def Source.Pins (epoch : Option String) (source : Source) : Prop :=
  match State.pinned epoch with
  | none => source = .live none
  | some name => source = .snapshot name

/-- All rows under a key were asked for at its epoch, and read accordingly. -/
def readAs (reads : Option String → Source → Prop) : Contract where
  listing key value := ∀ entry, value = some entry →
    entry.epoch = key.epoch ∧ reads key.epoch entry.source
  rollup key value := ∀ entry, value = some entry →
    entry.result.catalogSnapshot = key.1 ∧ reads key.1 entry.scan ∧
      reads key.1 entry.seed
  source := reads

theorem readAs_kept {setting : Setting} {allowed : State → Label → Prop}
    {reads : Option String → Source → Prop}
    (catalog : ∀ state after id usable epoch source,
      allowed state (.catalog id usable) →
      state.catalog setting epoch usable = some (source, after) →
      reads epoch source) : (readAs reads).Kept setting allowed where
  catalog := catalog
  rows state id batches elapsedS task flight source _ _ _ read := by
    rintro entry same
    cases same
    exact ⟨rfl, read⟩
  derive full epoch path type name stored _ := by
    rintro entry same
    cases same
    exact stored full rfl
  rollup path depth input result reported scan seed scanned seeded finished := by
    rintro entry same
    cases same
    exact ⟨RollupService.rollup_snapshot finished, scanned, seeded⟩

theorem readsFor_of_catalog {setting : Setting} {state after : State}
    {epoch : Option String} {usable : Bool} {source : Source}
    (chosen : state.catalog setting epoch usable = some (source, after)) :
    source.ReadsFor epoch := by
  cases isPinned : State.pinned epoch with
  | none =>
    rw [State.catalog, isPinned] at chosen
    rw [Source.ReadsFor, isPinned]
    cases chosen
    rfl
  | some name =>
    rw [State.catalog, isPinned] at chosen
    rw [Source.ReadsFor, isPinned]
    cases usable with
    | true =>
      cases chosen
      exact .inl rfl
    | false =>
      obtain ⟨epochs, _, same⟩ := Option.map_eq_some_iff.mp chosen
      cases same
      exact .inr rfl

/-- No pinned lookup fails. -/
def Usable (_ : State) : Label → Prop
  | .catalog _ usable => usable = true
  | _ => True

theorem pins_of_catalog {setting : Setting} {state after : State}
    {epoch : Option String} {source : Source}
    (chosen : state.catalog setting epoch true = some (source, after)) :
    source.Pins epoch := by
  cases isPinned : State.pinned epoch with
  | none =>
    rw [State.catalog, isPinned] at chosen
    rw [Source.Pins, isPinned]
    cases chosen
    rfl
  | some name =>
    rw [State.catalog, isPinned] at chosen
    rw [Source.Pins, isPinned]
    cases chosen
    rfl

/-- Every cached listing and rollup under the key of a snapshot was read from
that snapshot, or from the live table by transactions whose lookup of it
failed; when no lookup fails, from that snapshot alone. -/
theorem caches_read_their_epoch (setting : Setting) (state : State)
    (name : String) (named : name ≠ "") :
    ((system setting).Reachable StepSystem.AnyStep state →
      (∀ path type filter entry value,
        state.listings.cache.d.get? ⟨some name, path, type, filter⟩ =
          some entry → entry.value = some value →
        value.epoch = some name ∧ (value.source = .snapshot name ∨
          value.source = .live (some name))) ∧
      (∀ path depth entry value,
        state.rollups.cache.d.get? (some name, path, depth) = some entry →
        entry.value = some value →
        value.result.catalogSnapshot = some name ∧
          (value.scan = .snapshot name ∨ value.scan = .live (some name)) ∧
          (value.seed = .snapshot name ∨ value.seed = .live (some name)))) ∧
    ((system setting).Reachable Usable state →
      (∀ path type filter entry value,
        state.listings.cache.d.get? ⟨some name, path, type, filter⟩ =
          some entry → entry.value = some value →
        value.source = .snapshot name) ∧
      (∀ path depth entry value,
        state.rollups.cache.d.get? (some name, path, depth) = some entry →
        entry.value = some value →
        value.result.catalogSnapshot = some name ∧
          value.scan = .snapshot name ∧ value.seed = .snapshot name)) := by
  have isPinned : State.pinned (some name) = some name := by
    unfold State.pinned
    split
    next empty => exact absurd (Option.some.inj empty) named
    next => contradiction
    next other _ same => exact same.symm
  have readsFor : ∀ {source : Source}, source.ReadsFor (some name) →
      source = .snapshot name ∨ source = .live (some name) := by
    intro source reads
    unfold Source.ReadsFor at reads
    rwa [isPinned] at reads
  have pins : ∀ {source : Source}, source.Pins (some name) →
      source = .snapshot name := by
    intro source reads
    unfold Source.Pins at reads
    rwa [isPinned] at reads
  constructor
  · intro reachable
    have holds := holds_of_reachable (readAs_kept
      fun _ _ _ _ _ _ _ chosen => readsFor_of_catalog chosen) reachable
    constructor
    · intro path type filter entry value found stored
      obtain ⟨asked, reads⟩ := holds.listings.stored _ entry found value stored
      exact ⟨asked, readsFor reads⟩
    · intro path depth entry value found stored
      obtain ⟨reported, scan, seed⟩ := holds.rollups _ entry found value stored
      exact ⟨reported, readsFor scan, readsFor seed⟩
  · intro reachable
    have kept : (readAs Source.Pins).Kept setting Usable := by
      refine readAs_kept fun _ _ _ usable _ _ permitted chosen => ?_
      cases permitted
      exact pins_of_catalog chosen
    have holds := holds_of_reachable kept reachable
    constructor
    · intro path type filter entry value found stored
      exact pins (holds.listings.stored _ entry found value stored).2
    · intro path depth entry value found stored
      obtain ⟨reported, scan, seed⟩ := holds.rollups _ entry found value stored
      exact ⟨reported, pins scan, pins seed⟩

/-! One rollup whose second transaction finds its snapshot, or not. -/

def rolling (usable : Bool) : List Label :=
  .rollup ['a'] 1 :: polling 0 ++ [.advance 0, .advance 0, .catalog 0 true,
    .scanned 0 [], .catalog 0 usable, .seeded 0 [] [] 0, .advance 0, .advance 0]

def sampleKey : RollupKey := (some Epoch.olderSnapshot, ['/', 'a', '/'], 1)

/-- The snapshot named by a cached rollup, and the tables it was read from. -/
def State.rolled (state : State) (key : RollupKey) :
    Option (Option String × Source × Source) :=
  ((state.rollups.cache.d.get? key).bind CacheEntry.value).map fun value =>
    (value.result.catalogSnapshot, value.scan, value.seed)

theorem State.rolled_eq_some {state : State} {key : RollupKey}
    {snapshot : Option String} {scan seed : Source}
    (rolled : state.rolled key = some (snapshot, scan, seed)) :
    ∃ entry value, state.rollups.cache.d.get? key = some entry ∧
      entry.value = some value ∧ value.result.catalogSnapshot = snapshot ∧
      value.scan = scan ∧ value.seed = seed := by
  obtain ⟨value, found, shown⟩ := Option.map_eq_some_iff.mp rolled
  obtain ⟨entry, found, stored⟩ := Option.bind_eq_some_iff.mp found
  cases shown
  exact ⟨entry, value, found, stored, rfl, rfl, rfl⟩

theorem agedOut_rollup_mixes :
    Initial sampleStart ∧ ∃ final entry value,
      (system sampleSetting).run sampleStart (rolling false) = some final ∧
      final.rollups.cache.d.get? sampleKey = some entry ∧
      entry.value = some value ∧
      value.result.catalogSnapshot = some Epoch.olderSnapshot ∧
      value.scan = .snapshot Epoch.olderSnapshot ∧
      value.seed = .live (some Epoch.olderSnapshot) := by
  have rolled : ((system sampleSetting).run sampleStart (rolling false)).bind
      (·.rolled sampleKey) = some (some Epoch.olderSnapshot,
        .snapshot Epoch.olderSnapshot, .live (some Epoch.olderSnapshot)) := by
    decide
  obtain ⟨final, ran, rolled⟩ := Option.bind_eq_some_iff.mp rolled
  obtain ⟨entry, value, cached⟩ := State.rolled_eq_some rolled
  exact ⟨sampleStart_initial, final, entry, value, ran, cached⟩

theorem usable_rollup_reads_epoch :
    ∃ final entry value,
      (system sampleSetting).run sampleStart (rolling true) = some final ∧
      final.rollups.cache.d.get? sampleKey = some entry ∧
      entry.value = some value ∧
      value.result.catalogSnapshot = some Epoch.olderSnapshot ∧
      value.scan = .snapshot Epoch.olderSnapshot ∧
      value.seed = .snapshot Epoch.olderSnapshot := by
  have rolled : ((system sampleSetting).run sampleStart (rolling true)).bind
      (·.rolled sampleKey) = some (some Epoch.olderSnapshot,
        .snapshot Epoch.olderSnapshot, .snapshot Epoch.olderSnapshot) := by
    decide
  obtain ⟨final, ran, rolled⟩ := Option.bind_eq_some_iff.mp rolled
  obtain ⟨entry, value, found, stored, _⟩ := State.rolled_eq_some rolled
  have meets : (system sampleSetting).Meets Usable sampleStart (rolling true) := by
    simp [rolling, polling, StepSystem.Meets, Usable]
  refine ⟨final, entry, value, ran, found, stored, ?_⟩
  exact ((caches_read_their_epoch sampleSetting final Epoch.olderSnapshot
    (by decide)).2 (.of_run (.start sampleStart_initial) meets ran)).2
      _ _ entry value found stored

end Catwalk.Service
