import Catwalk.Cache.Ledger
import Mathlib.Data.List.DropRight

/-! What a cache returns and what it evicts, in terms of its history alone. -/

namespace Catwalk

variable {Key Value : Type} [DecidableEq Key]

namespace CacheEvent

/-- A successful put or get of the key. -/
def uses (key : Key) : CacheEvent Key Value → Bool
  | stored other _ _ _ _ _ | used other => other = key
  | refused _ _ | invalidated _ _ => false

/-- After it an earlier value of the key is no longer stored. -/
def Removes (key : Key) : CacheEvent Key Value → Prop
  | stored other _ _ _ _ evicted => other = key ∨ key ∈ evicted
  | refused other _ => other = key
  | used _ => False
  | invalidated none _ => True
  | invalidated (some other) _ => other = key

end CacheEvent

/-- The last put of the key stored the value at `stamp`, and since then the
key was neither invalidated nor evicted. -/
def Recalls (history : List (CacheEvent Key Value)) (key : Key)
    (value : Option Value) (stamp : Int) (nbytes : Nat) : Prop :=
  ∃ before replaced evicted later,
    history = before ++
      .stored key value stamp nbytes replaced evicted :: later ∧
    ∀ event ∈ later, ¬ event.Removes key

/-- The number of events up to the last use of the key. -/
def lastUse (history : List (CacheEvent Key Value)) (key : Key) : Nat :=
  (history.rdropWhile fun event => ¬ event.uses key).length

section History

variable {past : List (CacheEvent Key Value)} {event : CacheEvent Key Value}
  {key : Key} {value : Option Value} {stamp : Int} {nbytes : Nat}

omit [DecidableEq Key] in
theorem not_recalls_nil : ¬ Recalls [] key value stamp nbytes := by
  intro recalls
  obtain ⟨before, replaced, evicted, later, split, _⟩ := recalls
  simp at split

omit [DecidableEq Key] in
theorem recalls_concat :
    Recalls (past ++ [event]) key value stamp nbytes ↔
      (∃ replaced evicted,
        event = .stored key value stamp nbytes replaced evicted) ∨
      (Recalls past key value stamp nbytes ∧ ¬ event.Removes key) := by
  constructor
  · intro recalls
    obtain ⟨before, replaced, evicted, later, split, kept⟩ := recalls
    rcases List.eq_nil_or_concat later with rfl | ⟨later, last, rfl⟩
    · obtain ⟨_, same⟩ := List.append_inj' split rfl
      exact .inl ⟨replaced, evicted, List.singleton_inj.mp same⟩
    · rw [List.concat_eq_append, ← List.cons_append, ← List.append_assoc]
        at split
      obtain ⟨rest, same⟩ := List.append_inj' split rfl
      have same := List.singleton_inj.mp same
      rw [List.concat_eq_append] at kept
      refine .inr ⟨⟨before, replaced, evicted, later, rest, ?_⟩, ?_⟩
      · intro other member
        exact kept other (List.mem_append_left _ member)
      · rw [same]
        exact kept last (List.mem_append_right _ (List.mem_singleton_self _))
  · intro either
    rcases either with ⟨replaced, evicted, rfl⟩ | ⟨recalls, kept⟩
    · exact ⟨past, replaced, evicted, [], rfl, by simp⟩
    · obtain ⟨before, replaced, evicted, later, split, earlier⟩ := recalls
      refine ⟨before, replaced, evicted, later ++ [event], ?_, ?_⟩
      · rw [split, List.append_assoc, List.cons_append]
      · intro other member
        rcases List.mem_append.mp member with before | last
        · exact earlier other before
        · exact List.mem_singleton.mp last ▸ kept

theorem lastUse_concat_of_uses (uses : event.uses key = true) :
    lastUse (past ++ [event]) key = past.length + 1 := by
  rw [lastUse, List.rdropWhile_concat_neg _ _ _ (by simp [uses]),
    List.length_append]
  rfl

theorem lastUse_concat_of_not_uses (unused : event.uses key = false) :
    lastUse (past ++ [event]) key = lastUse past key := by
  rw [lastUse, List.rdropWhile_concat_pos _ _ _ (by simp [unused])]
  rfl

theorem lastUse_le (past : List (CacheEvent Key Value)) (key : Key) :
    lastUse past key ≤ past.length :=
  (List.rdropWhile_prefix _ past).length_le

end History

namespace ClockedCache

open TTLCache

/-- The stored entries are the recalled ones, less some that have expired,
and they stand in the order of their last use. -/
structure Tracks (ttl : Int) (history : List (CacheEvent Key Value))
    (state : ClockedCache Key Value) : Prop where
  of_stored : ∀ key entry, state.cache.d.get? key = some entry →
    ∃ stamp, entry.expires = stamp + ttl ∧
      Recalls history key entry.value stamp entry.nbytes
  of_recalled : ∀ key value stamp nbytes,
    Recalls history key value stamp nbytes → state.clock < stamp + ttl →
    state.cache.d.get? key = some ⟨value, stamp + ttl, nbytes⟩
  ordered : state.cache.d.entries.Pairwise fun older newer =>
    lastUse history older.1 < lastUse history newer.1

variable {ttl : Int} {maxBytes : Nat} {past : List (CacheEvent Key Value)}
  {state after : ClockedCache Key Value}

/-- A call that uses no key and removes what its event names, and perhaps
entries that have expired. -/
theorem Tracks.shrink (tracks : Tracks ttl past state)
    {event : Option (CacheEvent Key Value)} (later : state.clock ≤ after.clock)
    (unused : ∀ key, ∀ happened ∈ event, happened.uses key = false)
    (sublist : after.cache.d.entries.Sublist state.cache.d.entries)
    (removed : ∀ key entry, after.cache.d.get? key = some entry →
      ∀ happened ∈ event, ¬ happened.Removes key)
    (kept : ∀ key entry, state.cache.d.get? key = some entry →
      after.clock < entry.expires →
      (∀ happened ∈ event, ¬ happened.Removes key) →
      after.cache.d.get? key = some entry) :
    Tracks ttl (past ++ event.toList) after := by
  have recalls : ∀ key value stamp nbytes,
      Recalls (past ++ event.toList) key value stamp nbytes ↔
        Recalls past key value stamp nbytes ∧
          ∀ happened ∈ event, ¬ happened.Removes key := by
    intro key value stamp nbytes
    cases event with
    | none => simp
    | some happened =>
        rw [Option.toList_some, recalls_concat]
        constructor
        · intro either
          rcases either with ⟨replaced, evicted, rfl⟩ | ⟨recalls, kept⟩
          · have := unused key _ rfl
            simp [CacheEvent.uses] at this
          · exact ⟨recalls, by simpa using kept⟩
        · intro both
          exact .inr ⟨both.1, both.2 happened rfl⟩
  have uses : ∀ key, lastUse (past ++ event.toList) key = lastUse past key := by
    intro key
    cases event with
    | none => rw [Option.toList_none, List.append_nil]
    | some happened => exact lastUse_concat_of_not_uses (unused key _ rfl)
  constructor
  · intro key entry found
    have member := OrderedDict.get?_eq_some_iff.mp found
    obtain ⟨stamp, expires, recalled⟩ := tracks.of_stored key entry
      (OrderedDict.get?_eq_some_iff.mpr (sublist.subset member))
    refine ⟨stamp, expires, ?_⟩
    rw [recalls]
    exact ⟨recalled, removed key entry found⟩
  · intro key value stamp nbytes recalled live
    rw [recalls] at recalled
    have found := tracks.of_recalled key value stamp nbytes recalled.1
      (lt_of_le_of_lt later live)
    exact kept key _ found live recalled.2
  · simp only [uses]
    exact tracks.ordered.sublist sublist

/-- A use moves its key to the end. -/
theorem Tracks.use (tracks : Tracks ttl past state)
    {event : CacheEvent Key Value} {key : Key} {entry : CacheEntry Value}
    {others : List (Key × CacheEntry Value)}
    (uses : ∀ other, event.uses other = decide (key = other))
    (split : after.cache.d.entries = others ++ [(key, entry)])
    (sublist : others.Sublist state.cache.d.entries)
    (of_stored : ∀ other entry, after.cache.d.get? other = some entry →
      ∃ stamp, entry.expires = stamp + ttl ∧
        Recalls (past ++ [event]) other entry.value stamp entry.nbytes)
    (of_recalled : ∀ other value stamp nbytes,
      Recalls (past ++ [event]) other value stamp nbytes →
      after.clock < stamp + ttl →
      after.cache.d.get? other = some ⟨value, stamp + ttl, nbytes⟩) :
    Tracks ttl (past ++ [event]) after := by
  refine ⟨of_stored, of_recalled, ?_⟩
  have nodup := after.cache.d.nodup
  rw [split, List.map_append, List.nodup_append] at nodup
  have unused : ∀ other ∈ others, event.uses other.1 = false := by
    intro other member
    rw [uses]
    apply decide_eq_false
    intro same
    exact nodup.2.2 other.1 (List.mem_map_of_mem member) key
      (List.mem_singleton_self key) same.symm
  rw [split, List.pairwise_append]
  refine ⟨?_, List.pairwise_singleton _ _, ?_⟩
  · have kept := tracks.ordered.sublist sublist
    refine kept.imp_of_mem ?_
    intro older newer olderMem newerMem earlier
    rw [lastUse_concat_of_not_uses (unused older olderMem),
      lastUse_concat_of_not_uses (unused newer newerMem)]
    exact earlier
  · intro older member newest same
    rw [List.mem_singleton.mp same,
      lastUse_concat_of_not_uses (unused older member),
      lastUse_concat_of_uses (by rw [uses]; exact decide_eq_true rfl)]
    exact Nat.lt_succ_of_le (lastUse_le past older.1)

theorem Tracks.get (tracks : Tracks ttl past state) {now : Int}
    (later : state.clock ≤ now) (key : Key) :
    Tracks ttl (past ++ (state.observe (.get now key)).toList)
      ⟨now, (state.cache.get now key).2⟩ := by
  have lookup := get?_get state.cache now key
  simp only [observe]
  split
  next quiet =>
    refine tracks.shrink later ?_ ?_ ?_ ?_
    · intro other happened none
      cases none
    · simp only [TTLCache.get] at quiet ⊢
      split
      next => exact List.Sublist.refl _
      next entry found =>
        rw [found] at quiet
        split
        next => exact List.filter_sublist
        next live =>
          simp only [if_neg live] at quiet
          omega
    · intro other entry found happened none
      cases none
    · intro other entry found live _
      exact (lookup other entry).mpr ⟨found, fun _ => live⟩
  next hit =>
    have stored : ∃ entry, state.cache.d.get? key = some entry ∧
        ¬ entry.expires ≤ now := by
      simp only [TTLCache.get] at hit
      split at hit
      · exact absurd rfl hit
      next entry found =>
        split at hit
        · exact absurd rfl hit
        next live => exact ⟨entry, found, live⟩
    obtain ⟨entry, found, live⟩ := stored
    have moved : (state.cache.get now key).2.d =
        state.cache.d.moveToEnd key := by
      simp only [TTLCache.get, found, if_neg live]
    have same : ∀ other, (state.cache.get now key).2.d.get? other =
        state.cache.d.get? other := by
      intro other
      rw [moved, OrderedDict.get?_moveToEnd]
    have recalls : ∀ other value stamp nbytes,
        Recalls (past ++ [.used key]) other value stamp nbytes ↔
          Recalls past other value stamp nbytes := by
      intro other value stamp nbytes
      rw [recalls_concat]
      simp [CacheEvent.Removes]
    have split : (state.cache.get now key).2.d.entries =
        (state.cache.d.erase key).entries ++ [(key, entry)] := by
      rw [moved, OrderedDict.entries_moveToEnd found]
    refine tracks.use (fun other => rfl) split List.filter_sublist ?_ ?_
    · intro other entry found
      rw [same] at found
      obtain ⟨stamp, expires, recalled⟩ := tracks.of_stored other entry found
      exact ⟨stamp, expires, (recalls _ _ _ _).mpr recalled⟩
    · intro other value stamp nbytes recalled live
      rw [same]
      exact tracks.of_recalled other value stamp nbytes
        ((recalls _ _ _ _).mp recalled) (lt_of_le_of_lt later live)

theorem Tracks.expiresIn (tracks : Tracks ttl past state) {now : Int}
    (later : state.clock ≤ now) (key : Key) :
    Tracks ttl past ⟨now, (state.cache.expiresIn now key).2⟩ := by
  have tracks' : Tracks ttl
      (past ++ (none : Option (CacheEvent Key Value)).toList)
      ⟨now, (state.cache.expiresIn now key).2⟩ := by
    refine tracks.shrink later ?_ ?_ ?_ ?_
    · intro other happened none
      cases none
    · simp only [TTLCache.expiresIn]
      split
      · exact List.Sublist.refl _
      · split
        · exact List.filter_sublist
        · exact List.Sublist.refl _
    · intro other entry found happened none
      cases none
    · intro other entry found live _
      simp only [TTLCache.expiresIn]
      split
      · exact found
      next looked foundKey =>
        split
        next dead =>
          change (state.cache.d.erase key).get? other = some entry
          rw [OrderedDict.get?_erase, if_neg ?_, found]
          intro same
          rw [same, foundKey, Option.some.injEq] at found
          have live : now < entry.expires := live
          rw [found] at dead
          omega
        next => exact found
  rwa [Option.toList_none, List.append_nil] at tracks'

theorem Tracks.prune (tracks : Tracks ttl past state) {now : Int}
    (later : state.clock ≤ now) :
    Tracks ttl past ⟨now, state.cache.prune now⟩ := by
  have tracks' : Tracks ttl
      (past ++ (none : Option (CacheEvent Key Value)).toList)
      ⟨now, state.cache.prune now⟩ := by
    refine tracks.shrink later ?_ List.filter_sublist ?_ ?_
    · intro other happened none
      cases none
    · intro other entry found happened none
      cases none
    · intro other entry found live _
      have live : now < entry.expires := live
      rw [TTLCache.prune, pruneExpired, OrderedDict.get?_filter_eq_some_iff]
      exact ⟨found, decide_eq_true (not_le.mpr live)⟩
  rwa [Option.toList_none, List.append_nil] at tracks'

theorem Tracks.invalidate (tracks : Tracks ttl past state)
    (key : Option Key) :
    Tracks ttl (past ++ (state.observe (.invalidate key)).toList)
      ⟨state.clock, state.cache.invalidate key⟩ := by
  simp only [observe]
  refine tracks.shrink le_rfl ?_ ?_ ?_ ?_
  · intro other happened same
    cases same
    rfl
  · cases key with
    | none => exact List.nil_sublist _
    | some key =>
        simp only [TTLCache.invalidate, entries_discard]
        exact List.filter_sublist
  · intro other entry found happened same
    cases same
    cases key with
    | none => cases found
    | some key =>
        simp only [TTLCache.invalidate, get?_discard] at found
        split at found
        · cases found
        next differ => exact fun same => differ same.symm
  · intro other entry found live kept
    cases key with
    | none => exact absurd trivial (kept _ rfl)
    | some key =>
        have differ : key ≠ other := kept _ rfl
        simp only [TTLCache.invalidate, get?_discard]
        rw [if_neg differ.symm]
        exact found

theorem Tracks.put (tracks : Tracks ttl past state)
    (accounted : state.cache.Accounted) (sameTtl : state.cache.ttl = ttl)
    {sweep stamp : Int} (later : state.clock ≤ sweep)
    (ordered : sweep ≤ stamp) {key : Key} {value : Option Value}
    {nbytes : Nat} {stored : Bool} {kept : TTLCache Key Value}
    (result : state.cache.put sweep stamp key value nbytes =
      some (stored, kept)) :
    Tracks ttl (past ++
        (state.observe (.put sweep stamp key value nbytes)).toList)
      ⟨stamp, kept⟩ := by
  have swept := get?_swept state.cache sweep key
  simp only [observe, result]
  rcases put_cases accounted sweep stamp key value nbytes with
    ⟨_, refused⟩ | ⟨_, dropped, _, accepted, stores⟩
  · cases result.symm.trans refused
    refine tracks.shrink (later.trans ordered) ?_ ?_ ?_ ?_
    · intro other happened same
      cases same
      rfl
    · simp only [entries_swept]
      exact List.filter_sublist
    · intro other entry found happened same
      cases same
      exact fun same => ((swept other entry).mp found).1 same.symm
    · intro other entry found live kept
      have differ : key ≠ other := kept _ rfl
      exact (swept other entry).mpr
        ⟨differ.symm, found, lt_of_le_of_lt ordered live⟩
  · cases result.symm.trans accepted
    have entries := stores.entries
    have old : ∀ {other entry}, (other, entry) ∈
        (state.cache.remaining sweep key).drop dropped →
        other ≠ key ∧ state.cache.d.get? other = some entry := by
      intro other entry member
      have member := List.mem_of_mem_drop member
      obtain ⟨member, test⟩ := List.mem_filter.mp member
      exact ⟨(of_decide_eq_true test).2,
        OrderedDict.get?_eq_some_iff.mpr member⟩
    refine tracks.use (fun other => rfl) entries
      ((List.drop_sublist _ _).trans List.filter_sublist) ?_ ?_
    · intro other entry found
      have member := OrderedDict.get?_eq_some_iff.mp found
      rw [entries] at member
      rcases List.mem_append.mp member with older | newest
      · obtain ⟨differ, before⟩ := old older
        obtain ⟨stamp', expires, recalled⟩ :=
          tracks.of_stored other entry before
        refine ⟨stamp', expires, recalls_concat.mpr (.inr ⟨recalled, ?_⟩)⟩
        intro removes
        rcases removes with same | evicted
        · exact differ same.symm
        · have gone := of_decide_eq_true (List.mem_filter.mp evicted).2
          exact gone (OrderedDict.mem_keys_iff.mpr ⟨entry, found⟩)
      · cases List.mem_singleton.mp newest
        exact ⟨stamp, by rw [sameTtl],
          recalls_concat.mpr (.inl ⟨_, _, rfl⟩)⟩
    · intro other value' stamp' nbytes' recalled live
      rcases recalls_concat.mp recalled with
        ⟨replaced, evicted, same⟩ | ⟨recalled, notRemoved⟩
      · cases same
        have keeps := stores.keeps
        rwa [sameTtl] at keeps
      · have before := tracks.of_recalled other value' stamp' nbytes' recalled
          (lt_of_le_of_lt (later.trans ordered) live)
        have differ : other ≠ key := fun same => notRemoved (.inl same.symm)
        have left : (other, ⟨value', stamp' + ttl, nbytes'⟩) ∈
            state.cache.remaining sweep key := by
          apply List.mem_filter.mpr
          refine ⟨OrderedDict.get?_eq_some_iff.mp before, ?_⟩
          exact decide_eq_true ⟨lt_of_le_of_lt ordered live, differ⟩
        have present : other ∈ kept.d.keys := by
          by_contra gone
          refine notRemoved (.inr ?_)
          apply List.mem_filter.mpr
          exact ⟨List.mem_map_of_mem left, decide_eq_true gone⟩
        obtain ⟨entry, found⟩ := OrderedDict.mem_keys_iff.mp present
        have member := OrderedDict.get?_eq_some_iff.mp found
        rw [entries] at member
        rcases List.mem_append.mp member with older | newest
        · have same := (old older).2
          rw [before] at same
          rw [found, ← same]
        · cases List.mem_singleton.mp newest
          exact absurd rfl differ

theorem Tracks.step (tracks : Tracks ttl past state)
    (balanced : Balanced ttl maxBytes past state) {call : CacheCall Key Value}
    (stepped : state.step call = some after) :
    Tracks ttl (past ++ (state.observe call).toList) after := by
  cases call with
  | put sweep stamp key value nbytes =>
      obtain ⟨⟨later, ordered⟩, stored, kept, result, rfl⟩ :=
        step_put.mp stepped
      exact tracks.put balanced.accounted balanced.sameTtl later ordered result
  | get now key =>
      obtain ⟨later, rfl⟩ := step_get.mp stepped
      exact tracks.get later key
  | expiresIn now key =>
      obtain ⟨later, rfl⟩ := step_expiresIn.mp stepped
      simpa [observe] using tracks.expiresIn later key
  | prune now =>
      obtain ⟨later, rfl⟩ := step_prune.mp stepped
      simpa [observe] using tracks.prune later
  | invalidate key =>
      cases stepped
      exact tracks.invalidate key

theorem tracks_new {start : ClockedCache Key Value}
    (initial : start.cache = .new ttl maxBytes) : Tracks ttl [] start := by
  have empty : start.cache.d = .empty := by rw [initial]; rfl
  constructor
  · intro key entry found
    rw [empty] at found
    cases found
  · intro key value stamp nbytes recalled
    exact absurd recalled not_recalls_nil
  · rw [empty]
    exact List.Pairwise.nil

theorem run_tracks {start final : ClockedCache Key Value}
    {schedule : List (CacheCall Key Value)}
    (initial : start.cache = .new ttl maxBytes)
    (ran : (system ttl maxBytes).run start schedule = some final) :
    Tracks ttl (history ttl maxBytes start schedule) final := by
  have preserved : ∀ (past : List (CacheEvent Key Value)) state call after,
      Balanced ttl maxBytes past state ∧ Tracks ttl past state →
      (system ttl maxBytes).step state call = some after →
      Balanced ttl maxBytes (past ++ (state.observe call).toList) after ∧
        Tracks ttl (past ++ (state.observe call).toList) after := by
    intro past state call after both stepped
    exact ⟨both.1.step stepped, both.2.step both.1 stepped⟩
  have both := StepSystem.run_observations preserved ran
    ⟨balanced_new initial, tracks_new initial⟩
  exact both.2

/-- An entry is stored and alive when the history recalls it. -/
theorem Tracks.live_iff (tracks : Tracks ttl past state) {now : Int}
    (later : state.clock ≤ now) (key : Key) (value : Option Value) :
    (∃ entry, state.cache.d.get? key = some entry ∧ now < entry.expires ∧
      entry.value = value) ↔
    ∃ stamp nbytes, Recalls past key value stamp nbytes ∧
      now < stamp + ttl := by
  constructor
  · intro stored
    obtain ⟨entry, found, live, rfl⟩ := stored
    obtain ⟨stamp, expires, recalls⟩ := tracks.of_stored key entry found
    exact ⟨stamp, entry.nbytes, recalls, expires ▸ live⟩
  · intro recalled
    obtain ⟨stamp, nbytes, recalls, live⟩ := recalled
    have found := tracks.of_recalled key value stamp nbytes recalls
      (lt_of_le_of_lt later live)
    exact ⟨_, found, live, rfl⟩

theorem Tracks.mem_remaining (tracks : Tracks ttl past state) {sweep : Int}
    (later : state.clock ≤ sweep) (key other : Key)
    (entry : CacheEntry Value) :
    (other, entry) ∈ state.cache.remaining sweep key ↔
      other ≠ key ∧ ∃ stamp, Recalls past other entry.value stamp entry.nbytes ∧
        entry.expires = stamp + ttl ∧ sweep < stamp + ttl := by
  rw [remaining, List.mem_filter, ← OrderedDict.get?_eq_some_iff,
    decide_eq_true_eq]
  constructor
  · intro left
    obtain ⟨found, live, differ⟩ := left
    obtain ⟨stamp, expires, recalls⟩ := tracks.of_stored other entry found
    exact ⟨differ, stamp, recalls, expires, expires ▸ live⟩
  · intro recalled
    obtain ⟨differ, stamp, recalls, expires, live⟩ := recalled
    have found := tracks.of_recalled other entry.value stamp entry.nbytes
      recalls (lt_of_le_of_lt later live)
    rw [← expires] at found live
    exact ⟨found, live, differ⟩

/-- A lookup returns what the history recalls, and a put that stores its key
drops the fewest of the remaining entries that it can, the longest unused
first. -/
theorem cache_refines_history {start final : ClockedCache Key Value}
    {schedule : List (CacheCall Key Value)}
    (initial : start.cache = .new ttl maxBytes)
    (ran : (system ttl maxBytes).run start schedule = some final) :
    (∀ now key, final.clock ≤ now →
      (∀ value, (final.cache.get now key).1 = some value ↔
        ∃ stamp nbytes, Recalls (history ttl maxBytes start schedule) key
          (some value) stamp nbytes ∧ now < stamp + ttl) ∧
      ((final.cache.get now key).2.hits = final.cache.hits + 1 ↔
        ∃ value stamp nbytes, Recalls (history ttl maxBytes start schedule) key
          value stamp nbytes ∧ now < stamp + ttl)) ∧
    (∀ sweep stamp key value nbytes, final.clock ≤ sweep →
      ((∃ after, final.cache.put sweep stamp key value nbytes =
          some (true, after)) ↔ maxBytes = 0 ∨ nbytes ≤ maxBytes) ∧
      ∀ after, final.cache.put sweep stamp key value nbytes =
          some (true, after) →
        let remaining := final.cache.remaining sweep key
        (∀ other entry, (other, entry) ∈ remaining ↔
          other ≠ key ∧ ∃ stamp, Recalls (history ttl maxBytes start schedule)
            other entry.value stamp entry.nbytes ∧
            entry.expires = stamp + ttl ∧ sweep < stamp + ttl) ∧
        (remaining.Pairwise fun older newer =>
          lastUse (history ttl maxBytes start schedule) older.1 <
            lastUse (history ttl maxBytes start schedule) newer.1) ∧
        ∃ dropped ≤ remaining.length,
          after.d.entries = remaining.drop dropped ++
            [(key, ⟨value, stamp + ttl, nbytes⟩)] ∧
          (maxBytes ≠ 0 →
            totalNbytes (remaining.drop dropped) + nbytes ≤ maxBytes) ∧
          ∀ fewer < dropped, maxBytes ≠ 0 ∧
            maxBytes < totalNbytes (remaining.drop fewer) + nbytes) := by
  have balanced := run_balanced initial ran
  have tracks := run_tracks initial ran
  refine ⟨fun now key later => ⟨fun value => ?_, ?_⟩, ?_⟩
  · rw [get_eq_some_iff]
    exact tracks.live_iff later key (some value)
  · rw [hits_get_iff]
    constructor
    · intro stored
      obtain ⟨entry, found, live⟩ := stored
      have recalled := (tracks.live_iff later key entry.value).mp
        ⟨entry, found, live, rfl⟩
      exact ⟨entry.value, recalled⟩
    · intro recalled
      obtain ⟨value, recalled⟩ := recalled
      obtain ⟨entry, found, live, _⟩ :=
        (tracks.live_iff later key value).mpr recalled
      exact ⟨entry, found, live⟩
  intro sweep stamp key value nbytes later
  have fits : final.cache.Fits nbytes ↔ maxBytes = 0 ∨ nbytes ≤ maxBytes := by
    rw [Fits, balanced.sameBound]
  rw [← fits]
  rcases put_cases balanced.accounted sweep stamp key value nbytes with
    ⟨oversized, refused⟩ | ⟨_, dropped, accepts, accepted, stores⟩
  · constructor
    · constructor
      · intro stored
        obtain ⟨after, result⟩ := stored
        cases refused.symm.trans result
      · exact fun accepts => absurd accepts oversized
    · intro after result
      cases refused.symm.trans result
  · refine ⟨⟨fun _ => accepts, fun _ => ⟨_, accepted⟩⟩, ?_⟩
    intro after result
    cases accepted.symm.trans result
    refine ⟨tracks.mem_remaining later key,
      tracks.ordered.sublist List.filter_sublist, dropped, stores.others, ?_,
      ?_, ?_⟩
    · rw [stores.entries, balanced.sameTtl]
    · rw [← balanced.sameBound]
      exact stores.enough
    · rw [← balanced.sameBound]
      exact stores.needed

theorem sampleCalls_recalled :
    ∃ final, (system 10 10).run ⟨0, .new 10 10⟩ (sampleCalls.take 5) =
        some final ∧
      ((final.cache.get 9 3).1 = some 30 ↔ ∃ stamp nbytes,
        Recalls (history 10 10 ⟨0, .new 10 10⟩ (sampleCalls.take 5)) 3
          (some 30) stamp nbytes ∧ 9 < stamp + 10) :=
  ⟨_, rfl, ((cache_refines_history rfl rfl).1 9 3 (by decide)).1 30⟩

end ClockedCache

end Catwalk
