import Mathlib.Data.List.Basic
import Mathlib.Data.List.Nodup

/-! Dictionaries that remember insertion order. -/

universe u v

@[ext] structure OrderedDict (Key : Type u) (Value : Type v) where
  entries : List (Key × Value)
  nodup : (entries.map Prod.fst).Nodup

namespace OrderedDict

variable {Key : Type u} {Value : Type v}

def empty : OrderedDict Key Value := ⟨[], List.nodup_nil⟩

def keys (dict : OrderedDict Key Value) : List Key := dict.entries.map Prod.fst

def size (dict : OrderedDict Key Value) : Nat := dict.entries.length

@[simp] theorem length_keys (dict : OrderedDict Key Value) :
    dict.keys.length = dict.size := by
  simp [keys, size]

/-- Keep the entries that satisfy the test, in their order. -/
def filter (dict : OrderedDict Key Value) (test : Key → Value → Bool) :
    OrderedDict Key Value where
  entries := dict.entries.filter fun entry => test entry.1 entry.2
  nodup := dict.nodup.sublist (List.filter_sublist.map Prod.fst)

/-- Remove and return the oldest entry. -/
def popFirst (dict : OrderedDict Key Value) :
    Option ((Key × Value) × OrderedDict Key Value) :=
  match dict with
  | ⟨[], _⟩ => none
  | ⟨entry :: rest, nodup⟩ => some (entry, ⟨rest, (List.nodup_cons.mp nodup).2⟩)

/-- `while (map.size > max) map.delete(map.keys().next().value)`, in as many
rounds as the fuel allows. -/
def dropOldest (max : Nat) : Nat → OrderedDict Key Value →
    OrderedDict Key Value
  | 0, dict => dict
  | fuel + 1, dict =>
      if dict.size ≤ max then dict
      else
        match dict.popFirst with
        | some (_, rest) => dropOldest max fuel rest
        | none => dict

variable [DecidableEq Key]

def get? (dict : OrderedDict Key Value) (key : Key) : Option Value :=
  dict.entries.lookup key

def erase (dict : OrderedDict Key Value) (key : Key) :
    OrderedDict Key Value :=
  dict.filter fun candidate _ => candidate ≠ key

/-- `dict[key] = value`: a present key keeps its place. -/
def set (dict : OrderedDict Key Value) (key : Key) (value : Value) :
    OrderedDict Key Value :=
  if present : key ∈ dict.keys then
    { entries := dict.entries.map fun entry =>
        if entry.1 = key then (key, value) else entry
      nodup := by
        have same : (dict.entries.map fun entry =>
            if entry.1 = key then (key, value) else entry).map Prod.fst =
              dict.entries.map Prod.fst := by
          rw [List.map_map]
          refine List.map_congr_left fun entry _ => ?_
          by_cases found : entry.1 = key <;> simp [found]
        exact same ▸ dict.nodup }
  else
    { entries := dict.entries ++ [(key, value)]
      nodup := by
        rw [List.map_append, List.nodup_append]
        refine ⟨dict.nodup, List.nodup_singleton _, ?_⟩
        intro candidate member other otherMember same
        have : other = key := by simpa using otherMember
        exact present (this ▸ same ▸ member) }

/-- Make a present key the newest one. -/
def moveToEnd (dict : OrderedDict Key Value) (key : Key) :
    OrderedDict Key Value :=
  match dict.get? key with
  | none => dict
  | some value => (dict.erase key).set key value

theorem lookup_eq_some_iff {entries : List (Key × Value)}
    (nodup : (entries.map Prod.fst).Nodup) {key : Key} {value : Value} :
    entries.lookup key = some value ↔ (key, value) ∈ entries := by
  induction entries with
  | nil => simp
  | cons entry rest ih =>
      obtain ⟨candidate, stored⟩ := entry
      rw [List.map_cons, List.nodup_cons] at nodup
      rcases eq_or_ne key candidate with rfl | differs
      · have absent : (key, value) ∉ rest := fun member =>
          nodup.1 (List.mem_map.mpr ⟨_, member, rfl⟩)
        simp [absent, eq_comm]
      · have differ : (key == candidate) = false := beq_false_of_ne differs
        simp [List.lookup_cons, differ, ih nodup.2, differs]

theorem get?_eq_some_iff {dict : OrderedDict Key Value} {key : Key}
    {value : Value} :
    dict.get? key = some value ↔ (key, value) ∈ dict.entries :=
  lookup_eq_some_iff dict.nodup

theorem mem_keys_iff {dict : OrderedDict Key Value} {key : Key} :
    key ∈ dict.keys ↔ ∃ value, dict.get? key = some value := by
  simp only [get?_eq_some_iff, keys, List.mem_map, Prod.exists,
    exists_and_right, exists_eq_right]

theorem get?_eq_none_iff {dict : OrderedDict Key Value} {key : Key} :
    dict.get? key = none ↔ key ∉ dict.keys := by
  rw [mem_keys_iff, Option.eq_none_iff_forall_ne_some, not_exists]

@[simp] theorem get?_empty (key : Key) :
    (empty : OrderedDict Key Value).get? key = none := rfl

theorem get?_filter_eq_some_iff {dict : OrderedDict Key Value}
    {test : Key → Value → Bool} {key : Key} {value : Value} :
    (dict.filter test).get? key = some value ↔
      dict.get? key = some value ∧ test key value = true := by
  simp only [get?_eq_some_iff, filter, List.mem_filter]

theorem get?_erase (dict : OrderedDict Key Value) (erased key : Key) :
    (dict.erase erased).get? key =
      if key = erased then none else dict.get? key := by
  ext value
  rw [erase, get?_filter_eq_some_iff]
  by_cases same : key = erased <;> simp [same]

@[simp] theorem get?_erase_self (dict : OrderedDict Key Value) (key : Key) :
    (dict.erase key).get? key = none := by
  simp [get?_erase]

theorem get?_set (dict : OrderedDict Key Value) (changed key : Key)
    (value : Value) :
    (dict.set changed value).get? key =
      if key = changed then some value else dict.get? key := by
  ext found
  rw [get?_eq_some_iff]
  unfold set
  split
  next present =>
    rw [List.mem_map]
    constructor
    · rintro ⟨entry, member, image⟩
      by_cases hit : entry.1 = changed
      · rw [if_pos hit] at image
        obtain ⟨rfl, rfl⟩ := Prod.mk.inj image
        simp
      · rw [if_neg hit] at image
        subst image
        rw [if_neg hit, get?_eq_some_iff]
        exact member
    · intro lookup
      rcases eq_or_ne key changed with rfl | differs
      · rw [if_pos rfl, Option.some.injEq] at lookup
        obtain ⟨stored, storedEq⟩ := mem_keys_iff.mp present
        exact ⟨(key, stored), get?_eq_some_iff.mp storedEq, by simp [lookup]⟩
      · rw [if_neg differs, get?_eq_some_iff] at lookup
        exact ⟨(key, found), lookup, by simp [differs]⟩
  next absent =>
    rw [List.mem_append, List.mem_singleton, ← get?_eq_some_iff]
    rcases eq_or_ne key changed with rfl | differs
    · rw [get?_eq_none_iff.mpr absent]
      simp [eq_comm]
    · simp [differs]

@[simp] theorem get?_set_self (dict : OrderedDict Key Value) (key : Key)
    (value : Value) : (dict.set key value).get? key = some value := by
  simp [get?_set]

@[simp] theorem get?_moveToEnd (dict : OrderedDict Key Value)
    (moved key : Key) : (dict.moveToEnd moved).get? key = dict.get? key := by
  unfold moveToEnd
  split
  next => rfl
  next value found =>
    rw [get?_set, get?_erase]
    by_cases hit : key = moved
    · rw [if_pos hit, hit, found]
    · rw [if_neg hit, if_neg hit]

theorem get?_popFirst {dict rest : OrderedDict Key Value}
    {first : Key × Value} (popped : dict.popFirst = some (first, rest))
    (key : Key) :
    rest.get? key = if key = first.1 then none else dict.get? key := by
  obtain ⟨entries, nodup⟩ := dict
  cases entries with
  | nil => cases popped
  | cons entry tail =>
      simp only [popFirst, Option.some.injEq, Prod.mk.injEq] at popped
      obtain ⟨rfl, rfl⟩ := popped
      rw [List.map_cons, List.nodup_cons] at nodup
      by_cases hit : key = entry.1
      · rw [if_pos hit, get?_eq_none_iff]
        exact hit ▸ nodup.1
      · have differ : (key == entry.1) = false := beq_false_of_ne hit
        rw [if_neg hit]
        change tail.lookup key = ((entry.1, entry.2) :: tail).lookup key
        simp only [List.lookup_cons, differ]

theorem get?_of_dropOldest {max fuel : Nat} {dict : OrderedDict Key Value}
    {key : Key} {value : Value}
    (found : (dict.dropOldest max fuel).get? key = some value) :
    dict.get? key = some value := by
  induction fuel generalizing dict with
  | zero => exact found
  | succ fuel ih =>
      rw [dropOldest] at found
      split at found
      · exact found
      · split at found
        next first rest popped =>
          have kept := ih found
          rw [get?_popFirst popped] at kept
          split at kept
          · cases kept
          · exact kept
        next => exact found

omit [DecidableEq Key] in
theorem popFirst_of_entries {dict : OrderedDict Key Value}
    {first : Key × Value} {tail : List (Key × Value)}
    (split : dict.entries = first :: tail) :
    ∃ rest, dict.popFirst = some (first, rest) ∧ rest.entries = tail := by
  obtain ⟨entries, nodup⟩ := dict
  subst split
  exact ⟨_, rfl, rfl⟩

theorem entries_set_of_not_mem (dict : OrderedDict Key Value) {key : Key}
    (absent : key ∉ dict.keys) (value : Value) :
    (dict.set key value).entries = dict.entries ++ [(key, value)] := by
  rw [set, dif_neg absent]

theorem not_mem_keys_erase (dict : OrderedDict Key Value) (key : Key) :
    key ∉ (dict.erase key).keys := by
  rw [← get?_eq_none_iff, get?_erase_self]

theorem entries_moveToEnd {dict : OrderedDict Key Value} {key : Key}
    {value : Value} (found : dict.get? key = some value) :
    (dict.moveToEnd key).entries =
      (dict.erase key).entries ++ [(key, value)] := by
  rw [moveToEnd, found]
  exact entries_set_of_not_mem _ (dict.not_mem_keys_erase key) value

theorem filter_key_eq {dict : OrderedDict Key Value} {key : Key}
    {value : Value} (found : dict.get? key = some value) :
    dict.entries.filter (fun entry => ¬ entry.1 ≠ key) = [(key, value)] := by
  obtain ⟨entries, nodup⟩ := dict
  rw [get?_eq_some_iff] at found
  simp only [ne_eq, not_not]
  induction entries with
  | nil => cases found
  | cons entry rest ih =>
      rw [List.map_cons, List.nodup_cons] at nodup
      rcases List.mem_cons.mp found with rfl | later
      · have none_later : rest.filter (fun entry => entry.1 = key) = [] := by
          rw [List.filter_eq_nil_iff]
          intro entry member same
          have same : entry.1 = key := of_decide_eq_true same
          exact nodup.1 (List.mem_map.mpr ⟨entry, member, same⟩)
        simp [none_later]
      · have differ : entry.1 ≠ key := by
          rintro rfl
          exact nodup.1 (List.mem_map.mpr ⟨_, later, rfl⟩)
        simpa [differ] using ih nodup.2 later

theorem mem_keys_set {dict : OrderedDict Key Value} {changed key : Key}
    {value : Value} :
    key ∈ (dict.set changed value).keys ↔ key = changed ∨ key ∈ dict.keys := by
  simp only [mem_keys_iff, get?_set]
  by_cases hit : key = changed <;> simp [hit]

/-- A new key is the newest one; a present key keeps its place. -/
theorem keys_set (dict : OrderedDict Key Value) (key : Key) (value : Value) :
    (dict.set key value).keys =
      if key ∈ dict.keys then dict.keys else dict.keys ++ [key] := by
  unfold set
  split
  next present =>
    rw [keys, List.map_map]
    apply List.map_congr_left
    intro entry _
    by_cases same : entry.1 = key <;> simp [same]
  next => simp [keys]

theorem size_set (dict : OrderedDict Key Value) (key : Key) (value : Value) :
    (dict.set key value).size =
      if key ∈ dict.keys then dict.size else dict.size + 1 := by
  unfold set
  split <;> simp [size, *]

/-- `dict.setdefault(key, value)` -/
def setDefault (dict : OrderedDict Key Value) (key : Key) (value : Value) :
    OrderedDict Key Value :=
  if key ∈ dict.keys then dict else dict.set key value

theorem set_get? {dict : OrderedDict Key Value} {key : Key} {value : Value}
    (found : dict.get? key = some value) : dict.set key value = dict := by
  have present : key ∈ dict.keys := mem_keys_iff.mpr ⟨value, found⟩
  ext1
  rw [set, dif_pos present]
  refine (List.map_congr_left fun entry member => ?_).trans (List.map_id _)
  by_cases same : entry.1 = key
  · have stored : dict.get? key = some entry.2 :=
      same ▸ get?_eq_some_iff.mpr member
    rw [found, Option.some.injEq] at stored
    rw [if_pos same, stored, ← same]
    rfl
  · exact if_neg same

end OrderedDict
