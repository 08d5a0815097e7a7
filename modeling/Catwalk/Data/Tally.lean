import Catwalk.Data.OrderedDict
import Mathlib.Algebra.BigOperators.Group.Finset.Piecewise
import Mathlib.Algebra.BigOperators.Group.List.Basic
import Mathlib.Algebra.Group.WithOne.Defs
import Mathlib.Data.Finset.Card

/-! Dictionaries of sums: each key holds the total of what was added to it. -/

universe u v w

namespace OrderedDict

variable {Key : Type u} {Amount : Type v} {Error : Type w} [DecidableEq Key]

section Amounts

variable [AddCommMonoid Amount]

/-- Add to the sum of a key; an absent key starts from zero. -/
def accumulate (dict : OrderedDict Key Amount) (entry : Key × Amount) :
    OrderedDict Key Amount :=
  dict.set entry.1 ((dict.get? entry.1).getD 0 + entry.2)

/-- The sum of a key, with a neutral element below all sums for an absent
one. -/
def amount (dict : OrderedDict Key Amount) (key : Key) : WithZero Amount :=
  dict.get? key

/-- What a list of additions adds up to at a key. -/
def tally (entries : List (Key × Amount)) (key : Key) : WithZero Amount :=
  (entries.map fun entry => if entry.1 = key
    then (entry.2 : WithZero Amount) else 0).sum

/-- The sum of all keys together. -/
def total (dict : OrderedDict Key Amount) : Amount :=
  (dict.entries.map Prod.snd).sum

omit [AddCommMonoid Amount] in
@[simp] theorem amount_empty (key : Key) :
    (empty : OrderedDict Key Amount).amount key = 0 := rfl

theorem amount_accumulate (dict : OrderedDict Key Amount)
    (entry : Key × Amount) (key : Key) :
    (dict.accumulate entry).amount key =
      dict.amount key + if entry.1 = key then (entry.2 : WithZero Amount)
        else 0 := by
  unfold amount accumulate
  rw [get?_set]
  rcases eq_or_ne entry.1 key with rfl | differs
  · rw [if_pos rfl, if_pos rfl]
    cases dict.get? entry.1 with
    | none => exact congrArg some (zero_add _)
    | some sum => rfl
  · rw [if_neg (Ne.symm differs), if_neg differs]
    exact (add_zero (dict.amount key)).symm

@[simp] theorem tally_nil (key : Key) :
    tally ([] : List (Key × Amount)) key = 0 := rfl

theorem tally_cons (entry : Key × Amount) (entries : List (Key × Amount))
    (key : Key) :
    tally (entry :: entries) key =
      (if entry.1 = key then (entry.2 : WithZero Amount) else 0) +
        tally entries key := by
  simp [tally]

theorem tally_append (first second : List (Key × Amount)) (key : Key) :
    tally (first ++ second) key = tally first key + tally second key := by
  simp [tally]

theorem tally_perm {first second : List (Key × Amount)}
    (perm : first.Perm second) (key : Key) :
    tally first key = tally second key :=
  (perm.map _).sum_eq

theorem tally_eq_sum (entries : List (Key × Amount)) (key : Key) :
    tally entries key = if key ∈ entries.map Prod.fst
      then (↑((entries.filter (·.1 = key)).map Prod.snd).sum : WithZero Amount)
      else 0 := by
  induction entries with
  | nil => rfl
  | cons entry rest ih =>
      rw [tally_cons, ih]
      rcases eq_or_ne entry.1 key with rfl | differs
      · by_cases later : entry.1 ∈ rest.map Prod.fst
        · rw [if_pos rfl, if_pos later, if_pos (by simp)]
          rw [List.filter_cons_of_pos (by simp), List.map_cons, List.sum_cons]
          rfl
        · have none_later : rest.filter (·.1 = entry.1) = [] := by
            rw [List.filter_eq_nil_iff]
            intro other member equal
            exact later (List.mem_map.mpr
              ⟨other, member, of_decide_eq_true equal⟩)
          rw [if_pos rfl, if_neg later, if_pos (by simp), add_zero]
          rw [List.filter_cons_of_pos (by simp), none_later]
          simp
      · have dropped : (entry :: rest).filter (·.1 = key) =
            rest.filter (·.1 = key) :=
          List.filter_cons_of_neg (by simpa using differs)
        have tail : key ∈ (entry :: rest).map Prod.fst ↔
            key ∈ rest.map Prod.fst := by
          rw [List.map_cons, List.mem_cons, or_iff_right (Ne.symm differs)]
        simp only [if_neg differs, zero_add, dropped, tail]

theorem amount_foldl_accumulate (entries : List (Key × Amount))
    (dict : OrderedDict Key Amount) (key : Key) :
    (entries.foldl accumulate dict).amount key =
      dict.amount key + tally entries key := by
  induction entries generalizing dict with
  | nil => exact (add_zero _).symm
  | cons entry rest ih =>
      rw [List.foldl_cons, ih, amount_accumulate, tally_cons, add_assoc]

theorem tally_eq_zero {entries : List (Key × Amount)} {key : Key}
    (absent : key ∉ entries.map Prod.fst) : tally entries key = 0 := by
  induction entries with
  | nil => rfl
  | cons entry rest ih =>
      rw [List.map_cons, List.mem_cons, not_or] at absent
      rw [tally_cons, if_neg (Ne.symm absent.1), ih absent.2, add_zero]

theorem amount_cons {entry : Key × Amount} {rest : List (Key × Amount)}
    (nodup : ((entry :: rest).map Prod.fst).Nodup) (key : Key) :
    amount ⟨entry :: rest, nodup⟩ key =
      (if entry.1 = key then (entry.2 : WithZero Amount) else 0) +
        amount ⟨rest, (List.nodup_cons.mp nodup).2⟩ key := by
  by_cases same : entry.1 = key
  · have absent : amount ⟨rest, (List.nodup_cons.mp nodup).2⟩ key = 0 :=
      get?_eq_none_iff.mpr (same ▸ (List.nodup_cons.mp nodup).1)
    rw [if_pos same, absent, add_zero]
    change ((entry.1, entry.2) :: rest).lookup key = some entry.2
    simp [same]
  · have differ : (key == entry.1) = false := beq_false_of_ne (Ne.symm same)
    rw [if_neg same, zero_add]
    change ((entry.1, entry.2) :: rest).lookup key = rest.lookup key
    simp only [List.lookup_cons, differ]

/-- A dictionary holds exactly what its entries add up to. -/
theorem tally_entries (dict : OrderedDict Key Amount) (key : Key) :
    tally dict.entries key = dict.amount key := by
  obtain ⟨entries, nodup⟩ := dict
  induction entries with
  | nil => rfl
  | cons entry rest ih => rw [tally_cons, ih, amount_cons]

/-- Adding up each key first changes nothing. -/
theorem tally_regroup (entries : List (Key × Amount)) (key : Key) :
    tally ((entries.map Prod.fst).dedup.map fun key =>
      (key, ((entries.filter (·.1 = key)).map Prod.snd).sum)) key =
        tally entries key := by
  let grouped : OrderedDict Key Amount :=
    { entries := (entries.map Prod.fst).dedup.map fun key =>
        (key, ((entries.filter (·.1 = key)).map Prod.snd).sum)
      nodup := by
        rw [List.map_map]
        exact (List.map_id _).symm ▸ List.nodup_dedup _ }
  have keys : grouped.keys = (entries.map Prod.fst).dedup :=
    List.map_map.trans (List.map_id _)
  rw [tally_entries grouped key, tally_eq_sum]
  by_cases member : key ∈ entries.map Prod.fst
  · rw [if_pos member]
    exact get?_eq_some_iff.mpr
      (List.mem_map.mpr ⟨key, List.mem_dedup.mpr member, rfl⟩)
  · rw [if_neg member]
    refine get?_eq_none_iff.mpr ?_
    rw [keys, List.mem_dedup]
    exact member

omit [AddCommMonoid Amount] in
theorem amount_ne_zero_iff {dict : OrderedDict Key Amount} {key : Key} :
    dict.amount key ≠ 0 ↔ key ∈ dict.keys := by
  rw [mem_keys_iff, ← Option.ne_none_iff_exists']
  rfl

theorem tally_ne_zero_iff {entries : List (Key × Amount)} {key : Key} :
    tally entries key ≠ 0 ↔ key ∈ entries.map Prod.fst := by
  rw [tally_eq_sum]
  split
  · next member => simpa using member
  · next absent =>
      exact ⟨fun nonzero => absurd rfl nonzero, fun member => absurd member absent⟩

theorem add_ne_zero_iff (first second : WithZero Amount) :
    first + second ≠ 0 ↔ first ≠ 0 ∨ second ≠ 0 := by
  cases first with
  | zero => simp
  | coe sum =>
      have nonzero : (sum : WithZero Amount) + second ≠ 0 := by
        cases second with
        | zero => simp
        | coe other => exact WithZero.coe_ne_zero
      simp [nonzero]

theorem keys_of_tally {first second : List (Key × Amount)}
    (same : ∀ key, tally first key = tally second key) :
    (first.map Prod.fst).toFinset = (second.map Prod.fst).toFinset := by
  ext key
  rw [List.mem_toFinset, List.mem_toFinset, ← tally_ne_zero_iff, same,
    tally_ne_zero_iff]

/-- Renaming the keys adds up the keys that get one name. -/
theorem tally_map_key {Name : Type*} [DecidableEq Name] (rename : Key → Name)
    (entries : List (Key × Amount)) (keys : Finset Key)
    (covers : ∀ entry ∈ entries, entry.1 ∈ keys) (name : Name) :
    tally (entries.map fun entry => (rename entry.1, entry.2)) name =
      ∑ key ∈ keys with rename key = name, tally entries key := by
  induction entries with
  | nil => exact (Finset.sum_eq_zero fun key _ => tally_nil key).symm
  | cons entry rest ih =>
      have member : entry.1 ∈ keys := covers entry List.mem_cons_self
      have later := ih fun other tail =>
        covers other (List.mem_cons_of_mem entry tail)
      simp only [List.map_cons, tally_cons, Finset.sum_add_distrib, later]
      apply congrArg (· + _)
      rw [Finset.sum_ite_eq]
      simp only [Finset.mem_filter, and_iff_right member]

theorem tally_rename {Name : Type*} [DecidableEq Name] (rename : Key → Name)
    {first second : List (Key × Amount)}
    (same : ∀ key, tally first key = tally second key) (name : Name) :
    tally (first.map fun entry => (rename entry.1, entry.2)) name =
      tally (second.map fun entry => (rename entry.1, entry.2)) name := by
  rw [tally_map_key rename first (first.map Prod.fst).toFinset,
    tally_map_key rename second (first.map Prod.fst).toFinset]
  · exact Finset.sum_congr rfl fun key _ => same key
  · intro entry member
    rw [keys_of_tally same, List.mem_toFinset]
    exact List.mem_map_of_mem member
  · intro entry member
    rw [List.mem_toFinset]
    exact List.mem_map_of_mem member

theorem keys_of_amount {before after : OrderedDict Key Amount}
    {entries : List (Key × Amount)}
    (added : ∀ key, after.amount key = before.amount key + tally entries key) :
    after.keys.toFinset =
      before.keys.toFinset ∪ (entries.map Prod.fst).toFinset := by
  ext key
  rw [Finset.mem_union, List.mem_toFinset, List.mem_toFinset,
    List.mem_toFinset, ← amount_ne_zero_iff, ← amount_ne_zero_iff,
    ← tally_ne_zero_iff, added, add_ne_zero_iff]

omit [AddCommMonoid Amount] in
theorem perm_of_amount {first second : OrderedDict Key Amount}
    (same : ∀ key, first.amount key = second.amount key) :
    first.entries.Perm second.entries := by
  refine (List.perm_ext_iff_of_nodup first.nodup.of_map
    second.nodup.of_map).mpr fun entry => ?_
  obtain ⟨key, sum⟩ := entry
  rw [← get?_eq_some_iff, ← get?_eq_some_iff]
  exact Eq.congr (same key) rfl

theorem total_eq_of_amount {first second : OrderedDict Key Amount}
    (same : ∀ key, first.amount key = second.amount key) :
    first.total = second.total :=
  ((perm_of_amount same).map Prod.snd).sum_eq

theorem total_accumulate (dict : OrderedDict Key Amount)
    (entry : Key × Amount) :
    (dict.accumulate entry).total = dict.total + entry.2 := by
  cases found : dict.get? entry.1 with
  | none =>
      have absent : entry.1 ∉ dict.keys := get?_eq_none_iff.mp found
      rw [total, accumulate, entries_set_of_not_mem _ absent, found]
      simp [total]
  | some sum =>
      obtain ⟨before, after, split⟩ :=
        List.append_of_mem (get?_eq_some_iff.mp found)
      have present : entry.1 ∈ dict.keys := mem_keys_iff.mpr ⟨sum, found⟩
      have nodup := dict.nodup
      rw [split, List.map_append, List.map_cons, List.nodup_middle,
        List.nodup_cons, List.mem_append, not_or] at nodup
      have untouched : ∀ part : List (Key × Amount),
          entry.1 ∉ part.map Prod.fst →
          part.map (fun stored => if stored.1 = entry.1
            then (entry.1, sum + entry.2) else stored) = part := by
        intro part absent
        refine (List.map_congr_left fun stored member => ?_).trans
          (List.map_id part)
        have differ : stored.1 ≠ entry.1 := fun same =>
          absent (List.mem_map.mpr ⟨stored, member, same⟩)
        exact if_neg differ
      rw [total, total, accumulate, found, set, dif_pos present]
      simp only [split, Option.getD_some, List.map_append, List.map_cons,
        if_true, List.sum_append, List.sum_cons]
      have first := untouched before nodup.1.1
      have second := untouched after nodup.1.2
      rw [first, second]
      ac_rfl

theorem total_foldl_accumulate (entries : List (Key × Amount))
    (dict : OrderedDict Key Amount) :
    (entries.foldl accumulate dict).total =
      dict.total + (entries.map Prod.snd).sum := by
  induction entries generalizing dict with
  | nil => exact (add_zero _).symm
  | cons entry rest ih =>
      rw [List.foldl_cons, ih, total_accumulate, List.map_cons, List.sum_cons,
        add_assoc]

theorem mem_keys_accumulate {dict : OrderedDict Key Amount}
    {entry : Key × Amount} {key : Key} :
    key ∈ (dict.accumulate entry).keys ↔ key = entry.1 ∨ key ∈ dict.keys :=
  mem_keys_set

theorem total_of_amount {dict : OrderedDict Key Amount}
    {entries : List (Key × Amount)}
    (sums : ∀ key, dict.amount key = tally entries key) :
    dict.total = (entries.map Prod.snd).sum := by
  have same : ∀ key, dict.amount key =
      (entries.foldl accumulate empty).amount key := by
    intro key
    rw [sums, amount_foldl_accumulate, amount_empty, zero_add]
  rw [total_eq_of_amount same, total_foldl_accumulate]
  exact zero_add _

/-- A number allowed by an optional upper bound. -/
def Within (limit : Option Nat) (count : Nat) : Prop :=
  ∀ bound ∈ limit, count ≤ bound

instance (limit : Option Nat) (count : Nat) : Decidable (Within limit count) :=
  inferInstanceAs (Decidable (∀ bound ∈ limit, count ≤ bound))

/-- `accumulate`, refusing a key that would exceed the limit. -/
def accumulateWithin (limit : Option Nat) (refusal : Error)
    (dict : OrderedDict Key Amount) (entry : Key × Amount) :
    Except Error (OrderedDict Key Amount) :=
  if entry.1 ∈ dict.keys ∨ Within limit (dict.size + 1) then
    .ok (dict.accumulate entry)
  else .error refusal

end Amounts

theorem Within.mono {limit : Option Nat} {count fewer : Nat}
    (within : Within limit count) (le : fewer ≤ count) : Within limit fewer :=
  fun bound member => le.trans (within bound member)

theorem card_keys (dict : OrderedDict Key Amount) :
    dict.keys.toFinset.card = dict.size := by
  have nodup : dict.keys.Nodup := dict.nodup
  rw [List.toFinset_card_of_nodup nodup, length_keys]

variable [AddCommMonoid Amount]

theorem size_accumulate (dict : OrderedDict Key Amount)
    (entry : Key × Amount) :
    (dict.accumulate entry).size =
      if entry.1 ∈ dict.keys then dict.size else dict.size + 1 :=
  size_set _ _ _

theorem foldlM_accumulateWithin {limit : Option Nat} (refusal : Error)
    (entries : List (Key × Amount)) (dict : OrderedDict Key Amount)
    (within : Within limit
      (dict.keys.toFinset ∪ (entries.map Prod.fst).toFinset).card) :
    entries.foldlM (accumulateWithin limit refusal) dict =
      .ok (entries.foldl accumulate dict) := by
  induction entries generalizing dict with
  | nil => rfl
  | cons entry rest ih =>
      have room : entry.1 ∈ dict.keys ∨ Within limit (dict.size + 1) := by
        by_cases present : entry.1 ∈ dict.keys
        · exact .inl present
        · refine .inr (within.mono ?_)
          rw [← card_keys, ← Finset.card_insert_of_notMem
            (mt List.mem_toFinset.mp present)]
          refine Finset.card_le_card fun key member => ?_
          simp only [Finset.mem_insert, Finset.mem_union, List.mem_toFinset,
            List.map_cons, List.mem_cons] at member ⊢
          tauto
      rw [List.foldlM_cons, accumulateWithin, if_pos room]
      refine ih _ (within.mono (Finset.card_le_card fun key member => ?_))
      simp only [Finset.mem_union, List.mem_toFinset, mem_keys_accumulate,
        List.map_cons, List.mem_cons] at member ⊢
      tauto

theorem foldlM_accumulateWithin_eq_ok {limit : Option Nat} {refusal : Error}
    {entries : List (Key × Amount)} {dict after : OrderedDict Key Amount}
    (carried : entries.foldlM (accumulateWithin limit refusal) dict =
      .ok after) :
    after = entries.foldl accumulate dict ∧
      (Within limit dict.size → Within limit after.size) := by
  induction entries generalizing dict with
  | nil =>
      cases carried
      exact ⟨rfl, id⟩
  | cons entry rest ih =>
      rw [List.foldlM_cons, accumulateWithin] at carried
      by_cases room : entry.1 ∈ dict.keys ∨ Within limit (dict.size + 1)
      · rw [if_pos room] at carried
        obtain ⟨result, within⟩ := ih carried
        refine ⟨result, fun before => within ?_⟩
        rw [size_accumulate]
        split
        · exact before
        · next absent => exact room.resolve_left absent
      · rw [if_neg room] at carried
        cases carried

end OrderedDict
