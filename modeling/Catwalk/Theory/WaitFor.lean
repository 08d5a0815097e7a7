import Mathlib.Logic.Relation

/-! Who waits for whom.  A rank that falls along every wait excludes circular
waits, and whoever waits does so in the end for somebody who is free. -/

universe u

variable {Thread : Type u}

/-- Everybody waits for lower ranks only. -/
def Ranked (waits : Thread → Thread → Prop) (rank : Thread → Nat) : Prop :=
  ∀ waiter other, waits waiter other → rank other < rank waiter

/-- Nobody waits for itself, directly or through others. -/
def NoCircularWait (waits : Thread → Thread → Prop) : Prop :=
  ∀ thread, ¬ Relation.TransGen waits thread thread

namespace Ranked

variable {waits : Thread → Thread → Prop} {rank : Thread → Nat}

theorem lt_of_chain (ranked : Ranked waits rank) {waiter other : Thread}
    (chain : Relation.TransGen waits waiter other) : rank other < rank waiter := by
  induction chain with
  | single first => exact ranked _ _ first
  | tail _ next before => exact Nat.lt_trans (ranked _ _ next) before

theorem noCircularWait (ranked : Ranked waits rank) : NoCircularWait waits := by
  intro thread chain
  exact Nat.lt_irrefl _ (ranked.lt_of_chain chain)

/-- If everybody unfinished is free or waits for somebody unfinished, then
everybody unfinished waits for somebody who is free. -/
theorem exists_free (ranked : Ranked waits rank) {unfinished free : Thread → Prop}
    (blocked : ∀ thread, unfinished thread →
      free thread ∨ ∃ other, waits thread other ∧ unfinished other)
    {thread : Thread} (waiting : unfinished thread) :
    ∃ other, Relation.ReflTransGen waits thread other ∧ free other := by
  induction level : rank thread using Nat.strongRecOn
    generalizing thread with
  | _ level induction =>
      rcases blocked thread waiting with itself | ⟨other, waitsFor, unfinished⟩
      · exact ⟨thread, .refl, itself⟩
      · have lower := ranked thread other waitsFor
        obtain ⟨final, chain, isFree⟩ :=
          induction (rank other) (level ▸ lower) unfinished rfl
        exact ⟨final, .head waitsFor chain, isFree⟩

end Ranked
