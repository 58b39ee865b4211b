import Mathlib.Algebra.BigOperators.Group.List.Basic
import Mathlib.Data.Finset.Card

/-! Counts and sums over a list in which one entry is replaced. -/
namespace List

variable {α M : Type*} {l : List α} {i : ℕ} {a : α}

/-- A sum changes by what the entry changes. -/
theorem sum_map_set_of_getElem? [AddCommMonoid M] (f : α → M) (found : l[i]? = some a) (b : α) :
    ((l.set i b).map f).sum + f a = (l.map f).sum + f b := by
  induction l generalizing i with
  | nil => cases found
  | cons first rest ih =>
    cases i with
    | zero =>
      cases found
      simp only [set_cons_zero, map_cons, sum_cons]
      rw [add_comm (f b), add_comm (f a), add_assoc, add_assoc, add_comm (f b)]
    | succ i =>
      simp only [set_cons_succ, map_cons, sum_cons, add_assoc]
      rw [ih found]

/-- A count changes by whether the entry is counted. -/
theorem countP_set_of_getElem? (p : α → Bool) (found : l[i]? = some a) (b : α) :
    (l.set i b).countP p + (if p a then 1 else 0) = l.countP p + if p b then 1 else 0 := by
  obtain ⟨inside, here⟩ := getElem?_eq_some_iff.mp found
  have positive : p a = true → 0 < l.countP p := by
    intro holds
    exact countP_pos_iff.mpr ⟨a, mem_of_getElem? found, holds⟩
  rw [countP_set inside, here]
  split
  · rename_i holds
    have := positive holds
    omega
  · omega

/-- A count is the number of positions that are counted. -/
theorem card_filter_range (l : List α) (p : α → Bool) :
    ((Finset.range l.length).filter fun i => l[i]?.any p).card = l.countP p := by
  induction l using List.reverseRecOn with
  | nil => rfl
  | append_singleton l a ih =>
    have same : ((Finset.range l.length).filter fun i => (l ++ [a])[i]?.any p) =
        (Finset.range l.length).filter fun i => l[i]?.any p := by
      refine Finset.filter_congr fun i inside => ?_
      rw [getElem?_append_left (Finset.mem_range.mp inside)]
    rw [length_append, length_singleton, Finset.range_add_one, Finset.filter_insert, same,
      countP_append, ← ih]
    by_cases holds : p a = true
    · simp [holds, Finset.card_insert_of_notMem]
    · simp [holds]

end List
