import Mathlib.Data.Finset.Max
import Mathlib.Data.List.Sort

/-! Positions in a sorted list and the percentiles of a list. Which value stands
at a position is a matter of counting: how many entries are below it, and how
many at or below. -/
namespace Ranks

section Positions
variable {α : Type*} {l : List α} {p : α → Bool} {i : ℕ}

/-- Where the entries with a property come first, the property holds at the
positions before their count. -/
theorem getElem_iff_lt_countP (first : l.Pairwise fun a b => p b = true → p a = true)
    (inside : i < l.length) : p l[i] = true ↔ i < l.countP p := by
  induction l generalizing i with
  | nil => cases inside
  | cons a rest ih =>
    obtain ⟨head, tail⟩ := List.pairwise_cons.mp first
    by_cases holds : p a = true
    · cases i with
      | zero => simp [holds]
      | succ i =>
        have below : i < rest.length := by simpa using inside
        simp only [List.getElem_cons_succ, ih tail below, List.countP_cons, holds, if_true]
        omega
    · have none : rest.countP p = 0 := by
        rw [List.countP_eq_zero]
        exact fun b member held => holds (head b member held)
      have outside : p (a :: rest)[i] ≠ true := by
        rcases List.mem_cons.mp (List.getElem_mem inside) with here | later
        · rwa [here]
        · exact fun held => holds (head _ later held)
      simp [outside, none, holds]

/-- Where the entries with a property come last, it holds at a position when there are
more of them than entries behind that position. -/
theorem getElem_iff_behind_lt_countP (last : l.Pairwise fun a b => p a = true → p b = true)
    (inside : i < l.length) : p l[i] = true ↔ l.length - 1 - i < l.countP p := by
  have first : l.Pairwise fun a b => decide (¬ p b = true) = true → decide (¬ p a = true) = true := by
    refine last.imp fun later missing => ?_
    simp only [decide_eq_true_eq] at missing ⊢
    exact fun held => missing (later held)
  have lacking := getElem_iff_lt_countP first inside
  have all := l.length_eq_countP_add_countP p
  rw [decide_eq_true_eq] at lacking
  rw [← not_iff_not, lacking]
  omega

variable {β : Type*} [LinearOrder β] {f : α → β} {y : β}

/-- In a list sorted by `f` the value at a position is `y` when no more entries
are above `y` than stand behind that position, and more are at or above it. -/
theorem value_at_iff (sorted : l.Pairwise fun a b => f a ≤ f b) (inside : i < l.length) :
    f l[i] = y ↔ l.countP (y < f ·) ≤ l.length - 1 - i ∧ l.length - 1 - i < l.countP (y ≤ f ·) := by
  have below := getElem_iff_lt_countP (p := fun a => decide (f a < y)) (l := l) (i := i)
    (sorted.imp fun order less => by simpa using order.trans_lt (by simpa using less)) inside
  have upTo := getElem_iff_lt_countP (p := fun a => decide (f a ≤ y)) (l := l) (i := i)
    (sorted.imp fun order less => by simpa using order.trans (by simpa using less)) inside
  have above := l.length_eq_countP_add_countP (fun a => decide (f a ≤ y))
  have atLeast := l.length_eq_countP_add_countP (fun a => decide (f a < y))
  simp only [decide_eq_true_eq, not_le, not_lt] at below upTo above atLeast
  rw [eq_comm, le_antisymm_iff, ← not_lt, below, upTo]
  omega

end Positions

section Percentiles
variable {α : Type*} [LinearOrder α]

/-- The nearest-rank percentile: the least entry that so many percent of the
entries are at or below. -/
structure IsPercentile (percent : ℕ) (l : List α) (v : α) : Prop where
  mem : v ∈ l
  covers : percent * l.length ≤ 100 * l.countP (· ≤ v)
  least : ∀ u ∈ l, percent * l.length ≤ 100 * l.countP (· ≤ u) → v ≤ u

variable {percent : ℕ} {l : List α} {u v : α}

theorem IsPercentile.unique (one : IsPercentile percent l u) (other : IsPercentile percent l v) :
    u = v :=
  le_antisymm (one.least v other.mem other.covers) (other.least u one.mem one.covers)

/-- A list with entries has each of its percentiles. -/
theorem exists_isPercentile (atMost : percent ≤ 100) (filled : l ≠ []) :
    ∃ v, IsPercentile percent l v := by
  have some : l.toFinset.Nonempty := by simpa [List.toFinset_nonempty_iff] using filled
  obtain ⟨top, inside, greatest⟩ := l.toFinset.exists_max_image id some
  have all : l.countP (· ≤ top) = l.length := by
    rw [List.countP_eq_length]
    intro u member
    simpa using greatest u (List.mem_toFinset.mpr member)
  have covering : (l.toFinset.filter fun v => percent * l.length ≤ 100 * l.countP (· ≤ v)).Nonempty :=
    ⟨top, Finset.mem_filter.mpr ⟨inside, by rw [all]; exact Nat.mul_le_mul_right _ atMost⟩⟩
  obtain ⟨v, chosen, least⟩ := Finset.exists_min_image _ id covering
  obtain ⟨member, covers⟩ := Finset.mem_filter.mp chosen
  refine ⟨v, List.mem_toFinset.mp member, covers, fun u present covered => ?_⟩
  exact least u (Finset.mem_filter.mpr ⟨List.mem_toFinset.mpr present, covered⟩)

end Percentiles

end Ranks
