import EdgeBootstrap.Monitor.LatencyWindow
import Mathlib.Data.List.GetD

/-! Whether `p99_ms` is the 99th percentile of the latest samples. The position
it takes is rounded down, one place before the nearest rank unless a hundred
samples divide evenly, and zeros are no samples to it, so it depends on how the
samples are spread whether another value stands there. -/
namespace EdgeBootstrap
open Ranks

instance UInt64.linearOrder : LinearOrder UInt64 where
  le_refl := UInt64.le_refl
  le_trans _ _ _ := UInt64.le_trans
  lt_iff_le_not_ge a b := by
    simp only [UInt64.le_iff_toNat_le, UInt64.lt_iff_toNat_lt]
    omega
  le_antisymm _ _ := UInt64.le_antisymm
  le_total := UInt64.le_total
  toDecidableLE := inferInstance
  toDecidableEq := inferInstance
  toDecidableLT := inferInstance

namespace RingBuffer

/-- How many of so many samples stand behind the one at the position. -/
def passed (len : Nat) : Nat := len - 1 - p99Index len

/-- Behind the position there is room for all samples above the value, and not
for all that are at or above it. Samples are compared as milliseconds. -/
structure RankFits (samples : List UInt64) (v : UInt64) : Prop where
  above : samples.countP (millis v < millis ·) ≤ passed (samples.countP (0 < ·))
  atLeast : passed (samples.countP (0 < ·)) < samples.countP (millis v ≤ millis ·)

variable {capacity : Nat} {samples : List UInt64} {r : RingBuffer} {u v x : UInt64}

@[simp] theorem millis_zero : millis 0 = 0 := by
  simp [millis, Double.nearest]

theorem millis_mono (order : u ≤ v) : millis u ≤ millis v := by
  have counts : (u.toNat : ℚ) ≤ v.toNat := by exact_mod_cast order
  have rounded := Double.nearest_mono (Nat.cast_nonneg u.toNat) counts
  have nonneg : 0 ≤ Double.nearest u.toNat := by
    simpa [Double.nearest] using Double.nearest_mono le_rfl (Nat.cast_nonneg (α := ℚ) u.toNat)
  exact Double.nearest_mono (by positivity) (div_le_div_of_nonneg_right rounded (by norm_num))

theorem millis_nonneg (v : UInt64) : 0 ≤ millis v := by
  rw [← millis_zero]
  exact millis_mono UInt64.zero_le

/-- Only a zero sample is zero milliseconds. -/
theorem millis_pos_iff : 0 < millis v ↔ 0 < v := by
  constructor
  · intro some
    by_contra zero
    rw [UInt64.le_zero_iff.mp (not_lt.mp zero), millis_zero] at some
    exact lt_irrefl 0 some
  · intro positive
    have count : (0 : ℚ) < v.toNat := by exact_mod_cast positive
    exact Double.nearest_pos (div_pos (Double.nearest_pos count) (by norm_num))

/-- Whole milliseconds that a double can count convert exactly. -/
theorem millis_of_whole {n : Nat} (whole : v.toNat = n * 1000) (small : v.toNat < 2 ^ 53) :
    millis v = n := by
  have counted : Double.nearest v.toNat / 1000 = (n : ℚ) := by
    rw [Double.nearest_natCast small, whole, Nat.cast_mul]
    norm_num
  have below : n < 2 ^ 53 := by omega
  rw [millis, counted, Double.nearest_natCast below]

theorem p99Index_lt {len : Nat} (positive : 0 < len) : p99Index len < len := by
  have wrapped : len * 99 % 2 ^ 64 ≤ len * 99 := Nat.mod_le _ _
  unfold p99Index
  omega

/-- What is counted among the samples that are not zero, where zeros do not
count. -/
theorem countP_positive {p : UInt64 → Bool} (zeroless : ∀ x, p x = true → 0 < x)
    (samples : List UInt64) : (samples.filter (0 < ·)).countP p = samples.countP p := by
  rw [List.countP_filter]
  apply List.countP_congr
  intro x _
  simpa using zeroless x

/-- Only samples that are not zero are above anything. -/
theorem countP_above (samples : List UInt64) (v : UInt64) :
    (samples.filter (0 < ·)).countP (millis v < millis ·) =
      samples.countP (millis v < millis ·) := by
  apply countP_positive
  intro x above
  exact millis_pos_iff.mp ((millis_nonneg v).trans_lt (by simpa using above))

/-- Only samples that are not zero are at or above one that is not. -/
theorem countP_atLeast (samples : List UInt64) (positive : 0 < v) :
    (samples.filter (0 < ·)).countP (millis v ≤ millis ·) =
      samples.countP (millis v ≤ millis ·) := by
  apply countP_positive
  intro x atLeast
  exact millis_pos_iff.mp ((millis_pos_iff.mpr positive).trans_le (by simpa using atLeast))

/-- All samples that are not zero are above a zero, and they do not fit behind
one of them. -/
theorem not_rankFits_zero (some : 0 < samples.countP (0 < ·)) : ¬ RankFits samples 0 := by
  intro fits
  have all : samples.countP (millis 0 < millis ·) = samples.countP (0 < ·) := by
    apply List.countP_congr
    intro x _
    simpa using millis_pos_iff
  have above := fits.above
  rw [all, passed] at above
  omega

/-- Where all samples are zero the percentile is. -/
theorem rankFits_zero (none : samples.countP (0 < ·) = 0) (member : v ∈ samples) :
    v = 0 ∧ RankFits samples v := by
  have zero : v = 0 := by simpa using List.countP_eq_zero.mp none v member
  have above : samples.countP (millis v < millis ·) ≤ 0 := by
    have room := List.countP_le_length (p := (millis v < millis ·)) (l := samples.filter (0 < ·))
    rwa [countP_above, ← List.countP_eq_length_filter, none] at room
  have atLeast : 0 < samples.countP (millis v ≤ millis ·) :=
    List.countP_pos_iff.mpr ⟨v, member, by simp⟩
  refine ⟨zero, ?_, ?_⟩ <;> rw [none]
  · exact above
  · exact atLeast

/-- What `p99_ms` reads when there are samples that are not zero. -/
theorem p99Ms_of_sorted (some : 0 < (r.buf.filter (0 < ·)).length) :
    ∃ (sorted : List UInt64) (inside : p99Index sorted.length < sorted.length),
      sorted.Perm (r.buf.filter (0 < ·)) ∧ sorted.Pairwise (· ≤ ·) ∧
        r.p99Ms = millis sorted[p99Index sorted.length] := by
  let sorted := (r.buf.filter (0 < ·)).mergeSort (· ≤ ·)
  have perm : sorted.Perm (r.buf.filter (0 < ·)) := List.mergeSort_perm _ _
  have inside : p99Index sorted.length < sorted.length := p99Index_lt (by rwa [perm.length_eq])
  have filled : (r.buf.filter (0 < ·)).isEmpty = false := by
    rw [← Bool.not_eq_true, List.isEmpty_iff_length_eq_zero]
    omega
  refine ⟨sorted, inside, perm, ?_, ?_⟩
  · have ordered : sorted.Pairwise fun a b => decide (a ≤ b) = true :=
      List.pairwise_mergeSort (fun a b c => by simpa using le_trans)
        (fun a b => by simpa using le_total a b) _
    exact ordered.imp fun le => by simpa using le
  · simp only [p99Ms, filled, Bool.false_eq_true, if_false]
    rw [List.getD_eq_getElem _ _ inside]

/-- The buffer's percentile is the value of one of the samples exactly when that
one fits its position. -/
theorem p99Ms_eq_millis_iff (same : (r.buf.filter (0 < ·)).Perm (samples.filter (0 < ·)))
    (member : v ∈ samples) : r.p99Ms = millis v ↔ RankFits samples v := by
  have length : (r.buf.filter (0 < ·)).length = samples.countP (0 < ·) := by
    rw [same.length_eq, List.countP_eq_length_filter]
  rcases Nat.eq_zero_or_pos (samples.countP (0 < ·)) with none | some
  · obtain ⟨zero, fits⟩ := rankFits_zero none member
    have silent : r.buf.filter (0 < ·) = [] := List.eq_nil_of_length_eq_zero (length.trans none)
    refine iff_of_true ?_ fits
    simp [p99Ms, silent, zero]
  · obtain ⟨sorted, inside, perm, order, reads⟩ := p99Ms_of_sorted (length ▸ some)
    have placed := value_at_iff (y := millis v) (order.imp millis_mono) inside
    have behind : sorted.length - 1 - p99Index sorted.length = passed (samples.countP (0 < ·)) := by
      rw [perm.length_eq, length, passed]
    rw [(perm.trans same).countP_eq, (perm.trans same).countP_eq, countP_above, behind] at placed
    rw [reads]
    by_cases positive : 0 < v
    · rw [countP_atLeast samples positive] at placed
      rw [placed]
      exact ⟨fun ⟨above, atLeast⟩ => ⟨above, atLeast⟩, fun ⟨above, atLeast⟩ => ⟨above, atLeast⟩⟩
    · -- the percentile is zero, and the code returns none of the zeros
      have kept := (perm.trans same).mem_iff.mp (List.getElem_mem inside)
      have nonzero : 0 < millis sorted[p99Index sorted.length] :=
        millis_pos_iff.mpr (by simpa using (List.mem_filter.mp kept).2)
      rw [UInt64.le_zero_iff.mp (not_lt.mp positive), millis_zero]
      exact iff_of_false nonzero.ne' (not_rankFits_zero some)

/-- The samples in the buffer that are not zero are those of the latest ones. -/
theorem filter_pushAll (positive : 0 < capacity) (few : samples.length < 2 ^ 64) :
    (((new capacity positive).pushAll samples).buf.filter (0 < ·)).Perm
      ((latest capacity samples).filter (0 < ·)) := by
  have held := ((holds_pushAll positive samples (.inl few)).perm).filter (0 < ·)
  have zeros : (List.replicate (capacity - samples.length) (0 : UInt64)).filter (0 < ·) = [] := by
    simp
  rwa [List.filter_append, zeros, List.nil_append] at held

/-- Through a buffer of any capacity `p99_ms` is the nearest-rank percentile of
the latest samples exactly when that one fits the position the code takes. -/
theorem p99_is_percentile_iff (capacity : Nat) (positive : 0 < capacity) (samples : List UInt64)
    (filled : samples ≠ []) (few : samples.length < 2 ^ 64) :
    ∃ v, IsPercentile 99 (latest capacity samples) v ∧
      (((new capacity positive).pushAll samples).p99Ms = millis v ↔
        RankFits (latest capacity samples) v) := by
  have some : latest capacity samples ≠ [] := by
    have counted := List.length_pos_of_ne_nil filled
    rw [latest, ne_eq, List.drop_eq_nil_iff]
    omega
  obtain ⟨v, percentile⟩ := exists_isPercentile (by norm_num : 99 ≤ 100) some
  exact ⟨v, percentile, p99Ms_eq_millis_iff (filter_pushAll positive few) percentile.mem⟩

theorem p99_is_percentile_iff_spread :
    ∃ v, IsPercentile 99 (latest 1024 [250, 0, 900]) v ∧
      (((new 1024 (by decide)).pushAll [250, 0, 900]).p99Ms = millis v ↔
        RankFits (latest 1024 [250, 0, 900]) v) :=
  p99_is_percentile_iff 1024 (by decide) [250, 0, 900] (by decide) (by decide)

/-- Of two samples `p99_ms` returns the smaller one. -/
theorem smaller_of_two_samples :
    let samples : List UInt64 := [1000, 1000000]
    IsPercentile 99 (latest ringCapacity samples) 1000000 ∧ millis 1000000 = 1000 ∧
      ((new ringCapacity (by decide)).pushAll samples).p99Ms = 1 := by
  intro samples
  have fast : millis 1000 = 1 := by
    simpa using millis_of_whole (v := 1000) (n := 1) rfl (by decide)
  have slow : millis 1000000 = 1000 := millis_of_whole (n := 1000) rfl (by decide)
  have held : latest ringCapacity samples = samples := by simp [latest, samples, ringCapacity]
  have fits : RankFits samples 1000 := by
    have behind : passed (samples.countP (0 < ·)) = 1 := by decide
    constructor <;> rw [behind] <;> simp [samples, fast, slow]
  refine ⟨?_, slow, ?_⟩
  · rw [held]
    refine ⟨by simp [samples], by decide, fun u member covers => ?_⟩
    simp only [samples, List.mem_cons, List.not_mem_nil, or_false] at member
    rcases member with rfl | rfl
    · exact absurd covers (by decide)
    · exact le_rfl
  · have kept : (((new ringCapacity (by decide)).pushAll samples).buf.filter (0 < ·)).Perm
        ((latest ringCapacity samples).filter (0 < ·)) := filter_pushAll (by decide) (by decide)
    rw [held] at kept
    rw [(p99Ms_eq_millis_iff kept (by simp [samples])).mpr fits, fast]

end RingBuffer

end EdgeBootstrap
