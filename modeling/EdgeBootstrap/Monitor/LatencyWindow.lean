import EdgeBootstrap.Library.Ranks
import EdgeBootstrap.Monitor.TrafficCounters
import Mathlib.Data.List.Rotate

/-! The latency samples a ring buffer holds, and the percentile it makes of
them. Read from the head on, a buffer lists the last samples in the order they
were pushed, behind the zeros it started with; this holds as long as the head
has not wrapped around, and past that when the capacity divides its range. -/
namespace EdgeBootstrap
open Ranks

namespace RingBuffer

/-- The buffer after a sequence of samples. -/
def pushAll (r : RingBuffer) (samples : List UInt64) : RingBuffer := samples.foldl push r

/-- The last samples that a buffer of this capacity has room for. -/
def latest (capacity : Nat) (samples : List UInt64) : List UInt64 :=
  samples.drop (samples.length - capacity)

/-- The latest samples, behind the zeros of the slots that were never written. -/
def window (capacity : Nat) (samples : List UInt64) : List UInt64 :=
  (List.replicate capacity 0 ++ samples).drop samples.length

/-- What a buffer of this capacity holds after these samples. -/
structure Holds (capacity : Nat) (samples : List UInt64) (r : RingBuffer) : Prop where
  length : r.buf.length = capacity
  head : r.head.toNat = samples.length % 2 ^ 64
  window : r.buf.rotate samples.length = window capacity samples

variable {capacity : Nat} {samples : List UInt64} {r : RingBuffer} {x v : UInt64}

theorem window_eq (capacity : Nat) (samples : List UInt64) : window capacity samples =
    List.replicate (capacity - samples.length) 0 ++ latest capacity samples := by
  rw [window, List.drop_append, List.drop_replicate, List.length_replicate]
  rfl

theorem length_latest (capacity : Nat) (samples : List UInt64) :
    (latest capacity samples).length = min samples.length capacity := by
  rw [latest, List.length_drop]
  omega

/-- One more sample pushes the first of a window out. -/
theorem window_append (positive : 0 < capacity) (samples : List UInt64) (x : UInt64) :
    window capacity (samples ++ [x]) = (window capacity samples).tail ++ [x] := by
  have inside : samples.length + 1 ≤ (List.replicate capacity (0 : UInt64) ++ samples).length := by
    rw [List.length_append, List.length_replicate]
    omega
  rw [window, window, List.tail_drop, ← List.append_assoc, List.length_append, List.length_singleton,
    List.drop_append_of_le_length inside]

/-- Setting the entry a list starts with after a rotation, and rotating once
more, moves the new entry to its end. -/
theorem rotate_set {l : List UInt64} {p : Nat} (inside : p < l.length) (x : UInt64) :
    (l.set p x).rotate (p + 1) = (l.rotate p).tail ++ [x] := by
  have length : (l.set p x).length = l.length := List.length_set
  have after : (l.set p x).drop (p + 1) = l.drop (p + 1) := List.drop_set_of_lt (Nat.lt_succ_self p)
  have before : (l.set p x).take (p + 1) = l.take p ++ [x] := by
    rw [List.take_add_one, List.take_set_of_le (le_refl p), List.getElem?_set_self inside]
    rfl
  have filled : l.drop p ≠ [] := by
    rw [ne_eq, List.drop_eq_nil_iff]
    omega
  rw [List.rotate_eq_drop_append_take (by omega), List.rotate_eq_drop_append_take inside.le, after,
    before, List.tail_append_of_ne_nil filled, List.tail_drop, List.append_assoc]

theorem buf_push (r : RingBuffer) (x : UInt64) :
    (r.push x).buf = r.buf.set (r.head.toNat % r.buf.length) x := rfl

theorem length_push (r : RingBuffer) (x : UInt64) : (r.push x).buf.length = r.buf.length := by
  rw [buf_push, List.length_set]

theorem holds_new (positive : 0 < capacity) : Holds capacity [] (new capacity positive) where
  length := by simp [new]
  head := rfl
  window := by simp [new, RingBuffer.window]

/-- A push keeps what the buffer holds, as long as the head tells the number of
samples up to the capacity. -/
theorem Holds.push (holds : Holds capacity samples r)
    (fits : samples.length < 2 ^ 64 ∨ capacity ∣ 2 ^ 64) : Holds capacity (samples ++ [x]) (r.push x) := by
  obtain ⟨length, head, window⟩ := holds
  have positive : 0 < capacity := length ▸ r.nonempty
  have slot : r.head.toNat % capacity = samples.length % capacity := by
    rw [head]
    rcases fits with few | divides
    · rw [Nat.mod_eq_of_lt few]
    · exact Nat.mod_mod_of_dvd _ divides
  constructor
  · rw [length_push, length]
  · rw [RingBuffer.push, UInt64.toNat_add, UInt64.toNat_one, head, List.length_append,
      List.length_singleton, Nat.mod_add_mod]
  · have inside : samples.length % capacity < r.buf.length := by
      rw [length]
      exact Nat.mod_lt _ positive
    have turned : (r.push x).buf.rotate (samples.length + 1) =
        (r.push x).buf.rotate (samples.length % capacity + 1) := by
      rw [← List.rotate_mod, ← List.rotate_mod _ (_ % _ + 1), length_push, length, Nat.mod_add_mod]
    rw [List.length_append, List.length_singleton, turned, buf_push, length, slot, rotate_set inside,
      ← length, List.rotate_mod, window, length, window_append positive]

/-- After any samples, fewer than the head can count or through a capacity that
divides its range, the buffer holds the latest of them. -/
theorem holds_pushAll (positive : 0 < capacity) (samples : List UInt64)
    (fits : samples.length < 2 ^ 64 ∨ capacity ∣ 2 ^ 64) :
    Holds capacity samples ((new capacity positive).pushAll samples) := by
  induction samples using List.reverseRecOn with
  | nil => exact holds_new positive
  | append_singleton samples x ih =>
    have before : samples.length < 2 ^ 64 ∨ capacity ∣ 2 ^ 64 := by
      refine fits.imp_left fun few => ?_
      rw [List.length_append, List.length_singleton] at few
      omega
    rw [pushAll, List.foldl_concat]
    exact (ih before).push before

/-- As a multiset the buffer is the latest samples and the zeros left over. -/
theorem Holds.perm (holds : Holds capacity samples r) :
    r.buf.Perm (List.replicate (capacity - samples.length) 0 ++ latest capacity samples) := by
  rw [← window_eq, ← holds.window]
  exact (List.rotate_perm r.buf samples.length).symm

end RingBuffer

end EdgeBootstrap
