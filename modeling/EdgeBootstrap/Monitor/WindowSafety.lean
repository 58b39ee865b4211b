import EdgeBootstrap.Library.Fallible
import EdgeBootstrap.Monitor.Percentile

/-! The ring buffer with the panics of its indexing. A buffer is its two fields
here, with or without slots, and each access to a slot fails when it is out of
range; a buffer that has slots never gets there, however often its head wraps
around. -/
namespace EdgeBootstrap

/-- What indexing and the remainder panic with. -/
inductive Rust.Panic
  | outOfBounds (len index : Nat)
  | divisorZero
  deriving DecidableEq, Repr

/-- `v[i]`. -/
def Rust.index {α : Type} (v : List α) (i : Nat) : Except Panic α :=
  match v[i]? with
  | some x => .ok x
  | none => .error (.outOfBounds v.length i)

/-- `v[i] = x`. -/
def Rust.setIndex {α : Type} (v : List α) (i : Nat) (x : α) : Except Panic (List α) :=
  if i < v.length then .ok (v.set i x) else .error (.outOfBounds v.length i)

theorem Rust.index_of_lt {α : Type} {v : List α} {i : Nat} (inside : i < v.length) :
    Rust.index v i = .ok v[i] := by
  rw [Rust.index, List.getElem?_eq_getElem inside]

theorem Rust.setIndex_of_lt {α : Type} {v : List α} {i : Nat} (inside : i < v.length) (x : α) :
    Rust.setIndex v i x = .ok (v.set i x) := by
  rw [Rust.setIndex, if_pos inside]

namespace RingBuffer

/-- The fields of a buffer, of any capacity. -/
structure Raw where
  buf : List UInt64
  head : UInt64
  deriving DecidableEq, Repr

namespace Raw

def new (capacity : Nat) : Raw := ⟨List.replicate capacity 0, 0⟩

def push (r : Raw) (valUs : UInt64) : Except Rust.Panic Raw := do
  let cap := r.buf.length
  if cap = 0 then throw .divisorZero
  let buf ← Rust.setIndex r.buf (r.head.toNat % cap) valUs
  return ⟨buf, r.head + 1⟩

def p99Ms (r : Raw) : Except Rust.Panic Rat :=
  let samples := r.buf.filter (0 < ·)
  if samples.isEmpty then .ok 0
  else do
    let sorted := samples.mergeSort (· ≤ ·)
    let sample ← Rust.index sorted (p99Index sorted.length)
    return millis sample

end Raw

/-- The fields of a buffer with slots. -/
def raw (r : RingBuffer) : Raw := ⟨r.buf, r.head⟩

variable {capacity : Nat} {samples : List UInt64} {r : RingBuffer} {x v : UInt64}

/-- A push to a buffer with slots writes to one of them. -/
theorem push_raw (r : RingBuffer) (x : UInt64) : r.raw.push x = .ok (r.push x).raw := by
  have inside : r.head.toNat % r.buf.length < r.buf.length := Nat.mod_lt _ r.nonempty
  have filled : r.buf.length ≠ 0 := r.nonempty.ne'
  simp only [Raw.push, raw, if_neg filled, Rust.setIndex_of_lt inside]
  rfl

/-- Any pushes do. -/
theorem pushAll_raw (r : RingBuffer) (samples : List UInt64) :
    samples.foldlM Raw.push r.raw = .ok (r.pushAll samples).raw := by
  induction samples generalizing r with
  | nil => rfl
  | cons x samples ih =>
    rw [List.foldlM_cons, push_raw]
    exact ih (r.push x)

/-- The percentile of a buffer is read from a position of its samples. -/
theorem p99Ms_raw (r : RingBuffer) : r.raw.p99Ms = .ok r.p99Ms := by
  by_cases empty : (r.buf.filter (0 < ·)).isEmpty = true
  · simp only [Raw.p99Ms, raw, RingBuffer.p99Ms, empty, if_true]
  · have some : 0 < (r.buf.filter (0 < ·)).length := List.length_pos_iff.mpr (by simpa using empty)
    have inside : p99Index ((r.buf.filter (0 < ·)).mergeSort (· ≤ ·)).length <
        ((r.buf.filter (0 < ·)).mergeSort (· ≤ ·)).length := by
      apply p99Index_lt
      rwa [List.length_mergeSort]
    simp only [Raw.p99Ms, raw, RingBuffer.p99Ms, empty, Rust.index_of_lt inside,
      List.getD_eq_getElem _ _ inside]
    rfl

/-- The percentile is zero, or one of the samples that are not. -/
theorem p99Ms_cases (r : RingBuffer) :
    r.p99Ms = 0 ∨ ∃ v ∈ r.buf, 0 < v ∧ r.p99Ms = millis v := by
  rcases Nat.eq_zero_or_pos (r.buf.filter (0 < ·)).length with none | some
  · left
    simp [p99Ms, List.eq_nil_of_length_eq_zero none]
  · right
    obtain ⟨sorted, inside, perm, _, reads⟩ := p99Ms_of_sorted some
    have kept := perm.mem_iff.mp (List.getElem_mem inside)
    obtain ⟨member, positive⟩ := List.mem_filter.mp kept
    exact ⟨_, member, by simpa using positive, reads⟩

/-- What a buffer of a capacity has after some samples, and the percentile it
gives. -/
structure Exact (capacity : Nat) (samples : List UInt64) (r : Raw) (ms : Rat) : Prop where
  length : r.buf.length = capacity
  count : (latest capacity samples).length = min samples.length capacity
  /-- The latest samples and zeros, in some order. -/
  held : r.buf.Perm (latest capacity samples ++ List.replicate (capacity - samples.length) 0)
  read : ms = 0 ∨ ∃ v ∈ latest capacity samples, 0 < v ∧ ms = millis v

/-- No push panics, nor does the percentile after them, and the buffer has what
it should. -/
def KeepsWindow (start : Raw) (capacity : Nat) (samples : List UInt64) : Prop :=
  ∃ r ms, samples.foldlM Raw.push start = .ok r ∧ r.p99Ms = .ok ms ∧ Exact capacity samples r ms

/-- A buffer that holds its window gives no other percentile. -/
theorem Holds.exact (holds : Holds capacity samples r) : Exact capacity samples r.raw r.p99Ms := by
  have held : r.buf.Perm (latest capacity samples ++ List.replicate (capacity - samples.length) 0) :=
    holds.perm.trans List.perm_append_comm
  refine ⟨holds.length, length_latest capacity samples, held, ?_⟩
  refine (p99Ms_cases r).imp_right ?_
  rintro ⟨v, member, positive, reads⟩
  refine ⟨v, ?_, positive, reads⟩
  -- the zeros that fill the buffer are no samples
  rcases List.mem_append.mp (held.mem_iff.mp member) with sample | filler
  · exact sample
  · rw [List.eq_of_mem_replicate filler] at positive
    exact absurd positive (lt_irrefl 0)

/-- Past the range of its head a buffer keeps its window when the capacity
divides that range. -/
theorem keepsWindow_of_fits (positive : 0 < capacity) (samples : List UInt64)
    (fits : samples.length < 2 ^ 64 ∨ capacity ∣ 2 ^ 64) :
    KeepsWindow (.new capacity) capacity samples :=
  ⟨((new capacity positive).pushAll samples).raw, _, pushAll_raw (new capacity positive) samples,
    p99Ms_raw _, (holds_pushAll positive samples fits).exact⟩

/-- A buffer whose capacity is a power of two keeps its window through any number
of pushes, and so does the one of the traffic counters. -/
theorem latency_window_exact_and_safe (n : Nat) (atMost : n ≤ 63) (samples : List UInt64) :
    KeepsWindow (.new (2 ^ n)) (2 ^ n) samples ∧
      KeepsWindow TrafficCounters.new.latencyRing.raw ringCapacity samples := by
  constructor
  · have divides : 2 ^ n ∣ 2 ^ 64 := Nat.pow_dvd_pow 2 (by omega)
    exact keepsWindow_of_fits (Nat.two_pow_pos n) samples (.inr divides)
  · have divides : ringCapacity ∣ 2 ^ 64 := ⟨2 ^ 54, rfl⟩
    exact keepsWindow_of_fits (by decide) samples (.inr divides)

/-- Four samples through two slots. -/
theorem latency_window_exact_and_safe_two :
    KeepsWindow (.new (2 ^ 1)) (2 ^ 1) [250, 0, 900, 120] ∧
      KeepsWindow TrafficCounters.new.latencyRing.raw ringCapacity [250, 0, 900, 120] :=
  latency_window_exact_and_safe 1 (by decide) [250, 0, 900, 120]

/-- Where the head wraps around two slots are written in turn; of three the first
is written twice. -/
example :
    [7, 8].foldlM Raw.push ⟨[1, 2], 18446744073709551615⟩ = .ok ⟨[8, 7], 1⟩ ∧
      [7, 8].foldlM Raw.push ⟨[1, 2, 3], 18446744073709551615⟩ = .ok ⟨[8, 2, 3], 1⟩ := by
  decide

end RingBuffer

end EdgeBootstrap
