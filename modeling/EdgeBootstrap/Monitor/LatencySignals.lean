import EdgeBootstrap.Monitor.Autoscale
import EdgeBootstrap.Monitor.WindowSafety

/-! The scale-out signal for the latency. A round reads the ring's percentile under its
lock, and each call of `on_end` pushes its latency last, under the same lock. So the
samples a round sees are those of the calls that had returned when it read them, in the
order they returned, and whether it raises the signal is a matter of counting those that
are above the threshold. -/
namespace EdgeBootstrap

namespace Toml.F64

variable {threshold : Toml.F64} {q q' : ℚ}

/-- What is above a number that is above the threshold is above it. -/
theorem Below.mono (below : threshold.Below q) (order : q ≤ q') : threshold.Below q' := by
  unfold Below at below ⊢
  split
  · rename_i bound finite
    rw [finite] at below
    exact below.trans_le order
  · rename_i negative infinite
    rwa [infinite] at below
  · rename_i none
    rwa [none] at below

end Toml.F64

namespace RingBuffer

variable {samples : List UInt64} {r : RingBuffer} {threshold : Toml.F64}

/-- The percentile is above a threshold exactly when more of the samples are than may
stand behind its position, or the threshold is negative. -/
theorem below_p99Ms_iff (same : (r.buf.filter (0 < ·)).Perm (samples.filter (0 < ·))) :
    threshold.Below r.p99Ms ↔ threshold.Below 0 ∨
      passed (samples.countP (0 < ·)) < samples.countP (threshold.Below <| millis ·) := by
  have length : (r.buf.filter (0 < ·)).length = samples.countP (0 < ·) := by
    rw [same.length_eq, List.countP_eq_length_filter]
  by_cases always : threshold.Below 0
  · have nonneg : 0 ≤ r.p99Ms := by
      rcases p99Ms_cases r with zero | ⟨v, _, _, reads⟩
      · exact zero.ge
      · exact reads ▸ millis_nonneg v
    exact iff_of_true (always.mono nonneg) (.inl always)
  · rw [or_iff_right always]
    -- a sample that is above the threshold is not zero
    have zeroless : ∀ v, decide (threshold.Below (millis v)) = true → 0 < v := by
      intro v above
      by_contra zero
      rw [UInt64.le_zero_iff.mp (not_lt.mp zero), millis_zero, decide_eq_true_eq] at above
      exact always above
    rcases Nat.eq_zero_or_pos (samples.countP (0 < ·)) with none | some
    · have silent : r.p99Ms = 0 := by
        simp [p99Ms, List.eq_nil_of_length_eq_zero (length.trans none)]
      have counted := List.countP_le_length (p := fun v => decide (threshold.Below (millis v)))
        (l := samples.filter (0 < ·))
      rw [countP_positive zeroless, ← List.countP_eq_length_filter, none] at counted
      rw [silent]
      exact iff_of_false always (by omega)
    · obtain ⟨sorted, inside, perm, order, reads⟩ := p99Ms_of_sorted (length ▸ some)
      have upward : sorted.Pairwise fun u v => decide (threshold.Below (millis u)) = true →
          decide (threshold.Below (millis v)) = true := by
        refine order.imp fun le above => ?_
        rw [decide_eq_true_eq] at above ⊢
        exact above.mono (millis_mono le)
      have placed := Ranks.getElem_iff_behind_lt_countP upward inside
      have behind : sorted.length - 1 - p99Index sorted.length = passed (samples.countP (0 < ·)) := by
        rw [perm.length_eq, length, passed]
      rw [decide_eq_true_eq, behind, (perm.trans same).countP_eq, countP_positive zeroless] at placed
      rw [reads, placed]

/-- What a buffer holds that is not zero is what its samples are. -/
theorem Holds.filter {capacity : Nat} (holds : Holds capacity samples r) :
    (r.buf.filter (0 < ·)).Perm ((latest capacity samples).filter (0 < ·)) := by
  have held := holds.perm.filter (0 < ·)
  have zeros : (List.replicate (capacity - samples.length) (0 : UInt64)).filter (0 < ·) = [] := by
    simp
  rwa [List.filter_append, zeros, List.nil_append] at held

end RingBuffer

/-- The signal is about the latency. -/
def ScaleOut.IsLatency : ScaleOut → Prop
  | .latencyP99 _ _ => True
  | _ => False

namespace Autoscale
open StepMachine Ticks RingBuffer

/-- A latency signal is among the signals of a sample exactly when the percentile is above
its threshold. -/
theorem isLatency_iff (p : AutoscalePolicy) (sample : RoundSample) :
    (∃ signal ∈ p.signals sample, signal.IsLatency) ↔ p.latencyP99MsMax.Below sample.p99 := by
  unfold AutoscalePolicy.signals
  by_cases active : p.requestsActiveMax.toNat < Double.asU64 sample.active <;>
    by_cases rate : p.requestsPerSecMax.toNat < Double.asU64 sample.rps <;>
    by_cases latency : p.latencyP99MsMax.Below sample.p99 <;>
    simp [active, rate, latency, ScaleOut.IsLatency]

/-- The latency of a call that has returned. -/
def State.latency (s : State) (i : Nat) : Option UInt64 :=
  s.endings[i]?.bind fun e => if e.phase = .returned then some e.latencyUs else none

/-- The latencies of calls that have returned, in this order of the calls. -/
def State.latencies (s : State) (order : List Nat) : List UInt64 := order.filterMap s.latency

/-- The round is about to read the percentile. -/
def State.Reads (s : State) (j : Nat) : Prop :=
  ∃ active rps eps sample, s.rounds[j]? = some ⟨.errorsTaken active rps eps, sample⟩

/-- The call that an action makes return. -/
def State.returning (s : State) : Action → Option Nat
  | .ending i =>
    if (s.endings[i]?.bind (·.next s.counters)).any (·.1.phase = .returned) then some i else none
  | _ => none

/-- The rounds, with the calls in the order they return. -/
def ordered (policy : Option AutoscalePolicy) : StepMachine (State × List Nat) Action :=
  (machine policy).annotated [] fun order s a => order ++ (s.returning a).toList

variable {policy : Option AutoscalePolicy} {s s' : State} {a : Action} {i j : Nat}
  {history : List Action} {order : List Nat} {c c' : TrafficCounters} {e e' : Ending} {t t' : Tick}

/-- A call pushes its latency as it returns. -/
theorem latencyRing_next_ending (stepped : e.next c = some (e', c')) :
    e.phase ≠ .returned ∧ e'.latencyUs = e.latencyUs ∧
      c'.latencyRing = if e'.phase = .returned then c.latencyRing.push e.latencyUs else c.latencyRing := by
  obtain ⟨latencyUs, isError, phase, fits⟩ := e
  cases phase with
  | returned => cases stepped
  | called | left | counted | failed =>
    cases stepped
    simp [recordCounter]
  | totalled | failureTotalled =>
    cases isError <;> cases fits <;> cases stepped <;> simp

theorem latencyRing_next_tick (stepped : t.next c = some (t', c')) : c'.latencyRing = c.latencyRing := by
  cases t with
  | ended => cases stepped
  | begun | loaded _ | requestsTaken _ _ | errorsTaken _ _ _ | sampled _ _ _ _
  | activeRecorded _ _ _ | requestsRecorded _ _ | errorsRecorded _ =>
    cases stepped
    rfl

/-- The percentile a round compares is the one it read. -/
theorem p99_next (before : Option RoundSample) (stepped : t.next c = some (t', c')) :
    (∃ active rps eps, t = .errorsTaken active rps eps ∧
        sampled before t' = some ⟨active, rps, c.latencyRing.p99Ms⟩) ∨
      sampled before t' = before ∧ (HasSampled t' ↔ HasSampled t) := by
  cases t with
  | ended => cases stepped
  | errorsTaken active rps eps =>
    cases stepped
    exact .inl ⟨active, rps, eps, rfl, rfl⟩
  | begun | loaded _ | requestsTaken _ _ | sampled _ _ _ _ | activeRecorded _ _ _
  | requestsRecorded _ _ | errorsRecorded _ =>
    cases stepped
    exact .inr ⟨rfl, Iff.rfl⟩

/-- What an action does to the ring and to the calls that have returned. -/
theorem latency_step (stepped : step policy s a = some s') :
    (s.returning a = none ∧ s'.latency = s.latency ∧
        s'.counters.latencyRing = s.counters.latencyRing) ∨
      ∃ i v, s.returning a = some i ∧ s.latency i = none ∧
        s'.latency = Function.update s.latency i (some v) ∧
        s'.counters.latencyRing = s.counters.latencyRing.push v := by
  cases a with
  | onStart | tick =>
    cases stepped
    exact .inl ⟨rfl, rfl, rfl⟩
  | onEnd latencyUs isError =>
    cases stepped
    refine .inl ⟨rfl, funext fun i => ?_, rfl⟩
    simp only [State.latency, List.getElem?_append]
    split
    · rfl
    · rename_i outside
      rw [List.getElem?_eq_none (not_lt.mp outside)]
      cases i - s.endings.length <;> rfl
  | ending i =>
    obtain ⟨⟨e', c'⟩, ran, rfl⟩ := Option.map_eq_some_iff.mp stepped
    obtain ⟨e, found, next⟩ := Option.bind_eq_some_iff.mp ran
    obtain ⟨unreturned, same, ring⟩ := latencyRing_next_ending next
    obtain ⟨inside, _⟩ := List.getElem?_eq_some_iff.mp found
    have absent : s.latency i = none := by simp [State.latency, found, unreturned]
    by_cases returned : e'.phase = .returned
    · refine .inr ⟨i, e.latencyUs, by simp [State.returning, found, next, returned], absent, ?_, ?_⟩
      · funext k
        rcases eq_or_ne i k with rfl | other
        · simp [State.latency, inside, returned, same]
        · simp [State.latency, other, other.symm]
      · simpa [returned] using ring
    · refine .inl ⟨by simp [State.returning, found, next, returned], funext fun k => ?_, ?_⟩
      · rcases eq_or_ne i k with rfl | other
        · rw [absent]
          simp [State.latency, inside, returned]
        · simp [State.latency, other]
      · simpa [returned] using ring
  | ticking j =>
    obtain ⟨⟨r', c', more⟩, ran, rfl⟩ := Option.map_eq_some_iff.mp stepped
    obtain ⟨r, _, next⟩ := Option.bind_eq_some_iff.mp ran
    exact .inl ⟨rfl, rfl, latencyRing_next_tick (next_spec next).1⟩

/-- The ring holds the latencies of the calls that have returned, in the order of the
list. -/
structure Pushed (s : State) (order : List Nat) : Prop where
  nodup : order.Nodup
  returned : ∀ i, i ∈ order ↔ (s.latency i).isSome = true
  holds : Holds ringCapacity (s.latencies order) s.counters.latencyRing

theorem Pushed.step (pushed : Pushed s order) (stepped : step policy s a = some s') :
    Pushed s' (order ++ (s.returning a).toList) := by
  obtain ⟨nodup, returned, holds⟩ := pushed
  rcases latency_step stepped with ⟨none, same, ring⟩ | ⟨i, v, some, absent, update, ring⟩
  · rw [none, Option.toList_none, List.append_nil]
    refine ⟨nodup, by rwa [same], ?_⟩
    rwa [State.latencies, same, ring]
  · have new : i ∉ order := by
      rw [returned, absent]
      exact Bool.false_ne_true
    have earlier : order.filterMap s'.latency = order.filterMap s.latency := by
      refine List.filterMap_congr fun k member => ?_
      rw [update, Function.update_of_ne (by rintro rfl; exact new member)]
    rw [some, Option.toList_some]
    refine ⟨?_, fun k => ?_, ?_⟩
    · rw [List.nodup_append]
      refine ⟨nodup, List.nodup_singleton i, ?_⟩
      rintro k member _ last rfl
      exact new (List.mem_singleton.mp last ▸ member)
    · rw [List.mem_append, List.mem_singleton, returned, update]
      rcases eq_or_ne k i with rfl | other
      · simp
      · simp [other]
    · have divides : ringCapacity ∣ 2 ^ 64 := ⟨2 ^ 54, rfl⟩
      have last : [i].filterMap s'.latency = [v] := by simp [update]
      rw [State.latencies, List.filterMap_append, earlier, last, ring]
      exact holds.push (.inr divides)

/-- The list has the calls of a run in the order they returned: at every moment, those
that had returned are its first ones. -/
structure InOrder (policy : Option AutoscalePolicy) (history : List Action) (order : List Nat) :
    Prop where
  nodup : order.Nodup
  first : ∀ pre s, pre <+: history → (machine policy).exec pre = some s →
    ∃ early, early <+: order ∧ ∀ i, i ∈ early ↔ (s.latency i).isSome = true

/-- Later calls add nothing to the latencies of a moment. -/
theorem latencies_of_first {early : List Nat} (nodup : order.Nodup) (front : early <+: order)
    (returned : ∀ i, i ∈ early ↔ (s.latency i).isSome = true) :
    s.latencies order = s.latencies early := by
  obtain ⟨late, rfl⟩ := front
  have none : late.filterMap s.latency = [] := by
    rw [List.filterMap_eq_nil_iff]
    intro i member
    by_contra some
    have first := (returned i).mpr (Option.isSome_iff_ne_none.mpr some)
    exact (List.nodup_append.mp nodup).2.2 i first i member rfl
  rw [State.latencies, State.latencies, List.filterMap_append, none, List.append_nil]

theorem pushed_of_exec {now : State × List Nat} (ran : (ordered policy).exec history = some now) :
    Pushed now.1 now.2 := by
  refine invariant (I := fun now => Pushed now.1 now.2) ?_ ?_ ran
  · exact ⟨List.nodup_nil, fun _ => by simp [ordered, annotated, machine, State.latency],
      holds_new (by decide)⟩
  · intro now a next pushed stepped
    obtain ⟨moved, notes⟩ := annotated_step_eq_some.mp stepped
    rw [notes]
    exact pushed.step moved

/-- At every moment of a run the calls that had returned are the first of its order. -/
theorem first_of_exec {now : State × List Nat} (ran : (ordered policy).exec history = some now)
    (pre : List Action) (before : State) (front : pre <+: history)
    (reached : (machine policy).exec pre = some before) :
    ∃ early, early <+: now.2 ∧ Pushed before early := by
  refine run_induction (P := fun history now => ∀ pre before, pre <+: history →
    (machine policy).exec pre = some before → ∃ early, early <+: now.2 ∧ Pushed before early)
    ?_ ?_ ran pre before front reached
  · rintro pre before front reached
    rw [List.prefix_nil.mp front] at reached
    cases reached
    exact ⟨[], List.prefix_rfl, pushed_of_exec (exec_nil (ordered policy))⟩
  · intro as now a next ran earlier stepped pre before front reached
    obtain ⟨moved, notes⟩ := annotated_step_eq_some.mp stepped
    rcases List.prefix_concat_iff.mp front with rfl | front
    · have whole := exec_snoc.mpr ⟨now, ran, stepped⟩
      cases (exec_of_annotated whole).symm.trans reached
      exact ⟨next.2, List.prefix_rfl, pushed_of_exec whole⟩
    · obtain ⟨early, inside, pushed⟩ := earlier pre before front reached
      exact ⟨early, inside.trans (notes ▸ List.prefix_append _ _), pushed⟩

/-- The moment of a run at which a round reads the percentile. -/
structure ReadAt (policy : Option AutoscalePolicy) (history : List Action) (j : Nat)
    (before : State) : Prop where
  moment : ∃ pre post, history = pre ++ .ticking j :: post ∧ (machine policy).exec pre = some before
  reads : before.Reads j

theorem ReadAt.later {before : State} (read : ReadAt policy history j before) (a : Action) :
    ReadAt policy (history ++ [a]) j before := by
  obtain ⟨⟨pre, post, rfl, reached⟩, reads⟩ := read
  exact ⟨⟨pre, post ++ [a], by simp, reached⟩, reads⟩

/-- A round that has sampled has read the percentile of the ring as it was then. -/
theorem read_of_exec (ran : (machine policy).exec history = some s) :
    ∀ j r, s.rounds[j]? = some r → HasSampled r.tick → ∃ sample before, r.sample = some sample ∧
      ReadAt policy history j before ∧ sample.p99 = before.counters.latencyRing.p99Ms := by
  refine run_induction (P := fun history s => ∀ j r, s.rounds[j]? = some r → HasSampled r.tick →
    ∃ sample before, r.sample = some sample ∧ ReadAt policy history j before ∧
      sample.p99 = before.counters.latencyRing.p99Ms) ?_ ?_ ran
  · intro j r found
    simp [machine] at found
  · intro history s a s' ran earlier stepped k q found has
    -- a round that sampled before has read before
    have old : s.rounds[k]? = some q → ∃ sample before, q.sample = some sample ∧
        ReadAt policy (history ++ [a]) k before ∧
          sample.p99 = before.counters.latencyRing.p99Ms := by
      intro found
      obtain ⟨sample, before, held, read, p99⟩ := earlier k q found has
      exact ⟨sample, before, held, read.later a, p99⟩
    cases a with
    | onStart | onEnd latencyUs isError =>
      cases stepped
      exact old found
    | ending i =>
      obtain ⟨_, _, rfl⟩ := Option.map_eq_some_iff.mp stepped
      exact old found
    | tick =>
      cases stepped
      rw [List.getElem?_append] at found
      split at found
      · exact old found
      · rw [List.mem_singleton.mp (List.mem_of_getElem? found)] at has
        exact absurd has id
    | ticking j =>
      obtain ⟨⟨r', c', more⟩, moved, rfl⟩ := Option.map_eq_some_iff.mp stepped
      obtain ⟨r, at_j, next⟩ := Option.bind_eq_some_iff.mp moved
      obtain ⟨ticked, sampled_eq, _⟩ := next_spec next
      obtain ⟨inside, _⟩ := List.getElem?_eq_some_iff.mp at_j
      rcases eq_or_ne j k with rfl | other
      · rw [List.getElem?_set_self inside] at found
        cases found
        rcases p99_next r.sample ticked with ⟨active, rps, eps, at_errors, took⟩ | ⟨same, stays⟩
        · refine ⟨_, s, by rw [sampled_eq, took], ⟨⟨history, [], rfl, ran⟩, ?_⟩, rfl⟩
          exact ⟨active, rps, eps, r.sample, by rw [at_j, ← at_errors]⟩
        · obtain ⟨sample, before, held, read, p99⟩ := earlier j r at_j (stays.mp has)
          exact ⟨sample, before, by rw [sampled_eq, same, held], read.later _, p99⟩
      · rw [List.getElem?_set_ne other] at found
        exact old found

/-- Whatever rounds and calls of `on_end` are in progress, a round raises the signal for
the latency exactly when, of the latest latencies of the calls that had returned as it
read the ring, more are above the policy's threshold than may stand behind the
percentile's position among those that are not zero; with a negative threshold it always
does. -/
theorem latency_signals_iff (p : AutoscalePolicy) (history : List Action) (s : State)
    (ran : (machine (some p)).exec history = some s) :
    ∃ order, InOrder (some p) history order ∧
      ∀ j r, s.rounds[j]? = some r → r.tick = .ended →
        ∃ before, ReadAt (some p) history j before ∧
          ((∃ signal, (j, signal) ∈ s.signals ∧ signal.IsLatency) ↔
            p.latencyP99MsMax.Below 0 ∨
              passed ((latest ringCapacity (before.latencies order)).countP (0 < ·)) <
                (latest ringCapacity (before.latencies order)).countP
                  (p.latencyP99MsMax.Below <| millis ·)) := by
  obtain ⟨order, along⟩ := exec_annotated [] (fun order s a => order ++ (s.returning a).toList) ran
  obtain ⟨_, _, raised⟩ := raised_of_exec ran
  have nodup : order.Nodup := (pushed_of_exec along).nodup
  refine ⟨order, ⟨nodup, fun pre before front reached => ?_⟩, fun j r found ended => ?_⟩
  · obtain ⟨early, inside, pushed⟩ := first_of_exec along pre before front reached
    exact ⟨early, inside, pushed.returned⟩
  · obtain ⟨sample, before, held, read, p99⟩ := read_of_exec ran j r found (by rw [ended]; trivial)
    refine ⟨before, read, ?_⟩
    obtain ⟨pre, post, split, reached⟩ := read.moment
    obtain ⟨early, inside, pushed⟩ :=
      first_of_exec along pre before (split ▸ List.prefix_append _ _) reached
    rw [latencies_of_first nodup inside pushed.returned, ← below_p99Ms_iff pushed.holds.filter,
      ← p99, ← isLatency_iff p sample]
    refine exists_congr fun signal => and_congr_left fun _ => ?_
    rw [raised.signals]
    simp [found, ended, held]

/-- A round that reads between two returns sees the latency of the first. -/
theorem latency_signals_iff_between :
    let p : AutoscalePolicy := {}
    let history : List Action :=
      [.onEnd 900 false, .onEnd 4000000 false, .tick, .ticking 0, .ticking 0, .ticking 0] ++
        List.replicate 4 (.ending 1) ++ [.ticking 0] ++ List.replicate 4 (.ending 0) ++
          List.replicate 4 (.ticking 0)
    ∃ s, (machine (some p)).exec history = some s ∧ (s.rounds.map (·.tick)) = [.ended] ∧
      ∃ order, InOrder (some p) history order ∧
        ∀ j r, s.rounds[j]? = some r → r.tick = .ended →
          ∃ before, ReadAt (some p) history j before ∧
            ((∃ signal, (j, signal) ∈ s.signals ∧ signal.IsLatency) ↔
              p.latencyP99MsMax.Below 0 ∨
                passed ((latest ringCapacity (before.latencies order)).countP (0 < ·)) <
                  (latest ringCapacity (before.latencies order)).countP
                    (p.latencyP99MsMax.Below <| millis ·)) := by
  intro p history
  obtain ⟨s, ran, ended⟩ : ∃ s, (machine (some p)).exec history = some s ∧
      s.rounds.map (·.tick) = [.ended] := ⟨_, rfl, rfl⟩
  exact ⟨s, ran, ended, latency_signals_iff p history s ran⟩

end Autoscale

end EdgeBootstrap
