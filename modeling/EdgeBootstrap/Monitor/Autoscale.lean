import Mathlib.Algebra.Order.BigOperators.Group.Finset
import EdgeBootstrap.Config.RuntimeConfig
import EdgeBootstrap.Library.Families
import EdgeBootstrap.Library.Tallies
import EdgeBootstrap.Monitor.Attribution

/-! `BackgroundSampler::run` with the thresholds of its policy. A round compares what it
has sampled after it has recorded it, so with the rounds and the calls of `on_end` in any
order the scale-out signal for the request rate is about the calls that the round took,
and each call is taken by one round. -/
namespace EdgeBootstrap

/-- A binary64 number that is not a NaN. -/
inductive Toml.F64.Value
  | finite (q : ℚ)
  | infinite (negative : Bool)

/-- What a bit pattern stands for; nothing for the NaN. -/
def Toml.F64.value? (x : Toml.F64) : Option Toml.F64.Value :=
  let negative := 2 ^ 63 ≤ x.bits.toNat
  let exponent : Nat := x.bits.toNat / 2 ^ 52 % 2 ^ 11
  let fraction : Nat := x.bits.toNat % 2 ^ 52
  let sign : ℚ := if negative then -1 else 1
  if exponent = 2047 then if fraction = 0 then some (.infinite negative) else none
  else if exponent = 0 then some (.finite (sign * (fraction * 2 ^ (-1074 : ℤ))))
  else some (.finite (sign * ((2 ^ 52 + fraction) * 2 ^ ((exponent : ℤ) - 1075))))

/-- The number lies above a binary64 threshold; none lies above a NaN. -/
def Toml.F64.Below (threshold : Toml.F64) (q : ℚ) : Prop :=
  match threshold.value? with
  | some (.finite bound) => bound < q
  | some (.infinite negative) => negative = true
  | none => False

instance (threshold : Toml.F64) (q : ℚ) : Decidable (threshold.Below q) := by
  unfold Toml.F64.Below
  split <;> infer_instance

/-- `f64 as u64`: truncated, and held within the range. -/
def Double.asU64 (q : ℚ) : Nat := min ⌊q⌋.toNat (2 ^ 64 - 1)

/-- What a round samples and compares. -/
structure RoundSample where
  active : ℚ
  rps : ℚ
  p99 : ℚ

/-- The warnings of `BackgroundSampler::run`. -/
inductive ScaleOut
  | requestsActive (active : ℚ) (max : UInt64)
  | requestsPerSecond (rps : ℚ) (max : UInt64)
  | latencyP99 (p99 : ℚ) (max : Toml.F64)
  deriving DecidableEq

/-- The comparisons of a round, in order. -/
def AutoscalePolicy.signals (policy : AutoscalePolicy) (sample : RoundSample) : List ScaleOut :=
  (if policy.requestsActiveMax.toNat < Double.asU64 sample.active then
    [.requestsActive sample.active policy.requestsActiveMax] else []) ++
  (if policy.requestsPerSecMax.toNat < Double.asU64 sample.rps then
    [.requestsPerSecond sample.rps policy.requestsPerSecMax] else []) ++
  (if policy.latencyP99MsMax.Below sample.p99 then
    [.latencyP99 sample.p99 policy.latencyP99MsMax] else [])

/-- The signal is about the request rate. -/
def ScaleOut.IsRate : ScaleOut → Prop
  | .requestsPerSecond _ _ => True
  | _ => False

namespace Autoscale
open StepMachine Ticks

/-- A round of the sampler, with what it has sampled. -/
structure Round where
  tick : Tick
  sample : Option RoundSample

/-- What a step of a tick has sampled. -/
def sampled (before : Option RoundSample) : Tick → Option RoundSample
  | .sampled active rps _ p99 => some ⟨active, rps, p99⟩
  | _ => before

/-- The counters, the calls of `on_end`, the rounds, and the signals with the rounds that
raised them. -/
structure State where
  counters : TrafficCounters
  endings : List Ending
  rounds : List Round
  signals : List (Nat × ScaleOut)

/-- The next step of a round. Once the last gauge is recorded it compares. -/
def Round.next (policy : Option AutoscalePolicy) (r : Round) (c : TrafficCounters) :
    Option (Round × TrafficCounters × List ScaleOut) :=
  (r.tick.next c).map fun (tick, counters) =>
    (⟨tick, sampled r.sample tick⟩, counters,
      match tick, policy, r.sample with
      | .ended, some policy, some sample => policy.signals sample
      | _, _, _ => [])

def step (policy : Option AutoscalePolicy) (s : State) : Action → Option State
  | .onStart => some { s with counters := s.counters.onStart }
  | .onEnd latencyUs isError =>
    some { s with endings := s.endings ++ [⟨latencyUs, isError, .called, trivial⟩] }
  | .ending i =>
    (s.endings[i]?.bind (·.next s.counters)).map fun after =>
      { s with counters := after.2, endings := s.endings.set i after.1 }
  | .tick => some { s with rounds := s.rounds ++ [⟨.begun, none⟩] }
  | .ticking j =>
    (s.rounds[j]?.bind (·.next policy s.counters)).map fun (round, counters, raised) =>
      { s with
        counters
        rounds := s.rounds.set j round
        signals := s.signals ++ raised.map fun signal => (j, signal) }

/-- New counters, and no call and no round yet. -/
def machine (policy : Option AutoscalePolicy) : StepMachine State Action where
  init := ⟨.new, [], [], []⟩
  step := step policy

/-- The rounds as ticks. -/
def State.view (s : State) : Ticks.State := ⟨s.counters, s.endings, s.rounds.map (·.tick)⟩

variable {policy : Option AutoscalePolicy} {s s' : State} {a : Action} {r r' : Round} {j : Nat}
  {history : List Action}

/-- Sampling for a policy changes nothing of what a tick does. -/
theorem step_view (stepped : step policy s a = some s') : Ticks.step s.view a = some s'.view := by
  cases a with
  | onStart | onEnd latencyUs isError =>
    cases stepped
    rfl
  | tick =>
    cases stepped
    simp [Ticks.step, State.view]
  | ending i =>
    obtain ⟨after, ran, rfl⟩ := Option.map_eq_some_iff.mp stepped
    exact Option.map_eq_some_iff.mpr ⟨after, ran, rfl⟩
  | ticking j =>
    obtain ⟨⟨round, counters, raised⟩, ran, rfl⟩ := Option.map_eq_some_iff.mp stepped
    obtain ⟨r, found, next⟩ := Option.bind_eq_some_iff.mp ran
    obtain ⟨⟨tick, c⟩, moved, same⟩ := Option.map_eq_some_iff.mp next
    cases same
    simp [Ticks.step, State.view, found, moved, List.map_set]

theorem view_of_exec (ran : (machine policy).exec history = some s) :
    Ticks.machine.exec history = some s.view :=
  exec_of_simulation State.view rfl (fun _ _ _ stepped => step_view stepped) ran

/-- An account puts each call that the atomic has counted in one place: the call waits, or
one tick took it. -/
structure Apart (kind : Kind) (s : Ticks.State) (b : Account) : Prop where
  counted : ∀ i e, s.endings[i]? = some e →
    (kind.incremented e = true ↔ i ∈ b.waiting ∨ ∃ j, i ∈ b.taken j)
  waiting : ∀ i ∈ b.waiting, ∀ j, i ∉ b.taken j
  disjoint : ∀ i j k, i ∈ b.taken j → i ∈ b.taken k → j = k
  took : ∀ j, ∀ i ∈ b.taken j, ∃ t, s.ticks[j]? = some t ∧ kind.stage t ≠ .pending

section Apart
variable {kind : Kind} {m m' : Ticks.State} {b : Account} {i : Nat} {e e' : Ending} {t t' : Tick}
  {c' : TrafficCounters}

/-- A call that increments the atomic is in no place yet. -/
theorem Apart.fresh (apart : Apart kind m b) (found : m.endings[i]? = some e)
    (before : kind.incremented e = false) : i ∉ b.waiting ∧ ∀ j, i ∉ b.taken j := by
  have nowhere := (apart.counted i e found).not.mp (by simp [before])
  rw [not_or, not_exists] at nowhere
  exact nowhere

theorem Apart.ending (apart : Apart kind m b) (found : m.endings[i]? = some e)
    (stepped : e.next m.counters = some (e', c')) :
    Apart kind { m with counters := c', endings := m.endings.set i e' }
      (b.note kind m (.ending i)) := by
  obtain ⟨after, once⟩ := Ending.incremented_next kind stepped
  have inside := (List.getElem?_eq_some_iff.mp found).1
  simp only [Account.note, found, Option.any_some]
  cases increments : kind.increments e with
  | false =>
    rw [increments, Bool.or_false] at after
    simp only [Bool.false_eq_true, if_false]
    refine ⟨fun k d at_k => ?_, apart.waiting, apart.disjoint, apart.took⟩
    rcases eq_or_ne i k with rfl | other
    · rw [List.getElem?_set_self inside] at at_k
      cases at_k
      rw [after]
      exact apart.counted i e found
    · rw [List.getElem?_set_ne other] at at_k
      exact apart.counted k d at_k
  | true =>
    obtain ⟨new, untaken⟩ := apart.fresh found (once increments)
    simp only [if_true]
    refine ⟨fun k d at_k => ?_, fun k member j => ?_, apart.disjoint, apart.took⟩
    · rcases eq_or_ne i k with rfl | other
      · rw [List.getElem?_set_self inside] at at_k
        cases at_k
        simp [after, increments]
      · rw [List.getElem?_set_ne other] at at_k
        rw [apart.counted k d at_k, Finset.mem_insert]
        simp [Ne.symm other]
    · rcases Finset.mem_insert.mp member with rfl | earlier
      · exact untaken j
      · exact apart.waiting k earlier j

theorem Apart.ticking (apart : Apart kind m b) (found : m.ticks[j]? = some t)
    (stepped : t.next m.counters = some (t', c')) :
    Apart kind { m with counters := c', ticks := m.ticks.set j t' } (b.note kind m (.ticking j)) := by
  have inside := (List.getElem?_eq_some_iff.mp found).1
  have did := Tick.deed_next kind stepped
  -- what a tick took stays with it: it never comes back to its swap
  have still (kept : kind.stage t ≠ .pending → kind.stage t' ≠ .pending) : ∀ k, ∀ i ∈ b.taken k,
      ∃ u, (m.ticks.set j t')[k]? = some u ∧ kind.stage u ≠ .pending := by
    intro k i took
    obtain ⟨u, at_k, past⟩ := apart.took k i took
    rcases eq_or_ne j k with rfl | other
    · cases found.symm.trans at_k
      exact ⟨t', List.getElem?_set_self inside, kept past⟩
    · exact ⟨u, by rw [List.getElem?_set_ne other, at_k], past⟩
  simp only [Account.note, found, Option.map_some, Option.elim_some]
  cases deed : kind.deed t with
  | other =>
    rw [deed] at did
    exact ⟨apart.counted, apart.waiting, apart.disjoint, still fun past => did.2 ▸ past⟩
  | records value =>
    rw [deed] at did
    exact ⟨apart.counted, apart.waiting, apart.disjoint, still fun _ => by simp [did.2.2]⟩
  | takes =>
    rw [deed] at did
    obtain ⟨pending, _, holding⟩ := did
    have nothing : ∀ i, i ∉ b.taken j := by
      intro i took
      obtain ⟨u, at_j, past⟩ := apart.took j i took
      cases found.symm.trans at_j
      exact past pending
    have taken : ∀ k i, i ∈ (b.enter j .takes).taken k ↔ (k = j ∧ i ∈ b.waiting) ∨ i ∈ b.taken k := by
      intro k i
      rcases eq_or_ne k j with rfl | other
      · simp [nothing i]
      · simp [Account.taken_enter_of_ne other, other]
    constructor
    · intro i d at_i
      have emptied : i ∉ (b.enter j .takes).waiting := Finset.notMem_empty i
      rw [apart.counted i d at_i]
      simp [emptied, taken, exists_or]
    · intro i member
      exact absurd member (Finset.notMem_empty i)
    · intro i k l first second
      rw [taken] at first second
      rcases first with ⟨rfl, waits⟩ | first
      · rcases second with ⟨rfl, _⟩ | second
        · rfl
        · exact absurd second (apart.waiting i waits l)
      · rcases second with ⟨rfl, waits⟩ | second
        · exact absurd first (apart.waiting i waits k)
        · exact apart.disjoint i k l first second
    · intro k i took
      rcases (taken k i).mp took with ⟨rfl, _⟩ | earlier
      · exact ⟨t', List.getElem?_set_self inside, by simp [holding]⟩
      · exact still (fun _ => by simp [holding]) k i earlier

theorem Apart.step (apart : Apart kind m b) (sound : b.Sound kind m)
    (stepped : Ticks.step m a = some m') : Apart kind m' (b.note kind m a) := by
  cases a with
  | onStart =>
    cases stepped
    exact ⟨apart.counted, apart.waiting, apart.disjoint, apart.took⟩
  | onEnd latencyUs isError =>
    cases stepped
    refine ⟨fun i e found => ?_, apart.waiting, apart.disjoint, apart.took⟩
    rw [List.getElem?_append] at found
    split at found
    · exact apart.counted i e found
    · rename_i outside
      -- the new call has counted nothing, and no account names it
      have idle : kind.incremented e = false := by
        rw [List.mem_singleton.mp (List.mem_of_getElem? found)]
        cases kind <;> simp [Kind.incremented]
      simp only [idle, Bool.false_eq_true, false_iff, not_or, not_exists]
      exact ⟨fun waits => outside (sound.waiting_lt waits), fun j took => outside (sound.taken j i took)⟩
  | tick =>
    cases stepped
    refine ⟨apart.counted, apart.waiting, apart.disjoint, fun j i took => ?_⟩
    obtain ⟨t, found, past⟩ := apart.took j i took
    obtain ⟨inside, _⟩ := List.getElem?_eq_some_iff.mp found
    exact ⟨t, by rw [List.getElem?_append_left inside, found], past⟩
  | ending i =>
    obtain ⟨⟨e', c'⟩, ran, rfl⟩ := Option.map_eq_some_iff.mp stepped
    obtain ⟨e, found, next⟩ := Option.bind_eq_some_iff.mp ran
    exact apart.ending found next
  | ticking j =>
    obtain ⟨⟨t', c'⟩, ran, rfl⟩ := Option.map_eq_some_iff.mp stepped
    obtain ⟨t, found, next⟩ := Option.bind_eq_some_iff.mp ran
    exact apart.ticking found next

theorem apart_of_exec {now : Ticks.State × Accounts} (kind : Kind)
    (ran : attributed.exec history = some now) : Apart kind now.1 (now.2 kind) := by
  refine run_induction (P := fun _ now => Apart kind now.1 (now.2 kind)) ?_ ?_ ran
  · constructor <;> simp [attributed, annotated, Ticks.machine, Account.empty]
  · intro _ now a now' reached apart stepped
    obtain ⟨moved, notes⟩ := annotated_step_eq_some.mp stepped
    rw [notes]
    exact apart.step (sound kind reached) moved

end Apart

/-- The tick has sampled all that its round compares. -/
def HasSampled : Tick → Prop
  | .begun | .loaded _ | .requestsTaken _ _ | .errorsTaken _ _ _ => False
  | _ => True

/-- A step of a round, told by its tick. -/
theorem next_spec {c c' : TrafficCounters} {raised : List ScaleOut}
    (stepped : r.next policy c = some (r', c', raised)) :
    r.tick.next c = some (r'.tick, c') ∧ r'.sample = sampled r.sample r'.tick ∧
      ∀ signal, signal ∈ raised ↔
        r'.tick = .ended ∧ ∃ p sample, policy = some p ∧ r.sample = some sample ∧ signal ∈ p.signals sample := by
  obtain ⟨⟨tick, counters⟩, moved, same⟩ := Option.map_eq_some_iff.mp stepped
  cases same
  refine ⟨moved, rfl, fun signal => ?_⟩
  split
  · rename_i p sample held
    simp [held]
  · rename_i unmatched
    simp only [List.not_mem_nil, false_iff]
    rintro ⟨ended, p, sample, rfl, held, _⟩
    exact unmatched p sample ended rfl held

/-- What a round that goes on has sampled. -/
theorem sampled_next {c c' : TrafficCounters} {t t' : Tick} (before : Option RoundSample)
    (stepped : t.next c = some (t', c')) :
    (∃ active rps eps, t = .errorsTaken active rps eps ∧
        ∃ p99, sampled before t' = some ⟨active, rps, p99⟩ ∧ HasSampled t') ∨
      sampled before t' = before ∧ (HasSampled t' ↔ HasSampled t) := by
  cases t with
  | ended => cases stepped
  | errorsTaken active rps eps =>
    cases stepped
    exact .inl ⟨active, rps, eps, rfl, _, rfl, trivial⟩
  | begun | loaded _ | requestsTaken _ _ | sampled _ _ _ _ | activeRecorded _ _ _
  | requestsRecorded _ _ | errorsRecorded _ =>
    cases stepped
    exact .inr ⟨rfl, Iff.rfl⟩

/-- The rate of a tick that is past its swap stays what it is. -/
theorem rate_note {kind : Kind} {m : Ticks.State} {b : Account}
    (past : ∀ t, m.ticks[j]? = some t → kind.stage t ≠ .pending)
    {m' : Ticks.State} (stepped : Ticks.step m a = some m') : (b.note kind m a).rate j = b.rate j := by
  have same : (b.note kind m a).taken j = b.taken j := by
    cases a with
    | onStart | onEnd latencyUs isError | tick => rfl
    | ending i =>
      simp only [Account.note]
      split <;> rfl
    | ticking k =>
      obtain ⟨⟨t', c'⟩, ran, _⟩ := Option.map_eq_some_iff.mp stepped
      obtain ⟨t, found, next⟩ := Option.bind_eq_some_iff.mp ran
      simp only [Account.note, found, Option.map_some, Option.elim_some]
      rcases eq_or_ne j k with rfl | other
      · have did := Tick.deed_next kind next
        cases deed : kind.deed t with
        | takes =>
          rw [deed] at did
          exact absurd did.1 (past t found)
        | records value | other => rfl
      · exact Account.taken_enter_of_ne other _
  rw [Account.rate, Account.rate, same]

/-- What the signals are about: the rates of the rounds' own calls. -/
structure Raised (policy : Option AutoscalePolicy) (s : State) (b : Account) : Prop where
  samples : ∀ j r, s.rounds[j]? = some r → HasSampled r.tick →
    ∃ sample, r.sample = some sample ∧ sample.rps = b.rate j
  signals : ∀ j signal, (j, signal) ∈ s.signals ↔ ∃ r, s.rounds[j]? = some r ∧ r.tick = .ended ∧
    ∃ p sample, policy = some p ∧ r.sample = some sample ∧ signal ∈ p.signals sample

/-- A tick that has sampled is past its swaps. -/
theorem HasSampled.past {t : Tick} (has : HasSampled t) (kind : Kind) : kind.stage t ≠ .pending := by
  cases t with
  | begun | loaded _ | requestsTaken _ _ | errorsTaken _ _ _ => exact absurd has id
  | sampled _ _ _ _ | activeRecorded _ _ _ | requestsRecorded _ _ | errorsRecorded _ | ended =>
    cases kind <;> simp [Kind.stage]

theorem Raised.step {accounts : Accounts} (raised : Raised policy s (accounts .requests))
    (right : (accounts .requests).Sound .requests s.view) (stepped : step policy s a = some s') :
    Raised policy s' ((accounts .requests).note .requests s.view a) := by
  -- the rate that a round has sampled is the rate of its calls for good
  have kept {k : Nat} {q : Round} (found : s.rounds[k]? = some q)
      (past : Kind.requests.stage q.tick ≠ .pending) :
      ((accounts .requests).note .requests s.view a).rate k = (accounts .requests).rate k := by
    refine rate_note (fun t at_k => ?_) (step_view stepped)
    have same : s.view.ticks[k]? = some q.tick := by simp [State.view, found]
    cases same.symm.trans at_k
    exact past
  have samples : ∀ k q, s.rounds[k]? = some q → HasSampled q.tick → ∃ sample,
      q.sample = some sample ∧
        sample.rps = ((accounts .requests).note .requests s.view a).rate k := by
    intro k q found has
    obtain ⟨sample, held, rps⟩ := raised.samples k q found has
    exact ⟨sample, held, by rw [rps, kept found (has.past _)]⟩
  cases a with
  | onStart | onEnd latencyUs isError =>
    cases stepped
    exact ⟨samples, raised.signals⟩
  | ending i =>
    obtain ⟨_, _, rfl⟩ := Option.map_eq_some_iff.mp stepped
    exact ⟨samples, raised.signals⟩
  | tick =>
    cases stepped
    constructor
    · intro k q found has
      rw [List.getElem?_append] at found
      split at found
      · exact samples k q found has
      · rw [List.mem_singleton.mp (List.mem_of_getElem? found)] at has
        exact absurd has id
    · intro k signal
      rw [raised.signals]
      constructor
      · rintro ⟨q, found, ended⟩
        obtain ⟨inside, _⟩ := List.getElem?_eq_some_iff.mp found
        exact ⟨q, by rw [List.getElem?_append_left inside, found], ended⟩
      · rintro ⟨q, found, ended, rest⟩
        rw [List.getElem?_append] at found
        split at found
        · exact ⟨q, found, ended, rest⟩
        · rw [List.mem_singleton.mp (List.mem_of_getElem? found)] at ended
          cases ended
  | ticking j =>
    obtain ⟨⟨r', c', more⟩, ran, rfl⟩ := Option.map_eq_some_iff.mp stepped
    obtain ⟨r, found, next⟩ := Option.bind_eq_some_iff.mp ran
    obtain ⟨moved, sampled_eq, raises⟩ := next_spec next
    obtain ⟨inside, _⟩ := List.getElem?_eq_some_iff.mp found
    have unended : r.tick ≠ .ended := by
      intro ended
      rw [ended] at moved
      cases moved
    constructor
    · intro k q at_k has
      rcases eq_or_ne j k with rfl | other
      · rw [List.getElem?_set_self inside] at at_k
        cases at_k
        rcases sampled_next r.sample moved with
          ⟨active, rps, eps, at_errors, p99, took, _⟩ | ⟨same, stays⟩
        · refine ⟨⟨active, rps, p99⟩, by rw [sampled_eq, took], ?_⟩
          have holding : s.view.stage .requests j = some (.holding rps) := by
            simp [Ticks.State.stage, State.view, found, at_errors, Kind.stage]
          rw [kept found (by simp [at_errors, Kind.stage])]
          exact right.held j rps holding
        · obtain ⟨sample, held, rps⟩ := samples j r found (stays.mp has)
          exact ⟨sample, by rw [sampled_eq, same, held], rps⟩
      · rw [List.getElem?_set_ne other] at at_k
        exact samples k q at_k has
    · intro k signal
      rw [List.mem_append, raised.signals]
      rcases eq_or_ne j k with rfl | other
      · have own : (j, signal) ∈ more.map (fun signal => (j, signal)) ↔ signal ∈ more := by simp
        rw [List.getElem?_set_self inside, own, raises]
        constructor
        · rintro (⟨q, at_j, ended, _⟩ | ⟨ended, p, sample, set, held, member⟩)
          · cases found.symm.trans at_j
            exact absurd ended unended
          · exact ⟨r', rfl, ended, p, sample, set, by rw [sampled_eq, ended]; exact held, member⟩
        · rintro ⟨q, same, ended, p, sample, set, held, member⟩
          cases same
          rw [sampled_eq, ended] at held
          exact .inr ⟨ended, p, sample, set, held, member⟩
      · have foreign : (k, signal) ∉ more.map (fun signal => (j, signal)) := by simp [other]
        rw [List.getElem?_set_ne other, or_iff_left foreign]

/-- Every run can be attributed, and its signals are about the rates that gives. -/
theorem raised_of_exec (ran : (machine policy).exec history = some s) :
    ∃ accounts, attributed.exec history = some (s.view, accounts) ∧
      Raised policy s (accounts .requests) := by
  refine run_induction (P := fun history s => ∃ accounts, attributed.exec history =
    some (s.view, accounts) ∧ Raised policy s (accounts .requests)) ?_ ?_ ran
  · refine ⟨fun _ => .empty, rfl, ?_, ?_⟩
    · intro j r found
      simp [machine] at found
    · simp [machine]
  · rintro history s a s' _ ⟨accounts, attributes, raised⟩ stepped
    refine ⟨fun kind => (accounts kind).note kind s.view a, ?_, ?_⟩
    · exact exec_snoc.mpr ⟨_, attributes, annotated_step_eq_some.mpr ⟨step_view stepped, rfl⟩⟩
    · exact raised.step (sound .requests attributes) stepped

/-- A rate signal is among the signals of a sample exactly when the rate is above its
threshold. -/
theorem isRate_iff (p : AutoscalePolicy) (sample : RoundSample) :
    (∃ signal ∈ p.signals sample, signal.IsRate) ↔
      p.requestsPerSecMax.toNat < Double.asU64 sample.rps := by
  unfold AutoscalePolicy.signals
  by_cases active : p.requestsActiveMax.toNat < Double.asU64 sample.active <;>
    by_cases rate : p.requestsPerSecMax.toNat < Double.asU64 sample.rps <;>
    by_cases latency : p.latencyP99MsMax.Below sample.p99 <;>
    simp [active, rate, latency, ScaleOut.IsRate]

/-- A count is a `u64` as it is. -/
theorem asU64_natCast {n : Nat} (small : n < 2 ^ 53) : Double.asU64 n = n := by
  rw [Double.asU64, Int.floor_natCast, Int.toNat_natCast]
  omega

/-- Whatever rounds and calls of `on_end` are in progress, every call that was counted is
in one place, waiting or taken by one round, and a round raises the signal for the request
rate exactly when it took more calls than the policy allows. So as long as no round has
raised it, no more calls were counted than the rounds may take and the next will find. -/
theorem rate_signals_iff (p : AutoscalePolicy) (history : List Action) (s : State)
    (ran : (machine (some p)).exec history = some s) (few : s.endings.length < 2 ^ 53) :
    ∃ accounts, attributed.exec history = some (s.view, accounts) ∧
      Apart .requests s.view (accounts .requests) ∧
      (∀ j r, s.rounds[j]? = some r → r.tick = .ended →
        ((∃ signal, (j, signal) ∈ s.signals ∧ signal.IsRate) ↔
          p.requestsPerSecMax.toNat < ((accounts .requests).taken j).card)) ∧
      ((∀ r ∈ s.rounds, r.tick = .ended) → (∀ j signal, (j, signal) ∈ s.signals → ¬ signal.IsRate) →
        s.endings.countP Kind.requests.incremented ≤
          s.rounds.length * p.requestsPerSecMax.toNat + s.counters.requestsSinceTick.toNat) := by
  obtain ⟨accounts, attributes, raised⟩ := raised_of_exec ran
  have apart := apart_of_exec .requests attributes
  have right := sound .requests attributes
  let b := accounts .requests
  have exact : ∀ j r, s.rounds[j]? = some r → r.tick = .ended →
      ((∃ signal, (j, signal) ∈ s.signals ∧ signal.IsRate) ↔
        p.requestsPerSecMax.toNat < (b.taken j).card) := by
    intro j r found ended
    obtain ⟨sample, held, rps⟩ := raised.samples j r found (by rw [ended]; trivial)
    have small : (b.taken j).card < 2 ^ 53 := (card_taken_le right j).trans_lt few
    have rate : sample.rps = (b.taken j).card := by
      rw [rps, Account.rate, Nat.mod_eq_of_lt (small.trans (by norm_num)), Double.nearest_natCast small]
    rw [← asU64_natCast small, ← rate, ← isRate_iff p sample]
    refine exists_congr fun signal => and_congr_left fun _ => ?_
    rw [raised.signals]
    simp [found, ended, held]
  refine ⟨accounts, attributes, apart, exact, fun ended silent => ?_⟩
  have allowed : ∀ j ∈ Finset.range s.rounds.length, (b.taken j).card ≤ p.requestsPerSecMax.toNat := by
    intro j inside
    have found := List.getElem?_eq_getElem (Finset.mem_range.mp inside)
    rw [← not_lt, ← exact j _ found (ended _ (List.getElem_mem _))]
    rintro ⟨signal, member, rate⟩
    exact silent j signal member rate
  have places : (Finset.range s.endings.length).filter
      (fun i => s.endings[i]?.any Kind.requests.incremented) ⊆
        b.waiting ∪ (Finset.range s.rounds.length).biUnion b.taken := by
    intro i member
    obtain ⟨inside, counted⟩ := Finset.mem_filter.mp member
    have found := List.getElem?_eq_getElem (Finset.mem_range.mp inside)
    rw [found, Option.any_some, apart.counted i _ found] at counted
    rw [Finset.mem_union, Finset.mem_biUnion]
    rcases counted with waits | ⟨j, took⟩
    · exact .inl waits
    · obtain ⟨t, at_j, _⟩ := apart.took j i took
      obtain ⟨inside, _⟩ := List.getElem?_eq_some_iff.mp at_j
      exact .inr ⟨j, by simpa [State.view] using inside, took⟩
  have waits : s.counters.requestsSinceTick.toNat = b.waiting.card := by
    have inside : b.waiting ⊆ Finset.range s.endings.length :=
      fun i member => Finset.mem_range.mpr (right.waiting_lt member)
    have fits := Finset.card_le_card inside
    rw [Finset.card_range] at fits
    have counted : s.counters.requestsSinceTick.toNat = b.waiting.card % 2 ^ 64 := right.counted
    rw [counted, Nat.mod_eq_of_lt ((fits.trans_lt few).trans (by norm_num))]
  calc s.endings.countP Kind.requests.incremented
      = _ := (List.card_filter_range s.endings Kind.requests.incremented).symm
    _ ≤ (b.waiting ∪ (Finset.range s.rounds.length).biUnion b.taken).card := Finset.card_le_card places
    _ ≤ b.waiting.card + ((Finset.range s.rounds.length).biUnion b.taken).card := Finset.card_union_le ..
    _ ≤ b.waiting.card + s.rounds.length * p.requestsPerSecMax.toNat := by
        have taken := Finset.card_biUnion_le_card_mul _ _ _ allowed
        rw [Finset.card_range] at taken
        omega
    _ = _ := by rw [waits, Nat.add_comm]

/-- A round that takes a call where none is allowed. -/
theorem rate_signals_iff_none_allowed :
    let p : AutoscalePolicy := { requestsPerSecMax := 0 }
    let history : List Action :=
      [.onEnd 900 false, .tick, .ending 0, .ending 0] ++ List.replicate 8 (.ticking 0)
    ∃ s, (machine (some p)).exec history = some s ∧ s.endings.length < 2 ^ 53 ∧
      ∃ accounts, attributed.exec history = some (s.view, accounts) ∧
        Apart .requests s.view (accounts .requests) ∧
        (∀ j r, s.rounds[j]? = some r → r.tick = .ended →
          ((∃ signal, (j, signal) ∈ s.signals ∧ signal.IsRate) ↔
            p.requestsPerSecMax.toNat < ((accounts .requests).taken j).card)) ∧
        ((∀ r ∈ s.rounds, r.tick = .ended) →
          (∀ j signal, (j, signal) ∈ s.signals → ¬ signal.IsRate) →
          s.endings.countP Kind.requests.incremented ≤
            s.rounds.length * p.requestsPerSecMax.toNat + s.counters.requestsSinceTick.toNat) := by
  intro p history
  obtain ⟨s, ran, one⟩ : ∃ s, (machine (some p)).exec history = some s ∧ s.endings.length = 1 :=
    ⟨_, rfl, rfl⟩
  have few : s.endings.length < 2 ^ 53 := by
    rw [one]
    norm_num
  exact ⟨s, ran, few, rate_signals_iff p history s ran few⟩

end Autoscale

end EdgeBootstrap
