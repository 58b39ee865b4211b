import EdgeBootstrap.Monitor.Ticks
import Mathlib.Data.Finset.Card
import Mathlib.Tactic.IntervalCases

/-! Which tick takes which call. A call of `on_end` is counted by two atomics and
a tick takes them one after the other, so the tick that takes a call's error need
not be the one that took its request. An account of each atomic is kept along the
run: the calls it counts, the calls each tick took from it, and the rate each
tick recorded. The values in the code are the sizes of these sets. -/
namespace EdgeBootstrap.Ticks
open StepMachine

/-- How far a tick has come with one of the two atomics. -/
inductive Stage
  | pending
  | holding (value : Rat)
  | recorded
  deriving DecidableEq, Repr

/-- What the next step of a tick does with an atomic's count. -/
inductive Deed
  | takes
  | records (value : Rat)
  | other
  deriving DecidableEq, Repr

namespace Kind

/-- The call's next update is its increment of the atomic. -/
def increments : Kind → Ending → Bool
  | .requests, e => e.phase = .left
  | .errors, e => e.isError ∧ e.phase = .totalled

def stage : Kind → Tick → Stage
  | .requests, .begun | .requests, .loaded _ => .pending
  | .requests, .requestsTaken _ rps | .requests, .errorsTaken _ rps _
  | .requests, .sampled _ rps _ _ | .requests, .activeRecorded rps _ _ => .holding rps
  | .errors, .begun | .errors, .loaded _ | .errors, .requestsTaken _ _ => .pending
  | .errors, .errorsTaken _ _ eps | .errors, .sampled _ _ eps _
  | .errors, .activeRecorded _ eps _ | .errors, .requestsRecorded eps _ => .holding eps
  | _, _ => .recorded

def deed : Kind → Tick → Deed
  | .requests, .loaded _ | .errors, .requestsTaken _ _ => .takes
  | .requests, .activeRecorded rps _ _ => .records rps
  | .errors, .requestsRecorded eps _ => .records eps
  | _, _ => .other

end Kind

/-- How far the tick at a position has come, if there is one. -/
def State.stage (s : State) (kind : Kind) (j : Nat) : Option Stage := s.ticks[j]?.map kind.stage

/-- The account of one atomic, by the positions of calls and of ticks. -/
structure Account where
  /-- The calls the atomic counts now. -/
  waiting : Finset Nat
  /-- The calls a tick took. -/
  taken : Nat → Finset Nat
  /-- The rate a tick recorded. -/
  recorded : Nat → Option Rat

namespace Account

def empty : Account := ⟨∅, fun _ => ∅, fun _ => none⟩

/-- A tick's step is entered. -/
def enter (b : Account) (j : Nat) : Deed → Account
  | .takes => { b with waiting := ∅, taken := Function.update b.taken j b.waiting }
  | .records value => { b with recorded := Function.update b.recorded j (some value) }
  | .other => b

/-- An action is entered, in the state it is taken in. -/
def note (kind : Kind) (b : Account) (s : State) : Action → Account
  | .ending i =>
    if s.endings[i]?.any kind.increments then { b with waiting := insert i b.waiting } else b
  | .ticking j => (s.ticks[j]?.map kind.deed).elim b (b.enter j)
  | .onStart | .onEnd _ _ | .tick => b

/-- What the swap of a tick comes to in the atomic's width, as a double. -/
def rate (b : Account) (j : Nat) : Rat := Double.nearest ((b.taken j).card % 2 ^ 64 : Nat)

end Account

/-- The two accounts. -/
abbrev Accounts := Kind → Account

/-- The calls and ticks, with both accounts kept. -/
def attributed : StepMachine (State × Accounts) Action :=
  machine.annotated (fun _ => .empty) fun accounts s a kind => (accounts kind).note kind s a

variable {s s' : State} {b : Account} {kind : Kind} {a : Action} {i j : Nat}
  {c c' : TrafficCounters} {e e' : Ending} {t t' : Tick} {value : Rat}

/-- A call increments an atomic with one update, and at most once. -/
theorem Ending.incremented_next (kind : Kind) (stepped : e.next c = some (e', c')) :
    kind.incremented e' = (kind.incremented e || kind.increments e) ∧
      (kind.increments e = true → kind.incremented e = false) := by
  obtain ⟨latencyUs, isError, phase, fits⟩ := e
  cases phase with
  | returned => cases stepped
  | called | left | counted =>
    cases stepped
    cases kind <;> simp [Kind.incremented, Kind.increments]
  | failed =>
    cases fits
    cases stepped
    cases kind <;> simp [Kind.incremented, Kind.increments]
  | totalled | failureTotalled =>
    cases isError <;> cases fits <;> cases stepped <;> cases kind <;>
      simp [Kind.incremented, Kind.increments]

/-- The atomic counts one more when a call increments it. -/
theorem Ending.sinceTick_next (kind : Kind) (stepped : e.next c = some (e', c')) :
    kind.sinceTick c' = if kind.increments e then kind.sinceTick c + 1 else kind.sinceTick c := by
  obtain ⟨after, once⟩ := Ending.incremented_next kind stepped
  rcases (Ending.moves kind stepped).sinceTick with ⟨same, kept⟩ | ⟨more, before, now⟩
  · cases increments : kind.increments e with
    | false => simpa using same
    | true =>
      rw [kept, once increments, increments] at after
      cases after
  · rw [before, now, Bool.false_or] at after
    simpa [← after] using more

/-- What a step of a tick does with a kind's count: it takes the atomic, records
what it took, or leaves both alone. -/
theorem Tick.deed_next (kind : Kind) (stepped : t.next c = some (t', c')) :
    match kind.deed t with
    | .takes => kind.stage t = .pending ∧ kind.sinceTick c' = 0 ∧
        kind.stage t' = .holding (Double.nearest (kind.sinceTick c).toNat)
    | .records value => kind.stage t = .holding value ∧ c' = recordGauge c kind.gauge value ∧
        kind.stage t' = .recorded
    | .other => kind.sinceTick c' = kind.sinceTick c ∧ kind.stage t' = kind.stage t := by
  cases t with
  | ended => cases stepped
  | begun | loaded _ | requestsTaken _ _ | errorsTaken _ _ _ =>
    cases stepped
    cases kind <;> simp [Kind.deed, Kind.stage, Kind.sinceTick]
  | sampled _ _ _ _ | activeRecorded _ _ _ | requestsRecorded _ _ | errorsRecorded _ =>
    cases stepped
    cases kind <;> simp [Kind.deed, Kind.stage, Kind.gauge]

namespace Account

@[simp] theorem taken_enter_takes : (b.enter j .takes).taken j = b.waiting :=
  Function.update_self ..

@[simp] theorem recorded_enter_records : (b.enter j (.records value)).recorded j = some value :=
  Function.update_self ..

theorem taken_enter_of_ne (other : i ≠ j) (deed : Deed) : (b.enter j deed).taken i = b.taken i := by
  cases deed with
  | takes => exact Function.update_of_ne other ..
  | records _ | other => rfl

theorem recorded_enter_of_ne (other : i ≠ j) (deed : Deed) :
    (b.enter j deed).recorded i = b.recorded i := by
  cases deed with
  | records _ => exact Function.update_of_ne other ..
  | takes | other => rfl

/-- The account is right about the code: its sets have the sizes of the values
the code holds. -/
structure Sound (kind : Kind) (s : State) (b : Account) : Prop where
  counted : (kind.sinceTick s.counters).toNat = b.waiting.card % 2 ^ 64
  waiting : ∀ i ∈ b.waiting, ∃ e, s.endings[i]? = some e ∧ kind.incremented e = true
  taken : ∀ j, ∀ i ∈ b.taken j, i < s.endings.length
  held : ∀ j value, s.stage kind j = some (.holding value) → value = b.rate j
  recorded : ∀ j value, b.recorded j = some value ↔
    s.stage kind j = some .recorded ∧ value = b.rate j

/-- A call the atomic counts is one of the calls. -/
theorem Sound.waiting_lt (sound : b.Sound kind s) (counted : i ∈ b.waiting) :
    i < s.endings.length := by
  obtain ⟨e, found, _⟩ := sound.waiting i counted
  exact (List.getElem?_eq_some_iff.mp found).1

/-- More calls and ticks that have not done anything leave an account right. -/
theorem Sound.of_idle {calls : List Ending} {ticks : List Tick} (sound : b.Sound kind s)
    (counters : kind.sinceTick s'.counters = kind.sinceTick s.counters)
    (endings : s'.endings = s.endings ++ calls) (begun : s'.ticks = s.ticks ++ ticks)
    (pending : ∀ t ∈ ticks, kind.stage t = .pending) : b.Sound kind s' := by
  have stages : ∀ k stage, stage ≠ .pending → (s'.stage kind k = some stage ↔
      s.stage kind k = some stage) := by
    intro k stage past
    rw [State.stage, State.stage, begun, List.getElem?_append]
    split
    · rfl
    · rename_i outside
      rw [List.getElem?_eq_none (not_lt.mp outside)]
      constructor
      · intro there
        obtain ⟨t, found, rfl⟩ := Option.map_eq_some_iff.mp there
        exact absurd (pending t (List.mem_of_getElem? found)) past
      · rintro ⟨⟩
  constructor
  · rw [counters, sound.counted]
  · intro i counted
    obtain ⟨e, found, incremented⟩ := sound.waiting i counted
    refine ⟨e, ?_, incremented⟩
    rw [endings, List.getElem?_append_left (sound.waiting_lt counted), found]
  · intro j i took
    have inside := sound.taken j i took
    rw [endings, List.length_append]
    omega
  · intro j value holding
    exact sound.held j value ((stages j _ (by simp)).mp holding)
  · intro j value
    rw [sound.recorded, stages j _ (by simp)]

/-- An update of a call is entered. -/
theorem Sound.ending (sound : b.Sound kind s) (found : s.endings[i]? = some e)
    (stepped : e.next s.counters = some (e', c')) :
    (b.note kind s (.ending i)).Sound kind
      { s with counters := c', endings := s.endings.set i e' } := by
  obtain ⟨after, once⟩ := Ending.incremented_next kind stepped
  have atomic := Ending.sinceTick_next kind stepped
  have inside := (List.getElem?_eq_some_iff.mp found).1
  -- a call that the atomic counts stays a call that incremented it
  have still : ∀ k ∈ b.waiting, ∃ e, (s.endings.set i e')[k]? = some e ∧ kind.incremented e = true := by
    intro k counted
    obtain ⟨earlier, at_k, incremented⟩ := sound.waiting k counted
    rcases eq_or_ne i k with rfl | other
    · cases found.symm.trans at_k
      exact ⟨e', List.getElem?_set_self inside, by rw [after, incremented, Bool.true_or]⟩
    · exact ⟨earlier, by rw [List.getElem?_set_ne other, at_k], incremented⟩
  simp only [note, found, Option.any_some]
  cases increments : kind.increments e with
  | false =>
    simp only [increments, Bool.false_eq_true, if_false] at atomic ⊢
    refine ⟨?_, still, ?_, sound.held, sound.recorded⟩
    · rw [atomic, sound.counted]
    · simpa using sound.taken
  | true =>
    have fresh : i ∉ b.waiting := by
      intro counted
      obtain ⟨earlier, at_i, incremented⟩ := sound.waiting i counted
      cases found.symm.trans at_i
      rw [once increments] at incremented
      cases incremented
    simp only [increments, if_true] at atomic ⊢
    refine ⟨?_, ?_, ?_, sound.held, sound.recorded⟩
    · rw [atomic, UInt64.toNat_add, UInt64.toNat_one, sound.counted, Finset.card_insert_of_notMem fresh,
        Nat.mod_add_mod]
    · intro k counted
      rcases Finset.mem_insert.mp counted with rfl | earlier
      · exact ⟨e', List.getElem?_set_self inside, by rw [after, increments, Bool.or_true]⟩
      · exact still k earlier
    · simpa using sound.taken

/-- A tick that leaves the atomic alone and stays at its stage. -/
theorem Sound.of_same_stages (sound : b.Sound kind s)
    (atomic : kind.sinceTick s'.counters = kind.sinceTick s.counters)
    (endings : s'.endings = s.endings) (stages : ∀ k, s'.stage kind k = s.stage kind k) :
    b.Sound kind s' where
  counted := by rw [atomic, sound.counted]
  waiting := by simpa only [endings] using sound.waiting
  taken := by simpa only [endings] using sound.taken
  held k value holding := sound.held k value (by rwa [← stages])
  recorded k value := by rw [stages, sound.recorded]

/-- The swap: the tick holds what the atomic counted. -/
theorem Sound.takes (sound : b.Sound kind s) (pending : s.stage kind j = some .pending)
    (atomic : kind.sinceTick s'.counters = 0) (endings : s'.endings = s.endings)
    (stages : ∀ k, s'.stage kind k = if k = j then
      some (.holding (Double.nearest (kind.sinceTick s.counters).toNat)) else s.stage kind k) :
    (b.enter j .takes).Sound kind s' := by
  have rates : ∀ k, k ≠ j → (b.enter j .takes).rate k = b.rate k := by
    intro k other
    rw [rate, rate, taken_enter_of_ne other]
  constructor
  · rw [atomic]
    rfl
  · intro i counted
    exact absurd counted (Finset.notMem_empty i)
  · intro k i took
    rw [endings]
    rcases eq_or_ne k j with rfl | other
    · rw [taken_enter_takes] at took
      exact sound.waiting_lt took
    · rw [taken_enter_of_ne other] at took
      exact sound.taken k i took
  · intro k value holding
    rw [stages] at holding
    split at holding
    · rename_i same
      cases same
      cases holding
      rw [sound.counted, rate, taken_enter_takes]
    · rename_i other
      rw [rates k other]
      exact sound.held k value holding
  · intro k value
    have before : (b.enter j .takes).recorded k = b.recorded k := rfl
    rw [stages, before, sound.recorded]
    split
    · rename_i same
      simp [same, pending]
    · rename_i other
      rw [rates k other]

/-- The gauge: the tick records what it held. -/
theorem Sound.records (sound : b.Sound kind s) (holding : s.stage kind j = some (.holding value))
    (atomic : kind.sinceTick s'.counters = kind.sinceTick s.counters)
    (endings : s'.endings = s.endings)
    (stages : ∀ k, s'.stage kind k = if k = j then some .recorded else s.stage kind k) :
    (b.enter j (.records value)).Sound kind s' := by
  have held := sound.held j value holding
  constructor
  · rw [atomic]
    exact sound.counted
  · rw [endings]
    exact sound.waiting
  · rw [endings]
    exact sound.taken
  · intro k earlier there
    rw [stages] at there
    split at there
    · cases there
    · exact sound.held k earlier there
  · intro k earlier
    rw [stages]
    rcases eq_or_ne k j with rfl | other
    · rw [recorded_enter_records, if_pos rfl, held, Option.some.injEq, eq_comm]
      exact (and_iff_right rfl).symm
    · rw [recorded_enter_of_ne other, if_neg other]
      exact sound.recorded k earlier

/-- A step of a tick is entered. -/
theorem Sound.ticking (sound : b.Sound kind s) (found : s.ticks[j]? = some t)
    (stepped : t.next s.counters = some (t', c')) :
    (b.note kind s (.ticking j)).Sound kind { s with counters := c', ticks := s.ticks.set j t' } := by
  have inside := (List.getElem?_eq_some_iff.mp found).1
  have here : s.stage kind j = some (kind.stage t) := by rw [State.stage, found, Option.map_some]
  have stages : ∀ k, State.stage { s with counters := c', ticks := s.ticks.set j t' } kind k =
      if k = j then some (kind.stage t') else s.stage kind k := by
    intro k
    simp only [State.stage]
    split
    · rename_i same
      rw [same, List.getElem?_set_self inside, Option.map_some]
    · rename_i other
      rw [List.getElem?_set_ne (Ne.symm other)]
  have did := Tick.deed_next kind stepped
  simp only [note, found, Option.map_some, Option.elim_some]
  cases deed : kind.deed t with
  | other =>
    rw [deed] at did
    obtain ⟨atomic, stage⟩ := did
    refine sound.of_same_stages atomic rfl fun k => ?_
    rw [stages, stage]
    split
    · rename_i same
      rw [same, here]
    · rfl
  | takes =>
    rw [deed] at did
    obtain ⟨pending, atomic, stage⟩ := did
    rw [stage] at stages
    exact sound.takes (by rw [here, pending]) atomic rfl stages
  | records value =>
    rw [deed] at did
    obtain ⟨holding, rfl, stage⟩ := did
    rw [stage] at stages
    exact sound.records (by rw [here, holding]) (sinceTick_recordGauge kind) rfl stages

/-- Each step keeps an account right. -/
theorem Sound.step (sound : b.Sound kind s) (stepped : Ticks.step s a = some s') :
    (b.note kind s a).Sound kind s' := by
  cases a with
  | onStart =>
    cases stepped
    refine sound.of_idle ?_ (List.append_nil _).symm (List.append_nil _).symm ?_
    · cases kind <;> rfl
    · simp
  | onEnd latencyUs isError =>
    cases stepped
    refine sound.of_idle rfl rfl (List.append_nil _).symm ?_
    simp
  | tick =>
    cases stepped
    refine sound.of_idle rfl (List.append_nil _).symm rfl ?_
    cases kind <;> simp [Kind.stage]
  | ending i =>
    obtain ⟨⟨e', c'⟩, ran, rfl⟩ := Option.map_eq_some_iff.mp stepped
    obtain ⟨e, found, next⟩ := Option.bind_eq_some_iff.mp ran
    exact sound.ending found next
  | ticking j =>
    obtain ⟨⟨t', c'⟩, ran, rfl⟩ := Option.map_eq_some_iff.mp stepped
    obtain ⟨t, found, next⟩ := Option.bind_eq_some_iff.mp ran
    exact sound.ticking found next

/-- A rate is entered when the tick records it. -/
theorem recorded_of_note (entered : (b.note kind s a).recorded j = some value) :
    b.recorded j = some value ∨
      (a = .ticking j ∧ ∃ t, s.ticks[j]? = some t ∧ kind.deed t = .records value) := by
  cases a with
  | onStart | onEnd _ _ | tick => exact .inl entered
  | ending i =>
    rw [note] at entered
    split at entered
    · exact .inl entered
    · exact .inl entered
  | ticking k =>
    rw [note] at entered
    cases found : s.ticks[k]? with
    | none =>
      rw [found] at entered
      exact .inl entered
    | some t =>
      rw [found, Option.map_some, Option.elim_some] at entered
      rcases eq_or_ne j k with rfl | other
      · cases deed : kind.deed t with
        | takes | other =>
          rw [deed] at entered
          exact .inl entered
        | records earlier =>
          rw [deed, recorded_enter_records] at entered
          cases entered
          exact .inr ⟨rfl, t, found, deed⟩
      · rw [recorded_enter_of_ne other] at entered
        exact .inl entered

end Account

variable {actions : List Action} {now now' : State × Accounts}

/-- Both accounts are right in every state. -/
theorem sound (kind : Kind) (ran : attributed.exec actions = some now) :
    (now.2 kind).Sound kind now.1 := by
  refine attributed.invariant (I := fun now => (now.2 kind).Sound kind now.1) ?_ ?_ ran
  · refine ⟨?_, ?_, ?_, ?_, ?_⟩
    · cases kind <;> rfl
    · simp [attributed, annotated, Account.empty]
    · simp [attributed, annotated, Account.empty]
    · simp [attributed, annotated, machine, State.stage]
    · simp [attributed, annotated, machine, State.stage, Account.empty]
  · intro now a now' right stepped
    obtain ⟨ran, notes⟩ := annotated_step_eq_some.mp stepped
    rw [notes]
    exact right.step ran

/-- The calls whose error a tick took without their request are no more than
those whose request it took without an error, and its requests fit the atomic. -/
def Accounts.Covers (accounts : Accounts) (j : Nat) : Prop :=
  ((accounts .requests).taken j).card < 2 ^ 64 ∧
    ((accounts .errors).taken j \ (accounts .requests).taken j).card ≤
      ((accounts .requests).taken j \ (accounts .errors).taken j).card

/-- A tick that comes to record its errors is covered. -/
def RecordsCovered (_ : List Action) (now : State × Accounts) (a : Action) : Prop :=
  ∀ j eps p99, a = .ticking j → now.1.ticks[j]? = some (.requestsRecorded eps p99) → now.2.Covers j

/-- No tick records more errors than requests. -/
def Consistent (_ : List Action) (now : State × Accounts) : Prop :=
  ∀ j rps eps, (now.2 .requests).recorded j = some rps → (now.2 .errors).recorded j = some eps →
    eps ≤ rps

namespace Accounts

variable {accounts : Accounts}

/-- A covered tick takes no more errors than requests. -/
theorem Covers.rate_le (covers : accounts.Covers j) :
    (accounts .errors).rate j ≤ (accounts .requests).rate j := by
  obtain ⟨fits, fewer⟩ := covers
  have order := Finset.card_sdiff_le_card_sdiff_iff.mp fewer
  apply Double.nearest_mono
  · positivity
  · rw [Nat.mod_eq_of_lt fits, Nat.mod_eq_of_lt (order.trans_lt fits)]
    exact_mod_cast order

/-- Counts that a double holds as they are keep their order. -/
theorem covers_of_rate_le (small : ∀ kind, ((accounts kind).taken j).card < 2 ^ 53)
    (order : (accounts .errors).rate j ≤ (accounts .requests).rate j) : accounts.Covers j := by
  have exact : ∀ kind, (accounts kind).rate j = ((accounts kind).taken j).card := by
    intro kind
    have few := small kind
    rw [Account.rate, Nat.mod_eq_of_lt (by omega), Double.nearest_natCast few]
  have requests := small .requests
  rw [exact, exact, Nat.cast_le] at order
  exact ⟨by omega, Finset.card_sdiff_le_card_sdiff_iff.mpr order⟩

end Accounts

/-- A tick that is covered when it records its errors stays within its requests. -/
theorem Consistent.step {before after : List Action} (consistent : Consistent before now)
    (right : ∀ kind, (now.2 kind).Sound kind now.1) (covered : RecordsCovered before now a)
    (stepped : attributed.step now a = some now') : Consistent after now' := by
  obtain ⟨_, notes⟩ := annotated_step_eq_some.mp stepped
  intro j rps eps requests errors
  rw [notes] at requests errors
  rcases Account.recorded_of_note errors with earlier | ⟨rfl, t, found, records⟩
  · rcases Account.recorded_of_note requests with before | ⟨_, t, found, records⟩
    · exact consistent j rps eps before earlier
    · -- a tick does not record its requests after its errors
      have past := (((right .errors).recorded j eps).mp earlier).1
      rw [State.stage, found] at past
      cases t <;> cases records
      cases past
  · cases t <;> cases records
    rcases Account.recorded_of_note requests with before | ⟨_, t, there, records⟩
    · rename_i p99
      have taken := (right .errors).held j eps (by rw [State.stage, found]; rfl)
      rw [taken, (((right .requests).recorded j rps).mp before).2]
      exact (covered j eps p99 rfl found).rate_le
    · cases found.symm.trans there
      cases records

/-- The calls an account names are among the calls there are. -/
theorem card_taken_le (right : b.Sound kind s) (j : Nat) : (b.taken j).card ≤ s.endings.length := by
  have inside : b.taken j ⊆ Finset.range s.endings.length := by
    intro i took
    exact Finset.mem_range.mpr (right.taken j i took)
  simpa using Finset.card_le_card inside

/-- Along a run calls are only added. -/
theorem endings_grow_along (ran : machine.execFrom s actions = some s') :
    s.endings.length ≤ s'.endings.length := by
  induction actions generalizing s with
  | nil =>
    cases ran
    exact le_rfl
  | cons a rest ih =>
    obtain ⟨next, stepped, onward⟩ := Option.bind_eq_some_iff.mp ran
    exact (endings_grow stepped).trans (ih onward)

/-- What a tick that records its errors held is the two rates its account has. -/
theorem rates_of_recording {eps p99 : Rat} (right : ∀ kind, (now.2 kind).Sound kind now.1)
    (found : now.1.ticks[j]? = some (.requestsRecorded eps p99))
    (stepped : attributed.step now (.ticking j) = some now') :
    (now'.2 .requests).recorded j = some ((now.2 .requests).rate j) ∧
      (now'.2 .errors).recorded j = some ((now.2 .errors).rate j) := by
  obtain ⟨_, notes⟩ := annotated_step_eq_some.mp stepped
  have held := (right .errors).held j eps (by rw [State.stage, found]; rfl)
  have before := ((right .requests).recorded j ((now.2 .requests).rate j)).mpr
    ⟨by rw [State.stage, found]; rfl, rfl⟩
  rw [notes, ← held]
  simp only [Account.note, found, Option.map_some, Option.elim_some, Kind.deed]
  exact ⟨before, Account.recorded_enter_records⟩

/-- In a run whose ticks are covered when they record their errors no tick records
more errors than requests; with fewer calls than a double counts exactly, in no
other run. -/
theorem rates_consistent_iff (actions : List Action) (last : State)
    (ran : machine.exec actions = some last) :
    (attributed.Throughout RecordsCovered actions → attributed.InEveryState Consistent actions) ∧
      (last.endings.length < 2 ^ 53 → attributed.InEveryState Consistent actions →
        attributed.Throughout RecordsCovered actions) := by
  constructor
  · refine inEveryState_of_throughout fun done now covered reached => ?_
    refine run_induction_throughout (P := Consistent) ?_ ?_ covered reached
    · rintro j rps eps ⟨⟩
    · intro _ now a now' before consistent covered stepped
      exact consistent.step (fun kind => sound kind before) covered stepped
  · rintro few consistent done a rest now rfl reached j eps p99 rfl found
    obtain ⟨notes, whole⟩ := exec_annotated _ _ ran
    obtain ⟨_, next, reached', stepped, extended⟩ := exec_split (M := attributed) whole
    cases reached.symm.trans reached'
    have right := fun kind => sound kind reached
    have small : ∀ kind, ((now.2 kind).taken j).card < 2 ^ 53 := by
      intro kind
      have before := exec_of_annotated reached
      rw [StepMachine.exec, execFrom_append] at ran
      obtain ⟨s, front, onward⟩ := Option.bind_eq_some_iff.mp ran
      cases before.symm.trans front
      have within := card_taken_le (right kind) j
      have grown := endings_grow_along onward
      omega
    obtain ⟨requests, errors⟩ := rates_of_recording right found stepped
    exact Accounts.covers_of_rate_le small (consistent _ next (by simp) extended j _ _ requests errors)

/-- A failed request that a tick takes whole. -/
theorem rates_consistent_iff_whole :
    let actions : List Action :=
      [.onStart, .onEnd 900 true, .ending 0, .ending 0, .ending 0, .ending 0, .tick, .ticking 0,
        .ticking 0, .ticking 0, .ticking 0, .ticking 0, .ticking 0, .ticking 0, .ticking 0]
    attributed.Throughout RecordsCovered actions ∧ attributed.InEveryState Consistent actions := by
  intro actions
  have covered : attributed.Throughout RecordsCovered actions := by
    rintro done _ rest now split ran j eps p99 rfl found
    have front : done = actions.take done.length := by simp [split]
    have next : actions[done.length]? = some (.ticking j) := by simp [split]
    have inside : done.length < 15 := (List.getElem?_eq_some_iff.mp next).1
    generalize done.length = k at front next inside
    subst front
    interval_cases k <;> cases next <;> cases ran <;> cases found
    exact ⟨by decide, by decide⟩
  exact ⟨covered, (rates_consistent_iff actions _ rfl).1 covered⟩

/-- A request that fails between the two swaps of a tick is an error of a tick
without requests. -/
theorem error_of_no_request :
    let actions : List Action :=
      [.onStart, .tick, .ticking 0, .ticking 0, .onEnd 900 true, .ending 0, .ending 0, .ending 0,
        .ending 0, .ending 0, .ending 0, .ticking 0, .ticking 0, .ticking 0, .ticking 0, .ticking 0]
    (∃ now, attributed.exec actions = some now ∧ (now.2 .requests).recorded 0 = some 0 ∧
      (now.2 .errors).recorded 0 = some 1) ∧
      ¬ attributed.InEveryState Consistent actions := by
  intro actions
  have zero : Double.nearest ((0 : Nat) : Rat) = 0 := Double.nearest_natCast (by decide)
  have one : Double.nearest ((1 : Nat) : Rat) = 1 := Double.nearest_natCast (by decide)
  have torn : ∃ now, attributed.exec actions = some now ∧ (now.2 .requests).recorded 0 = some 0 ∧
      (now.2 .errors).recorded 0 = some 1 := by
    refine ⟨_, rfl, ?_, ?_⟩
    · exact congrArg some zero
    · exact congrArg some one
  refine ⟨torn, ?_⟩
  intro consistent
  obtain ⟨now, ran, requests, errors⟩ := torn
  have wrong := consistent actions now List.prefix_rfl ran 0 0 1 requests errors
  norm_num at wrong

end EdgeBootstrap.Ticks
