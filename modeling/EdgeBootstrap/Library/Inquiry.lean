import Mathlib.Logic.Function.Basic

/-! Programs that learn about their environment by asking it. What such a
program computes is a function of the answers to the questions it asked, so two
environments that answer those alike cannot be told apart by it. Where the answers change
while it asks, it may still compute what it does for one answer to each question. -/

/-- A program that asks questions `Q`, is answered with `A`, and fails with an
`ε` or returns a `β`. -/
inductive Inquiry (Q A ε β : Type)
  | done (r : Except ε β)
  | ask (q : Q) (next : A → Inquiry Q A ε β)

namespace Inquiry

variable {Q A ε β γ : Type}

/-- Go on with what a program returns, unless it fails. -/
def bind : Inquiry Q A ε β → (β → Inquiry Q A ε γ) → Inquiry Q A ε γ
  | done (.ok b), f => f b
  | done (.error e), _ => done (.error e)
  | ask q next, f => ask q fun a => (next a).bind f

instance : Monad (Inquiry Q A ε) where
  pure b := done (.ok b)
  bind := bind

/-- Ask one question. -/
def question (q : Q) : Inquiry Q A ε A := ask q fun a => done (.ok a)

/-- What the program computes where questions are answered so. -/
def run (answer : Q → A) : Inquiry Q A ε β → Except ε β
  | done r => r
  | ask q next => (next (answer q)).run answer

/-- The questions it asks there, in order. -/
def asked (answer : Q → A) : Inquiry Q A ε β → List Q
  | done _ => []
  | ask q next => q :: (next (answer q)).asked answer

variable {m : Inquiry Q A ε β} {f : β → Inquiry Q A ε γ} {answer answer' : Q → A}

@[simp] theorem run_done (r : Except ε β) : (done r : Inquiry Q A ε β).run answer = r := rfl
@[simp] theorem asked_done (r : Except ε β) : (done r : Inquiry Q A ε β).asked answer = [] := rfl
@[simp] theorem run_pure (b : β) : (pure b : Inquiry Q A ε β).run answer = .ok b := rfl
@[simp] theorem asked_pure (b : β) : (pure b : Inquiry Q A ε β).asked answer = [] := rfl
@[simp] theorem run_question (q : Q) :
    (question q : Inquiry Q A ε A).run answer = .ok (answer q) := rfl
@[simp] theorem asked_question (q : Q) :
    (question q : Inquiry Q A ε A).asked answer = [q] := rfl

@[simp] theorem run_bind : (m >>= f).run answer = m.run answer >>= fun b => (f b).run answer := by
  induction m with
  | done r => cases r <;> rfl
  | ask q next ih => exact ih (answer q)

/-- A fold computes the fold of what its steps compute. -/
theorem run_foldlM {ι : Type} (step : β → ι → Inquiry Q A ε β) (items : List ι) (b : β) :
    (items.foldlM step b).run answer = items.foldlM (fun b i => (step b i).run answer) b := by
  induction items generalizing b with
  | nil => rfl
  | cons i items ih =>
    rw [List.foldlM_cons, List.foldlM_cons, run_bind]
    exact congrArg _ (funext ih)

/-- What a sequence asks is asked by one of its parts. -/
theorem mem_asked_bind {q : Q} : q ∈ (m >>= f).asked answer ↔
    q ∈ m.asked answer ∨ ∃ b, m.run answer = .ok b ∧ q ∈ (f b).asked answer := by
  induction m with
  | done r =>
    cases r with
    | error e => simp [Bind.bind, Inquiry.bind]
    | ok b => simp [Bind.bind, Inquiry.bind]
  | ask q' next ih =>
    have rest := ih (answer q')
    simp only [Bind.bind, Inquiry.bind, asked, run, List.mem_cons, or_assoc] at rest ⊢
    rw [rest]

/-- Only questions of this kind are asked, whatever the answers. -/
def Asks (P : Q → Prop) (m : Inquiry Q A ε β) : Prop := ∀ answer, ∀ q ∈ m.asked answer, P q

section Asking
variable {P : Q → Prop}

@[simp] theorem asks_done (r : Except ε β) : (done r : Inquiry Q A ε β).Asks P := by simp [Asks]

@[simp] theorem asks_pure (b : β) : (pure b : Inquiry Q A ε β).Asks P := by simp [Asks]

theorem Asks.question {q : Q} (holds : P q) : (question q : Inquiry Q A ε A).Asks P := by
  intro answer q' asks
  rw [List.mem_singleton.mp asks]
  exact holds

theorem Asks.bind (first : m.Asks P) (rest : ∀ b, (f b).Asks P) : (m >>= f).Asks P := by
  intro answer q asks
  rcases mem_asked_bind.mp asks with early | ⟨b, _, late⟩
  · exact first answer q early
  · exact rest b answer q late

theorem Asks.foldlM {ι : Type} {step : β → ι → Inquiry Q A ε β} {items : List ι}
    (each : ∀ i ∈ items, ∀ b, (step b i).Asks P) (b : β) : (items.foldlM step b).Asks P := by
  induction items generalizing b with
  | nil => exact asks_pure b
  | cons i items ih =>
    rw [List.foldlM_cons]
    apply (each i List.mem_cons_self b).bind
    intro next
    exact ih (fun j member => each j (List.mem_cons_of_mem i member)) next

end Asking

/-- Environments that answer the questions asked alike get the same result by
the same questions. -/
theorem run_congr (same : ∀ q ∈ m.asked answer, answer' q = answer q) :
    m.run answer' = m.run answer ∧ m.asked answer' = m.asked answer := by
  induction m with
  | done r => exact ⟨rfl, rfl⟩
  | ask q next ih =>
    have here : answer' q = answer q := same q List.mem_cons_self
    obtain ⟨result, questions⟩ := ih (answer q) fun q' asks => same q' (List.mem_cons_of_mem q asks)
    simp only [run, asked, here]
    exact ⟨result, congrArg (q :: ·) questions⟩

/-- What the program computes where answers change from one question to the next, and the
moment after its last question. -/
def along (answers : Nat → Q → A) : Inquiry Q A ε β → Nat → Except ε β × Nat
  | done r, n => (r, n)
  | ask q next, n => (next (answers n q)).along answers (n + 1)

/-- Each answer is one that was given between two moments. -/
def Between (answers : Nat → Q → A) (n n' : Nat) (answer : Q → A) : Prop :=
  ∀ q, ∃ k, n ≤ k ∧ k ≤ n' ∧ answer q = answers k q

/-- Whenever the program starts, and as long as it runs in calm moments, it computes what it
does where nothing changes, with answers that were given while it ran. -/
def Serial (answers : Nat → Q → A) (calm : Nat → Prop) (m : Inquiry Q A ε β) : Prop :=
  ∀ n, (∀ k, n ≤ k → k < (m.along answers n).2 → calm k) →
    ∃ answer, Between answers n (m.along answers n).2 answer ∧
      m.run answer = (m.along answers n).1

section Changing
variable {answers : Nat → Q → A} {calm : Nat → Prop} {n n' : Nat}

@[simp] theorem along_done (r : Except ε β) :
    (Inquiry.done r : Inquiry Q A ε β).along answers n = (r, n) := rfl

@[simp] theorem along_question_bind (q : Q) (f : A → Inquiry Q A ε β) :
    (question q >>= f).along answers n = (f (answers n q)).along answers (n + 1) := rfl

theorem along_bind_of_ok {b : β} (ran : m.along answers n = (.ok b, n')) :
    (m >>= f).along answers n = (f b).along answers n' := by
  induction m generalizing n with
  | done r =>
    cases ran
    rfl
  | ask q next ih => exact ih (answers n q) ran

theorem along_bind_of_error {e : ε} (ran : m.along answers n = (.error e, n')) :
    (m >>= f).along answers n = (.error e, n') := by
  induction m generalizing n with
  | done r =>
    cases ran
    rfl
  | ask q next ih => exact ih (answers n q) ran

theorem le_along (m : Inquiry Q A ε β) (n : Nat) : n ≤ (m.along answers n).2 := by
  induction m generalizing n with
  | done r => exact Nat.le_refl n
  | ask q next ih => exact Nat.le_of_succ_le (ih (answers n q) (n + 1))

/-- Where nothing changes, the program computes what it does there. -/
theorem along_const (m : Inquiry Q A ε β) (n : Nat) :
    (m.along (fun _ => answer) n).1 = m.run answer := by
  induction m generalizing n with
  | done r => rfl
  | ask q next ih => exact ih (answer q) (n + 1)

/-- The answers of one moment. -/
theorem between_at {k : Nat} (after : n ≤ k) (before : k ≤ n') :
    Between answers n n' (answers k) := fun _ => ⟨k, after, before, rfl⟩

/-- With one more answer, given at the moment before. -/
theorem Between.update [DecidableEq Q] (given : Between answers (n + 1) n' answer) (q : Q) :
    Between answers n n' (Function.update answer q (answers n q)) := by
  intro p
  obtain ⟨k, after, before, held⟩ := given p
  by_cases same : p = q
  · subst same
    exact ⟨n, Nat.le_refl n, Nat.le_of_succ_le (Nat.le_trans after before), Function.update_self ..⟩
  · exact ⟨k, Nat.le_of_succ_le after, before, (Function.update_of_ne same ..).trans held⟩

/-- A question that is not asked again can be answered in any way before. -/
theorem run_ask_update [DecidableEq Q] {q : Q} {next : A → Inquiry Q A ε β} {a : A}
    (fresh : (next a).Asks (· ≠ q)) :
    (ask q next).run (Function.update answer q a) = (next a).run answer := by
  rw [run, Function.update_self]
  exact (run_congr fun p asked => Function.update_of_ne (fresh answer p asked) ..).1

theorem Serial.done (r : Except ε β) : (Inquiry.done r : Inquiry Q A ε β).Serial answers calm :=
  fun n _ => ⟨answers n, between_at (Nat.le_refl n) (Nat.le_refl n), rfl⟩

theorem Serial.done_bind {r : Except ε β} (rest : ∀ b, (f b).Serial answers calm) :
    (Inquiry.done r >>= f).Serial answers calm := by
  cases r with
  | error e => exact Serial.done (.error e)
  | ok b => exact rest b

/-- Programs that ask different questions can run one after the other. -/
theorem Serial.bind {P : Q → Prop} (first : m.Serial answers calm) (own : m.Asks P)
    (rest : ∀ b, (f b).Serial answers calm) (others : ∀ b, (f b).Asks fun q => ¬ P q) :
    (m >>= f).Serial answers calm := by
  classical
  intro n quiet
  cases ran : m.along answers n with
  | mk r n₁ =>
  cases r with
  | error e =>
    rw [along_bind_of_error ran] at quiet ⊢
    obtain ⟨answer, given, same⟩ := first n (by rwa [ran])
    rw [ran] at given same
    exact ⟨answer, given, by rw [run_bind, same]; rfl⟩
  | ok b =>
    rw [along_bind_of_ok ran] at quiet ⊢
    have started : n ≤ (m.along answers n).2 := le_along m n
    rw [ran] at started
    have ended : n₁ ≤ ((f b).along answers n₁).2 := le_along (f b) n₁
    obtain ⟨answer, given, same⟩ := first n fun k after before => by
      rw [ran] at before
      exact quiet k after (Nat.lt_of_lt_of_le before ended)
    obtain ⟨answer', given', same'⟩ := rest b n₁ fun k after before =>
      quiet k (Nat.le_trans started after) before
    rw [ran] at given same
    -- Each question is answered as the part that may ask it was.
    let both (q : Q) : A := if P q then answer q else answer' q
    have early : m.run both = m.run answer :=
      (run_congr fun q asked => if_pos (own answer q asked)).1
    have late : (f b).run both = (f b).run answer' :=
      (run_congr fun q asked => if_neg (others b answer' q asked)).1
    refine ⟨both, fun q => ?_, ?_⟩
    · by_cases mine : P q
      · obtain ⟨k, after, before, held⟩ := given q
        exact ⟨k, after, Nat.le_trans before ended, (if_pos mine).trans held⟩
      · obtain ⟨k, after, before, held⟩ := given' q
        exact ⟨k, Nat.le_trans started after, before, (if_neg mine).trans held⟩
    · rw [run_bind, early, same]
      exact late.trans same'

/-- A fold runs along if each of its steps does and asks a question of its own. -/
theorem Serial.foldlM {ι : Type} {step : β → ι → Inquiry Q A ε β} {key : ι → Q} {items : List ι}
    (each : ∀ i ∈ items, ∀ b, (step b i).Serial answers calm)
    (own : ∀ i ∈ items, ∀ b, (step b i).Asks (· = key i)) (distinct : (items.map key).Nodup)
    (b : β) : (items.foldlM step b).Serial answers calm := by
  induction items generalizing b with
  | nil => exact Serial.done (.ok b)
  | cons i items ih =>
    rw [List.map_cons, List.nodup_cons] at distinct
    rw [List.foldlM_cons]
    have later {j : ι} (member : j ∈ items) : j ∈ i :: items := List.mem_cons_of_mem i member
    have others : ∀ j ∈ items, ∀ b, (step b j).Asks fun q => ¬ q = key i := by
      intro j member b answer q asked same
      have other : key j = key i := (own j (later member) b answer q asked).symm.trans same
      exact distinct.1 (other ▸ List.mem_map_of_mem member)
    refine (each i List.mem_cons_self b).bind (own i List.mem_cons_self b) (fun b' => ?_)
      (Asks.foldlM others)
    exact ih (fun j member => each j (later member)) (fun j member => own j (later member))
      distinct.2 b'

end Changing

end Inquiry
