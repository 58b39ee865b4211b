import Mathlib.Data.List.Infix

/-! Partial step machines: a start state, and a function from a state and an
action to the next state when the action is possible there. A run is the list
of actions taken, so a statement about every interleaving is a statement about
every list of actions that executes. -/

/-- Where a machine starts, and what an action does when it is possible. -/
structure StepMachine (σ : Type*) (α : Type*) where
  /-- The state before any action. -/
  init : σ
  /-- The state after an action, or nothing when the action is not enabled. -/
  step : σ → α → Option σ

namespace StepMachine

variable {σ α : Type*} (M : StepMachine σ α)

/-- The state a list of actions leads to from `s`. -/
def execFrom (s : σ) : List α → Option σ
  | [] => some s
  | a :: as => (M.step s a).bind fun s' => execFrom s' as

/-- The state a run of the machine ends in. -/
def exec (as : List α) : Option σ := M.execFrom M.init as

@[simp] theorem execFrom_nil (s : σ) : M.execFrom s [] = some s := rfl

@[simp] theorem execFrom_cons (s : σ) (a : α) (as : List α) :
    M.execFrom s (a :: as) = (M.step s a).bind fun s' => M.execFrom s' as := rfl

@[simp] theorem exec_nil : M.exec [] = some M.init := rfl

variable {M} {s s' : σ} {a : α} {as bs pre : List α}

theorem execFrom_append :
    M.execFrom s (as ++ bs) = (M.execFrom s as).bind fun s' => M.execFrom s' bs := by
  induction as generalizing s with
  | nil => rfl
  | cons a as ih =>
    simp only [List.cons_append, execFrom_cons]
    cases M.step s a with
    | none => rfl
    | some next => exact ih

/-- A machine that is embedded in another, step for step, takes its runs there. -/
theorem execFrom_embed {τ β : Type*} {N : StepMachine τ β} (place : τ → σ) (name : β → α)
    (embeds : ∀ t b, M.step (place t) (name b) = (N.step t b).map place) (t : τ) (bs : List β) :
    M.execFrom (place t) (bs.map name) = (N.execFrom t bs).map place := by
  induction bs generalizing t with
  | nil => rfl
  | cons b bs ih =>
    rw [List.map_cons, execFrom_cons, execFrom_cons, embeds]
    cases N.step t b with
    | none => rfl
    | some next => exact ih next

/-- A run extended by one action is the run, then the step. -/
theorem exec_snoc : M.exec (as ++ [a]) = some s' ↔ ∃ s, M.exec as = some s ∧ M.step s a = some s' := by
  simp [exec, execFrom_append, Option.bind_eq_some_iff]

/-- Every prefix of a run is a run. -/
theorem exec_of_prefix (run : M.exec as = some s') (front : pre <+: as) :
    ∃ s, M.exec pre = some s := by
  obtain ⟨rest, rfl⟩ := front
  rw [exec, execFrom_append, Option.bind_eq_some_iff] at run
  obtain ⟨s, before, _⟩ := run
  exact ⟨s, before⟩

/-- The states before and after the action at a position of a run. -/
theorem exec_split (run : M.exec (pre ++ a :: bs) = some s') :
    ∃ s t, M.exec pre = some s ∧ M.step s a = some t ∧ M.exec (pre ++ [a]) = some t := by
  obtain ⟨t, after⟩ := exec_of_prefix run (show pre ++ [a] <+: pre ++ a :: bs by simp)
  obtain ⟨s, before, step⟩ := exec_snoc.mp after
  exact ⟨s, t, before, step, after⟩

/-- Induction along a run, from its first action to its last. -/
theorem run_induction {P : List α → σ → Prop} (start : P [] M.init)
    (next : ∀ as s a s', M.exec as = some s → P as s → M.step s a = some s' → P (as ++ [a]) s')
    (run : M.exec as = some s) : P as s := by
  induction as using List.reverseRecOn generalizing s with
  | nil =>
    cases run
    exact start
  | append_singleton as a ih =>
    obtain ⟨before, ran, step⟩ := exec_snoc.mp run
    exact next as before a s ran (ih ran) step

/-- A property of states that holds at the start and survives every step holds
in every state reached. -/
theorem invariant {I : σ → Prop} (start : I M.init)
    (next : ∀ s a s', I s → M.step s a = some s' → I s')
    (run : M.exec as = some s) : I s :=
  run_induction (P := fun _ s => I s) start (fun _ s a s' _ holds step => next s a s' holds step) run

variable (M)

/-- Every action of the run was taken with the condition satisfied. The
condition may read the actions before it, the state it is taken in, and the
action itself. -/
def Throughout (C : List α → σ → α → Prop) (as : List α) : Prop :=
  ∀ pre a post s, as = pre ++ a :: post → M.exec pre = some s → C pre s a

/-- The property holds of every state the run goes through, with the actions
that led to it. -/
def InEveryState (P : List α → σ → Prop) (as : List α) : Prop :=
  ∀ pre s, pre <+: as → M.exec pre = some s → P pre s

variable {M} {C : List α → σ → α → Prop} {P : List α → σ → Prop}

/-- The positions of a list extended by one element: the last, or one before. -/
theorem snoc_split {b : α} {post : List α} (split : as ++ [a] = pre ++ b :: post) :
    (post = [] ∧ as = pre ∧ a = b) ∨ ∃ front, post = front ++ [a] ∧ as = pre ++ b :: front := by
  rcases List.eq_nil_or_concat post with rfl | ⟨front, c, rfl⟩
  · obtain ⟨rfl, same⟩ := List.append_inj' split rfl
    cases same
    exact Or.inl ⟨rfl, rfl, rfl⟩
  · have ends : as ++ [a] = (pre ++ b :: front) ++ [c] := by simpa using split
    obtain ⟨shape, same⟩ := List.append_inj' ends rfl
    cases same
    exact Or.inr ⟨front, List.concat_eq_append, shape⟩

@[simp] theorem throughout_nil : M.Throughout C [] := by
  intro pre a post s split
  simp at split

theorem throughout_snoc :
    M.Throughout C (as ++ [a]) ↔ M.Throughout C as ∧ ∀ s, M.exec as = some s → C as s a := by
  constructor
  · intro all
    refine ⟨?_, fun s ran => all as a [] s rfl ran⟩
    rintro pre b post s rfl ran
    exact all pre b (post ++ [a]) s (by simp) ran
  · rintro ⟨all, last⟩ pre b post s split ran
    rcases snoc_split split with ⟨rfl, rfl, rfl⟩ | ⟨front, rfl, shape⟩
    · exact last s ran
    · exact all pre b front s shape ran

/-- A condition met at every step is met along every prefix. -/
theorem Throughout.of_prefix (all : M.Throughout C as) (front : pre <+: as) : M.Throughout C pre := by
  obtain ⟨rest, rfl⟩ := front
  rintro before a post s rfl ran
  exact all before a (post ++ rest) s (by simp) ran

/-- Run induction when every step meets a condition. -/
theorem run_induction_throughout (start : P [] M.init)
    (next : ∀ as s a s', M.exec as = some s → P as s → C as s a → M.step s a = some s' →
      P (as ++ [a]) s')
    (all : M.Throughout C as) (run : M.exec as = some s) : P as s := by
  have both := run_induction (M := M) (P := fun as s => M.Throughout C as → P as s)
    (fun _ => start)
    (fun as s a s' ran ih step all =>
      next as s a s' ran (ih (throughout_snoc.mp all).1) ((throughout_snoc.mp all).2 s ran) step)
    run
  exact both all

/-- What holds of the last state of every run whose steps meet a condition
holds in every state of such a run. -/
theorem inEveryState_of_throughout
    (holds : ∀ as s, M.Throughout C as → M.exec as = some s → P as s)
    (all : M.Throughout C as) : M.InEveryState P as :=
  fun pre s front ran => holds pre s (all.of_prefix front) ran

section Annotated

variable {γ : Type*} {start : γ} {note : γ → σ → α → γ} {now : σ × γ}

/-- The machine with notes taken along its runs. The notes decide nothing. -/
def annotated (M : StepMachine σ α) (start : γ) (note : γ → σ → α → γ) : StepMachine (σ × γ) α where
  init := (M.init, start)
  step now a := (M.step now.1 a).map fun s' => (s', note now.2 now.1 a)

theorem annotated_step_eq_some {now' : σ × γ} : (M.annotated start note).step now a = some now' ↔
    M.step now.1 a = some now'.1 ∧ now'.2 = note now.2 now.1 a := by
  obtain ⟨s', notes'⟩ := now'
  simp only [annotated, Option.map_eq_some_iff, Prod.mk.injEq]
  constructor
  · rintro ⟨_, ran, rfl, rfl⟩
    exact ⟨ran, rfl⟩
  · rintro ⟨ran, rfl⟩
    exact ⟨s', ran, rfl, rfl⟩

/-- Without its notes an annotated run is a run. -/
theorem exec_of_annotated (run : (M.annotated start note).exec as = some now) :
    M.exec as = some now.1 := by
  refine run_induction (P := fun as now => M.exec as = some now.1) rfl ?_ run
  intro _ _ _ _ _ ran step
  exact exec_snoc.mpr ⟨_, ran, (annotated_step_eq_some.mp step).1⟩

/-- Every run can be annotated. -/
theorem exec_annotated (start : γ) (note : γ → σ → α → γ) (run : M.exec as = some s) :
    ∃ notes, (M.annotated start note).exec as = some (s, notes) := by
  refine run_induction (P := fun as s => ∃ notes, (M.annotated start note).exec as = some (s, notes))
    ⟨start, rfl⟩ ?_ run
  rintro _ s a s' _ ⟨notes, ran⟩ step
  exact ⟨note notes s a, exec_snoc.mpr ⟨_, ran, annotated_step_eq_some.mpr ⟨step, rfl⟩⟩⟩

end Annotated

end StepMachine
