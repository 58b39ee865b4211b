import Mathlib.Data.List.Basic
import Mathlib.Data.List.Dedup

/-! Layers applied one over another. Each layer may set a component; a fold of
such layers leaves the component as the last one to set it did, so a chain of
overlays is read component by component. -/
namespace Overlays

variable {ι β σ ε : Type*} {sets : ι → Option β}

/-- What the last item that sets the component sets it to. -/
def lastSet (sets : ι → Option β) : List ι → Option β
  | [] => none
  | i :: items => (lastSet sets items).or (sets i)

@[simp] theorem lastSet_nil : lastSet sets [] = none := rfl

@[simp] theorem lastSet_cons (i : ι) (items : List ι) :
    lastSet sets (i :: items) = (lastSet sets items).or (sets i) := rfl

theorem lastSet_append (xs ys : List ι) :
    lastSet sets (xs ++ ys) = (lastSet sets ys).or (lastSet sets xs) := by
  induction xs with
  | nil => simp
  | cons x xs ih => simp [ih, Option.or_assoc]

/-- Looking from the end finds the same. -/
theorem findSome?_reverse (items : List ι) :
    items.reverse.findSome? sets = lastSet sets items := by
  induction items with
  | nil => rfl
  | cons i items ih =>
    rw [List.reverse_cons, List.findSome?_append, ih, lastSet_cons]
    cases lastSet sets items <;> simp

/-- Layers derived from others, where there are any to derive. -/
theorem lastSet_filterMap {κ : Type*} (f : κ → Option ι) (items : List κ) :
    lastSet sets (items.filterMap f) = lastSet (fun i => (f i).bind sets) items := by
  induction items with
  | nil => rfl
  | cons i items ih =>
    rw [List.filterMap_cons, lastSet_cons, ← ih]
    cases f i with
    | none => simp
    | some j => rfl

theorem lastSet_eq_none_iff (items : List ι) :
    lastSet sets items = none ↔ ∀ i ∈ items, sets i = none := by
  induction items with
  | nil => simp
  | cons i items ih => simp [ih, and_comm]

/-- The item that decides is followed only by items that do not set the
component. -/
theorem lastSet_eq_some_iff (items : List ι) (b : β) :
    lastSet sets items = some b ↔
      ∃ before i after, items = before ++ i :: after ∧ sets i = some b ∧
        ∀ j ∈ after, sets j = none := by
  constructor
  · intro decided
    induction items with
    | nil => cases decided
    | cons i items ih =>
      cases later : lastSet sets items with
      | none =>
        rw [lastSet_cons, later, Option.none_or] at decided
        exact ⟨[], i, items, rfl, decided, (lastSet_eq_none_iff items).mp later⟩
      | some c =>
        rw [lastSet_cons, later, Option.some_or] at decided
        obtain ⟨before, j, after, rfl, set, silent⟩ := ih (later.trans decided)
        exact ⟨i :: before, j, after, rfl, set, silent⟩
  · rintro ⟨before, i, after, rfl, set, silent⟩
    have none : lastSet sets after = none := (lastSet_eq_none_iff after).mpr silent
    rw [lastSet_append, lastSet_cons, none, set]
    rfl

/-- Layers that set the component alike leave it alike. -/
theorem lastSet_congr {sets' : ι → Option β} {items : List ι}
    (same : ∀ i ∈ items, sets i = sets' i) : lastSet sets items = lastSet sets' items := by
  induction items with
  | nil => rfl
  | cons i items ih =>
    rw [lastSet_cons, lastSet_cons, same i List.mem_cons_self,
      ih fun j member => same j (List.mem_cons_of_mem i member)]

/-- A fold that may fail leaves a component as the last layer to set it did,
when each layer sets it or leaves it alone. -/
theorem get_foldlM (get : σ → β) {step : σ → ι → Except ε σ}
    (each : ∀ s i s', step s i = .ok s' → get s' = (sets i).getD (get s)) {items : List ι} {s s' : σ}
    (folded : items.foldlM step s = .ok s') : get s' = (lastSet sets items).getD (get s) := by
  induction items generalizing s with
  | nil =>
    cases folded
    rfl
  | cons i items ih =>
    rw [List.foldlM_cons] at folded
    cases stepped : step s i with
    | error e =>
      rw [stepped] at folded
      cases folded
    | ok next =>
      rw [stepped] at folded
      rw [ih folded, each s i next stepped, lastSet_cons]
      cases lastSet sets items <;> rfl

section Repeated
variable [DecidableEq ι]

/-- An item listed again later decides nothing where it is listed first. -/
theorem lastSet_dedup (items : List ι) : lastSet sets items.dedup = lastSet sets items := by
  induction items with
  | nil => rfl
  | cons i items ih =>
    by_cases again : i ∈ items
    · rw [List.dedup_cons_of_mem again, ih, lastSet_cons]
      cases later : lastSet sets items with
      | some b => rfl
      | none => rw [(lastSet_eq_none_iff items).mp later i again, Option.or_none]
    · rw [List.dedup_cons_of_notMem again, lastSet_cons, lastSet_cons, ih]

/-- Steps that hide what they did before: on the states `P`, a step that is taken
again later might as well not have been taken the first time. -/
structure Absorbing (P : σ → Prop) (step : σ → ι → σ) : Prop where
  keeps : ∀ s i, P s → P (step s i)
  again : ∀ s i, P s → step (step s i) i = step s i
  under : ∀ s i j, P s → step (step (step s i) j) i = step (step s j) i

variable {P : σ → Prop} {step : σ → ι → σ}

theorem Absorbing.foldl_of_mem (absorbing : Absorbing P step) {items : List ι} {i : ι}
    (later : i ∈ items) {s : σ} (start : P s) : items.foldl step (step s i) = items.foldl step s := by
  induction items generalizing s with
  | nil => cases later
  | cons j items ih =>
    rw [List.foldl_cons, List.foldl_cons]
    by_cases same : j = i
    · subst same
      rw [absorbing.again s j start]
    · have rest : i ∈ items := (List.mem_cons.mp later).resolve_left (Ne.symm same)
      have first := absorbing.keeps s j start
      have second := absorbing.keeps _ j (absorbing.keeps s i start)
      -- the later step hides whether the earlier one was taken
      rw [← ih rest second, absorbing.under s i j start, ih rest first]

/-- Layers listed more than once count where they are listed last. -/
theorem Absorbing.foldl_dedup (absorbing : Absorbing P step) (items : List ι) {s : σ} (start : P s) :
    items.dedup.foldl step s = items.foldl step s := by
  induction items generalizing s with
  | nil => rfl
  | cons i items ih =>
    by_cases again : i ∈ items
    · rw [List.dedup_cons_of_mem again, ih start, List.foldl_cons, absorbing.foldl_of_mem again start]
    · rw [List.dedup_cons_of_notMem again, List.foldl_cons, List.foldl_cons, ih (absorbing.keeps s i start)]

end Repeated

end Overlays
