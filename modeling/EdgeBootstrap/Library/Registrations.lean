import EdgeBootstrap.Library.StepMachine

/-! Registering item after item with a function that may refuse, and that may leave
something behind when it does. What the items are registered with is created by the first
of them. -/
namespace Registrations

variable {γ ι ε : Type*} (register : γ → ι → Except ε Unit × γ) (start : γ)

/-- What registrations leave, whatever they return. -/
def after (items : List ι) : γ := items.foldl (fun s item => (register s item).2) start

/-- Every registration returns `Ok` after the earlier ones. -/
def AllAccepted (items : List ι) : Prop :=
  ∀ earlier item later, items = earlier ++ item :: later →
    (register (after register start earlier) item).1 = .ok ()

/-- What the items are registered with, once there is one. -/
def collected (items : List ι) : Option γ :=
  if items = [] then none else some (after register start items)

variable {register start}

theorem after_snoc (items : List ι) (item : ι) : after register start (items ++ [item]) =
    (register (after register start items) item).2 := by
  simp [after]

@[simp] theorem collected_nil : collected register start [] = none := rfl

@[simp] theorem collected_snoc (items : List ι) (item : ι) :
    collected register start (items ++ [item]) = some (register (after register start items) item).2 := by
  simp [collected, after_snoc]

@[simp] theorem getD_collected (items : List ι) :
    (collected register start items).getD start = after register start items := by
  unfold collected
  split
  · rename_i none
    rw [none]
    rfl
  · rfl

theorem collected_of_mem {items : List ι} {item : ι} (member : item ∈ items) :
    collected register start items = some (after register start items) :=
  if_neg (List.ne_nil_of_mem member)

@[simp] theorem allAccepted_nil : AllAccepted register start [] := by
  intro earlier item later split
  simp at split

theorem allAccepted_snoc (items : List ι) (item : ι) :
    AllAccepted register start (items ++ [item]) ↔
      AllAccepted register start items ∧ (register (after register start items) item).1 = .ok () := by
  constructor
  · intro all
    refine ⟨?_, all items item [] rfl⟩
    rintro earlier own later rfl
    exact all earlier own (later ++ [item]) (by simp)
  · rintro ⟨all, last⟩ earlier own later split
    rcases StepMachine.snoc_split split with ⟨rfl, rfl, rfl⟩ | ⟨front, rfl, shape⟩
    · exact last
    · exact all earlier own front shape

/-- One more item, where there is one. -/
theorem allAccepted_append_toList (items : List ι) (more : Option ι) :
    AllAccepted register start (items ++ more.toList) ↔ AllAccepted register start items ∧
      ∀ item, more = some item → (register (after register start items) item).1 = .ok () := by
  cases more with
  | none => simp
  | some item => simp [allAccepted_snoc]

end Registrations
