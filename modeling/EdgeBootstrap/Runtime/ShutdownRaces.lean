import EdgeBootstrap.Runtime.ManagerSteps

/-! Whether a completed shutdown stays completed. The final write of a start
does not look at the status it replaces, so a start that began before a
shutdown can undo it; a run is free of that exactly when no final write of a
start is stale. -/
namespace EdgeBootstrap.ManagerSteps
open StepMachine

/-- After a shutdown that wrote `Stopped`, the status is `Running` only if some
start has since begun and made its final write. -/
def StaysStopped (done : List Step) (s : State) : Prop :=
  ∀ before j after, done = before ++ .shutdownFinish j :: after → s.status = .running →
    ∃ k, .startBegin k ∈ after ∧ .startFinish k ∈ after

/-- A start about to make its final write began after each completed shutdown,
or another that did has made its own. -/
def FreshFinish (done : List Step) (_ : State) (a : Step) : Prop :=
  ∀ i before j after, a = .startFinish i → done = before ++ .shutdownFinish j :: after →
    .startBegin i ∈ after ∨ ∃ k, .startBegin k ∈ after ∧ .startFinish k ∈ after

variable {hasAny : Bool}

private theorem staysStopped_step {done : List Step} {s s' : State} {a : Step}
    (kept : StaysStopped done s) (fresh : FreshFinish done s a)
    (ran : step hasAny s a = some s') : StaysStopped (done ++ [a]) s' := by
  intro before j after split now
  rcases snoc_split split with ⟨_, _, rfl⟩ | ⟨front, rfl, shape⟩
  · rw [status_of_step ran] at now
    cases now
  · rcases running_of_step ran now with was | ⟨i, rfl⟩
    · obtain ⟨k, begun, finished⟩ := kept before j front shape was
      exact ⟨k, List.mem_append_left _ begun, List.mem_append_left _ finished⟩
    · rcases fresh i before j front rfl shape with begun | ⟨k, begun, finished⟩
      · exact ⟨i, List.mem_append_left _ begun, List.mem_append_right _ List.mem_cons_self⟩
      · exact ⟨k, List.mem_append_left _ begun, List.mem_append_left _ finished⟩

/-- In every state of a run a completed shutdown has stayed completed exactly
when every final write of a start along it was fresh. -/
theorem staysStopped_iff_freshFinish (hasAny : Bool) (steps : List Step) (last : State)
    (run : (machine hasAny).exec steps = some last) :
    (machine hasAny).InEveryState StaysStopped steps ↔
      (machine hasAny).Throughout FreshFinish steps := by
  constructor
  · rintro kept done a rest s rfl reached i before j after rfl rfl
    obtain ⟨_, t, _, ran, extended⟩ := exec_split run
    have now : t.status = .running :=
      status_of_step (show step hasAny _ (.startFinish i) = some t from ran)
    obtain ⟨k, begun, finished⟩ := kept _ t (by simp) extended before j (after ++ [.startFinish i])
      (by simp) now
    have began : .startBegin k ∈ after := by simpa using begun
    rcases List.mem_append.mp finished with earlier | here
    · exact Or.inr ⟨k, began, earlier⟩
    · cases List.mem_singleton.mp here
      exact Or.inl began
  · intro fresh
    refine inEveryState_of_throughout (fun done s fresh reached => ?_) fresh
    refine run_induction_throughout ?_ ?_ fresh reached
    · intro before j after split
      simp at split
    · intro done s a s' _ kept fresh ran
      exact staysStopped_step kept fresh ran

/-- Two lifecycles one after the other. -/
theorem staysStopped_iff_freshFinish_restart :
    let steps : List Step :=
      [.startBegin 0, .startHookCall 0, .startHookReturn 0 (.ok ()), .startProbe 0, .startFinish 0,
        .shutdownBegin 1, .shutdownHookCall 1, .shutdownHookReturn 1 (.ok ()), .shutdownFinish 1,
        .startBegin 2, .startHookCall 2, .startHookReturn 2 (.ok ()), .startProbe 2, .startFinish 2]
    (machine true).InEveryState StaysStopped steps ↔ (machine true).Throughout FreshFinish steps :=
  staysStopped_iff_freshFinish true _ _ rfl

/-- A start overtaken by a whole shutdown leaves the manager `Running`. -/
theorem stale_start_undoes_shutdown :
    let steps : List Step :=
      [.startBegin 0, .startHookCall 0, .startHookReturn 0 (.ok ()),
        .shutdownBegin 1, .shutdownHookCall 1, .shutdownHookReturn 1 (.ok ()), .shutdownFinish 1,
        .startProbe 0, .startFinish 0]
    (∃ s, (machine true).exec steps = some s) ∧
      ¬ (machine true).InEveryState StaysStopped steps := by
  refine ⟨⟨_, rfl⟩, fun kept => ?_⟩
  obtain ⟨k, begun, _⟩ := kept _ _ List.prefix_rfl rfl
    [.startBegin 0, .startHookCall 0, .startHookReturn 0 (.ok ()),
      .shutdownBegin 1, .shutdownHookCall 1, .shutdownHookReturn 1 (.ok ())] 1
    [.startProbe 0, .startFinish 0] rfl rfl
  simp at begun

end EdgeBootstrap.ManagerSteps
