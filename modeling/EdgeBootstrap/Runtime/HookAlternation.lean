import Mathlib.Data.List.Chain
import EdgeBootstrap.Runtime.ManagerSteps

/-! The lifecycle hooks a manager calls. The guards of `start` and `shutdown`
know only `Running` and `Stopped`; as long as no call begins while the status is
neither, one call is in progress at a time and the hooks alternate. -/
namespace EdgeBootstrap.ManagerSteps
open StepMachine

/-- The lifecycle hook a step calls: `start_background_tasks` or `shutdown`. -/
def Step.hook : Step → Option Op
  | .startHookCall _ => some .start
  | .shutdownHookCall _ => some .shutdown
  | _ => none

/-- The hooks called along a run, in order. -/
def hookCalls (steps : List Step) : List Op := steps.filterMap Step.hook

/-- No hook of the run fails. -/
def HooksSucceed (steps : List Step) : Prop :=
  ∀ i e, .startHookReturn i (.error e) ∉ steps ∧ .shutdownHookReturn i (.error e) ∉ steps

/-- A call that begins finds the manager `Running` or `Stopped`. -/
def SettledBegin (_ : List Step) (s : State) (a : Step) : Prop :=
  ∀ i, a = .startBegin i ∨ a = .shutdownBegin i → s.status = .running ∨ s.status = .stopped

/-- What the last hook called says of a call in progress and of the status. -/
structure Fits (last : Option Op) (status : RuntimeStatus) (op : Op) (phase : Phase) : Prop where
  start : phase.Live → op = .start → status = .starting ∧ (last = some .start ↔ phase ≠ .guarded)
  shutdown : phase.Live → op = .shutdown →
    status = .stopping ∧ (last = some .start ↔ phase = .guarded)
  running : status = .running → last = some .start
  stopped : status = .stopped → last ≠ some .start

/-- A call that has returned says nothing. -/
private theorem Fits.ofReturned {last : Option Op} {status : RuntimeStatus} {op : Op}
    {r : Except RuntimeError Unit} (running : status = .running → last = some .start)
    (stopped : status = .stopped → last ≠ some .start) : Fits last status op (.returned r) where
  start live := False.elim live
  shutdown live := False.elim live
  running := running
  stopped := stopped

private theorem Fits.ofStart {last : Option Op} {phase : Phase}
    (called : last = some .start ↔ phase ≠ .guarded) : Fits last .starting .start phase where
  start _ _ := ⟨rfl, called⟩
  shutdown _ other := by cases other
  running now := by cases now
  stopped now := by cases now

private theorem Fits.ofShutdown {last : Option Op} {phase : Phase}
    (called : last = some .start ↔ phase = .guarded) : Fits last .stopping .shutdown phase where
  start _ other := by cases other
  shutdown _ _ := ⟨rfl, called⟩
  running now := by cases now
  stopped now := by cases now

/-- At most one call is in progress, and it, the status and the last hook called
fit together. -/
structure Serial (last : Option Op) (s : State) : Prop where
  fits : ∀ i op phase, s.At i op phase → Fits last s.status op phase
  running : s.status = .running → last = some .start
  stopped : s.status = .stopped → last ≠ some .start
  one : ∀ i j op op' phase phase', s.At i op phase → phase.Live → s.At j op' phase' → phase'.Live →
    i = j

variable {last last' : Option Op} {s s' : State} {i : Nat} {op : Op} {phase : Phase}

/-- The one call in progress, or the one beginning, comes to a phase. -/
private theorem Serial.advance {status : RuntimeStatus}
    (others : ∀ j op' phase', s.At j op' phase' → phase'.Live → j = i)
    (fits : Fits last status op phase) : Serial last (s.advance status i op phase) where
  fits j op' phase' held := by
    rcases (State.at_advance ..).mp held with ⟨rfl, rfl, rfl⟩ | ⟨apart, held⟩
    · exact fits
    · have ended : ¬ phase'.Live := fun live => apart (others j op' phase' held live)
      exact ⟨fun live => absurd live ended, fun live => absurd live ended, fits.running, fits.stopped⟩
  running := fits.running
  stopped := fits.stopped
  one j k op₁ op₂ phase₁ phase₂ first live second live' := by
    have here (j op' phase') (held : (s.advance status i op phase).At j op' phase')
        (live : phase'.Live) : j = i := by
      rcases (State.at_advance ..).mp held with ⟨rfl, _⟩ | ⟨_, held⟩
      · rfl
      · exact others j op' phase' held live
    rw [here j op₁ phase₁ first live, here k op₂ phase₂ second live']

/-- Nothing is in progress in a settled status. -/
private theorem Serial.idle (serial : Serial last s)
    (settled : s.status = .running ∨ s.status = .stopped) (held : s.At i op phase) :
    ¬ phase.Live := by
  intro live
  have fits := serial.fits i op phase held
  cases op with
  | start => rcases settled with now | now <;> simp [(fits.start live rfl).1] at now
  | shutdown => rcases settled with now | now <;> simp [(fits.shutdown live rfl).1] at now

/-- Beside a call in progress there is no other. -/
private theorem Serial.alone (serial : Serial last s) (held : s.At i op phase) (live : phase.Live)
    (j : Nat) (op' : Op) (phase' : Phase) (other : s.At j op' phase') (live' : phase'.Live) :
    j = i :=
  serial.one j i op' op phase' phase other live' held live

/-- A start in progress. -/
private theorem Serial.starting (serial : Serial last s) (held : s.At i .start phase)
    (live : phase.Live) : s.status = .starting ∧ (last = some .start ↔ phase ≠ .guarded) :=
  (serial.fits i .start phase held).start live rfl

/-- A shutdown in progress. -/
private theorem Serial.stopping (serial : Serial last s) (held : s.At i .shutdown phase)
    (live : phase.Live) : s.status = .stopping ∧ (last = some .start ↔ phase = .guarded) :=
  (serial.fits i .shutdown phase held).shutdown live rfl

variable {hasAny : Bool} {a : Step}

/-- Beside the call that a step belongs to, nothing is in progress. -/
private theorem Serial.others (serial : Serial last s) (settled : SettledBegin [] s a)
    (ran : step hasAny s a = some s') (j : Nat) (op' : Op) (phase' : Phase)
    (held : s.At j op' phase') (live : phase'.Live) : j = a.call.2 := by
  have found := (step_spec ran).1
  cases finds : a.finds with
  | none =>
    have begins : ∃ i, a = .startBegin i ∨ a = .shutdownBegin i := by
      cases a <;> simp [Step.finds] at finds ⊢
    obtain ⟨i, begins⟩ := begins
    exact absurd live (serial.idle (settled i begins) held)
  | some phase =>
    rw [finds] at found
    exact serial.alone found (Step.live_of_finds finds) j op' phase' held live

/-- What a start's step finds and where it brings it fit together. -/
private theorem Serial.fits_start (serial : Serial last s) (settled : SettledBegin [] s a)
    (succeeds : HooksSucceed [a]) (ran : step hasAny s a = some s') (called : a.call.1 = .start) :
    Fits (a.hook.or last) (a.write s.status) .start (a.reaches s.status) ∧
      ∀ h, a.hook = some h → last ≠ some h := by
  have found := (step_spec ran).1
  cases a with
  | startBegin i =>
    refine ⟨?_, by simp [Step.hook]⟩
    by_cases running : s.status = .running
    · simp only [Step.write, Step.reaches, if_pos running]
      exact Fits.ofReturned (fun _ => serial.running running) (by simp)
    · have stopped := serial.stopped ((settled i (Or.inl rfl)).resolve_left running)
      simp only [Step.write, Step.reaches, if_neg running]
      exact Fits.ofStart (by simp [Step.hook, stopped])
  | startRefuse i =>
    exact ⟨Fits.ofReturned serial.running serial.stopped, by simp [Step.hook]⟩
  | startHookCall i =>
    obtain ⟨status, before⟩ := serial.starting found trivial
    rw [status]
    refine ⟨Fits.ofStart (by simp [Step.hook, Step.reaches]), ?_⟩
    intro h hook
    cases hook
    simpa using before
  | startHookReturn i result =>
    obtain ⟨status, before⟩ := serial.starting found trivial
    rw [status]
    refine ⟨?_, by simp [Step.hook]⟩
    cases result with
    | error e => exact absurd List.mem_cons_self (succeeds i e).1
    | ok _ => exact Fits.ofStart (by simpa [Step.hook, Step.reaches] using before)
  | startProbe i =>
    obtain ⟨status, before⟩ := serial.starting found trivial
    rw [status]
    exact ⟨Fits.ofStart (by simpa [Step.hook, Step.reaches] using before), by simp [Step.hook]⟩
  | startFinish i =>
    obtain ⟨_, before⟩ := serial.starting found trivial
    have hooked : last = some .start := before.mpr (by simp)
    exact ⟨Fits.ofReturned (fun _ => hooked) (by simp [Step.write]), by simp [Step.hook]⟩
  | shutdownBegin i | shutdownHookCall i | shutdownHookReturn i result | shutdownFinish i =>
    cases called

/-- What a shutdown's step finds and where it brings it fit together. -/
private theorem Serial.fits_shutdown (serial : Serial last s) (settled : SettledBegin [] s a)
    (succeeds : HooksSucceed [a]) (ran : step hasAny s a = some s') (called : a.call.1 = .shutdown) :
    Fits (a.hook.or last) (a.write s.status) .shutdown (a.reaches s.status) ∧
      ∀ h, a.hook = some h → last ≠ some h := by
  have found := (step_spec ran).1
  cases a with
  | shutdownBegin i =>
    refine ⟨?_, by simp [Step.hook]⟩
    by_cases stopped : s.status = .stopped
    · simp only [Step.write, Step.reaches, if_pos stopped]
      exact Fits.ofReturned (by simp) (fun _ => serial.stopped stopped)
    · have running := serial.running ((settled i (Or.inr rfl)).resolve_right stopped)
      simp only [Step.write, Step.reaches, if_neg stopped]
      exact Fits.ofShutdown (by simp [Step.hook, running])
  | shutdownHookCall i =>
    obtain ⟨status, before⟩ := serial.stopping found trivial
    rw [status]
    refine ⟨Fits.ofShutdown (by simp [Step.hook, Step.reaches]), ?_⟩
    intro h hook
    cases hook
    simp [before.mpr rfl]
  | shutdownHookReturn i result =>
    obtain ⟨status, before⟩ := serial.stopping found trivial
    rw [status]
    refine ⟨?_, by simp [Step.hook]⟩
    cases result with
    | error e => exact absurd List.mem_cons_self (succeeds i e).2
    | ok _ => exact Fits.ofShutdown (by simpa [Step.hook, Step.reaches] using before)
  | shutdownFinish i =>
    obtain ⟨_, before⟩ := serial.stopping found trivial
    have hooked : last ≠ some .start := by simpa using before
    exact ⟨Fits.ofReturned (by simp [Step.write]) (fun _ => hooked), by simp [Step.hook]⟩
  | startBegin i | startRefuse i | startHookCall i | startHookReturn i result | startProbe i
  | startFinish i => cases called

/-- A step keeps the calls serial, and a hook it calls is not the last one
called. -/
private theorem serial_step (serial : Serial last s) (settled : SettledBegin [] s a)
    (succeeds : HooksSucceed [a]) (ran : step hasAny s a = some s') :
    Serial (a.hook.or last) s' ∧ ∀ h, a.hook = some h → last ≠ some h := by
  have fits : Fits (a.hook.or last) (a.write s.status) a.call.1 (a.reaches s.status) ∧
      ∀ h, a.hook = some h → last ≠ some h := by
    cases called : a.call.1 with
    | start => exact serial.fits_start settled succeeds ran called
    | shutdown => exact serial.fits_shutdown settled succeeds ran called
  rw [(step_spec ran).2]
  exact ⟨Serial.advance (serial.others settled ran) fits.1, fits.2⟩

private theorem serial_init {hasAny : Bool} : Serial none (machine hasAny).init where
  fits i op phase held := by cases held
  running now := by cases now
  stopped _ := by simp
  one i j op op' phase phase' held := by cases held

private theorem hookCalls_snoc (steps : List Step) (a : Step) :
    hookCalls (steps ++ [a]) = hookCalls steps ++ a.hook.toList := by
  cases called : a.hook <;> simp [hookCalls, called]

/-- With every hook succeeding and every call beginning while the manager is
`Running` or `Stopped`, the hooks called alternate in every state of the run. -/
theorem hooks_alternate (hasAny : Bool) (steps : List Step) (succeed : HooksSucceed steps)
    (settled : (machine hasAny).Throughout SettledBegin steps) :
    (machine hasAny).InEveryState (fun done _ => (hookCalls done).IsChain (· ≠ ·)) steps := by
  intro done s front reached
  have kept : HooksSucceed done → Serial (hookCalls done).getLast? s ∧ (hookCalls done).IsChain (· ≠ ·) := by
    refine run_induction_throughout (P := fun done s => HooksSucceed done →
      Serial (hookCalls done).getLast? s ∧ (hookCalls done).IsChain (· ≠ ·)) ?_ ?_
      (settled.of_prefix front) reached
    · intro _
      exact ⟨serial_init, List.IsChain.nil⟩
    · intro done s a s' _ ih begins ran succeed
      obtain ⟨serial, chain⟩ := ih fun i e =>
        ⟨fun failed => (succeed i e).1 (List.mem_append_left _ failed),
          fun failed => (succeed i e).2 (List.mem_append_left _ failed)⟩
      obtain ⟨serial', differs⟩ := serial_step serial begins
        (fun i e => ⟨fun failed => (succeed i e).1 (List.mem_append_right _ failed),
          fun failed => (succeed i e).2 (List.mem_append_right _ failed)⟩) ran
      rw [hookCalls_snoc]
      constructor
      · cases called : a.hook <;> simpa [called] using serial'
      · refine chain.append ?_ ?_
        · cases a.hook <;> simp
        · intro x isLast y isHook same
          have called : a.hook = some y := by
            cases known : a.hook <;> simp_all
          exact differs y called (same ▸ isLast)
  exact (kept fun i e => ⟨fun failed => (succeed i e).1 (front.subset failed),
    fun failed => (succeed i e).2 (front.subset failed)⟩).2

private theorem settledBegin_of_found {done : List Step} {a : Step}
    (found : s.status = .running ∨ s.status = .stopped) : SettledBegin done s a := fun _ _ => found

private theorem settledBegin_of_inside {done : List Step} {a : Step}
    (inside : a.hook.isSome ∨ ∃ i r, a = .startHookReturn i r ∨ a = .startProbe i ∨ a = .startFinish i) :
    SettledBegin done s a := by
  rintro j (rfl | rfl) <;> simp [Step.hook] at inside

/-- A start, then a shutdown up to its hook. -/
theorem hooks_alternate_lifecycle :
    (machine true).InEveryState (fun done _ => (hookCalls done).IsChain (· ≠ ·))
      [.startBegin 0, .startHookCall 0, .startHookReturn 0 (.ok ()), .startProbe 0, .startFinish 0,
        .shutdownBegin 1, .shutdownHookCall 1] := by
  apply hooks_alternate true
  · intro i e
    simp
  · have begun : (machine true).Throughout SettledBegin [.startBegin 0] :=
      throughout_snoc.mpr ⟨throughout_nil, fun s ran => by
        cases ran
        exact settledBegin_of_found (Or.inr rfl)⟩
    have called := throughout_snoc.mpr ⟨begun, fun s _ =>
      settledBegin_of_inside (a := .startHookCall 0) (Or.inl rfl)⟩
    have returned := throughout_snoc.mpr ⟨called, fun s _ =>
      settledBegin_of_inside (Or.inr ⟨0, .ok (), Or.inl rfl⟩)⟩
    have probed := throughout_snoc.mpr ⟨returned, fun s _ =>
      settledBegin_of_inside (Or.inr ⟨0, .ok (), Or.inr (Or.inl rfl)⟩)⟩
    have started := throughout_snoc.mpr ⟨probed, fun s _ =>
      settledBegin_of_inside (Or.inr ⟨0, .ok (), Or.inr (Or.inr rfl)⟩)⟩
    have stopping : (machine true).Throughout SettledBegin (_ ++ [.shutdownBegin 1]) :=
      throughout_snoc.mpr ⟨started, fun s ran => by
        cases ran
        exact settledBegin_of_found (Or.inl rfl)⟩
    exact throughout_snoc.mpr ⟨stopping, fun s _ =>
      settledBegin_of_inside (a := .shutdownHookCall 1) (Or.inl rfl)⟩

/-- Two starts that overlap both call `start_background_tasks`. -/
theorem overlapping_starts_repeat_hook :
    let steps : List Step :=
      [.startBegin 0, .startBegin 1, .startHookCall 0, .startHookReturn 0 (.ok ()),
        .startHookCall 1, .startHookReturn 1 (.ok ())]
    (∃ s, (machine true).exec steps = some s) ∧ HooksSucceed steps ∧
      ¬ (machine true).InEveryState (fun done _ => (hookCalls done).IsChain (· ≠ ·)) steps := by
  refine ⟨⟨_, rfl⟩, fun i e => by simp, fun alternate => ?_⟩
  have chain : [Op.start, Op.start].IsChain (· ≠ ·) := alternate _ _ List.prefix_rfl rfl
  simp at chain

end EdgeBootstrap.ManagerSteps
