import EdgeBootstrap.Library.StepMachine
import EdgeBootstrap.Observability.TracingBridge

/-! Spans that are open at the same time, all exported to one backend. A call of
`finish` reads the clock, then takes the annotations under their lock, then
exports; annotations and other calls of `finish` may come in between, on the same
span as well. -/
namespace EdgeBootstrap.ConcurrentSpans
open StepMachine TracingBridgeSpan

/-- How far a call of `finish` has come, with the object it has so far. -/
inductive Finish
  | called
  | timed (span : List (String × Json))
  | merged (span : List (String × Json))
  | returned

/-- A span, and the calls of its `finish`. -/
structure OpenSpan where
  span : TracingBridgeSpan
  finishes : List Finish

structure State where
  spans : List OpenSpan
  exported : List Json

inductive Action
  | startSpan (handlerId operation : String) (now : Nat)
  | record (i : Nat) (key value : String)
  | finish (i : Nat)
  | time (i j : Nat) (now : Nat)
  | take (i j : Nat)
  | exportSpan (i j : Nat)

namespace Finish

/-- The members that are inserted first; `elapsed` is read for the last of them. -/
def time (now : Nat) (self : TracingBridgeSpan) : Finish → Option (TracingBridgeSpan × Finish × List Json)
  | .called => some (self, .timed (self.reserved now), [])
  | _ => none

/-- `mem::take`, and the loop over what it gave. -/
def take (self : TracingBridgeSpan) : Finish → Option (TracingBridgeSpan × Finish × List Json)
  | .timed span => some ({ self with fields := [] },
      .merged (self.fields.foldl (fun t entry => Entries.insert entry.1 entry.2 t) span), [])
  | _ => none

def exportSpan (self : TracingBridgeSpan) : Finish → Option (TracingBridgeSpan × Finish × List Json)
  | .merged span => some (self, .returned, [.obj span])
  | _ => none

end Finish

namespace OpenSpan

def record (key value : String) (self : OpenSpan) : Option (OpenSpan × List Json) :=
  some ({ self with span := self.span.record key value }, [])

def finish (self : OpenSpan) : Option (OpenSpan × List Json) :=
  some ({ self with finishes := self.finishes ++ [.called] }, [])

/-- A step of the call `j` of `finish`. -/
def advance (j : Nat) (f : TracingBridgeSpan → Finish → Option (TracingBridgeSpan × Finish × List Json))
    (self : OpenSpan) : Option (OpenSpan × List Json) :=
  (self.finishes[j]?.bind (f self.span)).map fun after =>
    (⟨after.1, self.finishes.set j after.2.1⟩, after.2.2)

end OpenSpan

/-- A step on the span `i`. -/
def State.onSpan (s : State) (i : Nat) (f : OpenSpan → Option (OpenSpan × List Json)) : Option State :=
  (s.spans[i]?.bind f).map fun after => ⟨s.spans.set i after.1, s.exported ++ after.2⟩

def step (s : State) : Action → Option State
  | .startSpan handlerId operation now =>
    some { s with spans := s.spans ++ [⟨TracingBridgeHandlerTracer.startSpan handlerId operation now, []⟩] }
  | .record i key value => s.onSpan i (OpenSpan.record key value)
  | .finish i => s.onSpan i OpenSpan.finish
  | .time i j now => s.onSpan i (OpenSpan.advance j (Finish.time now))
  | .take i j => s.onSpan i (OpenSpan.advance j Finish.take)
  | .exportSpan i j => s.onSpan i (OpenSpan.advance j Finish.exportSpan)

/-- Every order of the steps of tracers and spans with one backend. -/
def machine : StepMachine State Action where
  init := ⟨[], []⟩
  step := step

variable {s s' : State} {self self' : OpenSpan} {i j k : Nat}

/-- A step on a span, told by what it found. -/
theorem onSpan_spec {f : OpenSpan → Option (OpenSpan × List Json)} (stepped : s.onSpan i f = some s') :
    ∃ before after objects, s.spans[i]? = some before ∧ f before = some (after, objects) ∧
      s' = ⟨s.spans.set i after, s.exported ++ objects⟩ := by
  simp only [State.onSpan, Option.map_eq_some_iff, Option.bind_eq_some_iff] at stepped
  obtain ⟨⟨after, objects⟩, ⟨before, found, stepped⟩, rfl⟩ := stepped
  exact ⟨before, after, objects, found, stepped, rfl⟩

theorem advance_spec {objects : List Json}
    {f : TracingBridgeSpan → Finish → Option (TracingBridgeSpan × Finish × List Json)}
    (advanced : self.advance j f = some (self', objects)) :
    ∃ before span after, self.finishes[j]? = some before ∧ f self.span before = some (span, after, objects) ∧
      self' = ⟨span, self.finishes.set j after⟩ := by
  simp only [OpenSpan.advance, Option.map_eq_some_iff, Option.bind_eq_some_iff] at advanced
  obtain ⟨⟨span, after, objects⟩, ⟨before, found, stepped⟩, same⟩ := advanced
  cases same
  exact ⟨before, span, after, found, stepped, rfl⟩

/-- A call of `finish` with nothing between its steps is `TracingBridgeSpan.finish`. -/
theorem finish_steps (held : s.spans[i]? = some self) (now : Nat) :
    ∃ actions, machine.execFrom s actions =
      some ⟨s.spans.set i ⟨(self.span.finish now s.exported).1, self.finishes ++ [.returned]⟩,
        (self.span.finish now s.exported).2⟩ := by
  obtain ⟨bound, rfl⟩ := List.getElem?_eq_some_iff.mp held
  let j := s.spans[i].finishes.length
  refine ⟨[.finish i, .time i j now, .take i j, .exportSpan i j], ?_⟩
  simp [machine, step, State.onSpan, OpenSpan.finish, OpenSpan.advance, Finish.time, Finish.take,
    Finish.exportSpan, bound, j, TracingBridgeSpan.finish]

section Histories

/-- The spans as they were started, in order. -/
def started (history : List Action) : List TracingBridgeSpan :=
  history.filterMap fun
    | .startSpan handlerId operation now => some (TracingBridgeHandlerTracer.startSpan handlerId operation now)
    | _ => none

/-- The calls of `finish` that exported, in order. -/
def exports (history : List Action) : List (Nat × Nat) :=
  history.filterMap fun
    | .exportSpan i j => some (i, j)
    | _ => none

/-- What an action does to the annotations of a span that no call has taken. -/
def pendingAfter (i : Nat) (annotations : List (String × String)) : Action → List (String × String)
  | .record k key value => if k = i then annotations ++ [(key, value)] else annotations
  | .take k _ => if k = i then [] else annotations
  | _ => annotations

/-- The annotations recorded on a span since a call of its `finish` last took them. -/
def pending (i : Nat) (history : List Action) : List (String × String) :=
  history.foldl (pendingAfter i) []

/-- The object of a call of `finish`: it took the annotations that were pending then,
and its duration ends when it read the clock. -/
def ObjectOf (history : List Action) (call : Nat × Nat) (object : Json) : Prop :=
  ∃ pre post span now members, history = pre ++ .take call.1 call.2 :: post ∧
    .time call.1 call.2 now ∈ pre ∧ (started pre)[call.1]? = some span ∧ object = .obj members ∧
    ∀ key, members.lookup key =
      ((lastRecorded key (pending call.1 pre)).map .str).or ((span.reserved now).lookup key)

variable {history : List Action} {action : Action} {call : Nat × Nat} {object : Json}

theorem ObjectOf.snoc (made : ObjectOf history call object) : ObjectOf (history ++ [action]) call object := by
  obtain ⟨pre, post, span, now, members, rfl, rest⟩ := made
  exact ⟨pre, post ++ [action], span, now, members, by simp, rest⟩

@[simp] theorem pending_snoc :
    pending i (history ++ [action]) = pendingAfter i (pending i history) action := by
  simp [pending]

/-- An action of another span, or of none. -/
def Elsewhere (i : Nat) : Action → Prop
  | .startSpan _ _ _ => True
  | .record k _ _ | .finish k | .time k _ _ | .take k _ | .exportSpan k _ => k ≠ i

theorem pending_elsewhere (elsewhere : Elsewhere i action) :
    pending i (history ++ [action]) = pending i history := by
  cases action with
  | record k _ _ | take k _ => simp [pendingAfter, show k ≠ i from elsewhere]
  | startSpan _ _ _ | finish _ | time _ _ _ | exportSpan _ _ => simp [pendingAfter]

theorem exports_elsewhere (elsewhere : Elsewhere i action) :
    (i, j) ∈ exports (history ++ [action]) ↔ (i, j) ∈ exports history := by
  cases action with
  | exportSpan k _ => simp [exports, Ne.symm (show k ≠ i from elsewhere)]
  | startSpan _ _ _ | record _ _ _ | finish _ | time _ _ _ | take _ _ => simp [exports]

theorem started_snoc {span : TracingBridgeSpan} (at_ : (started history)[i]? = some span) :
    (started (history ++ [action]))[i]? = some span := by
  have bound := (List.getElem?_eq_some_iff.mp at_).1
  rw [started, List.filterMap_append, List.getElem?_append_left (by exact bound)]
  exact at_

end Histories

/-- What holds of the call `j` of the `finish` of the span `i` after a history. -/
def FinishSound (history : List Action) (i : Nat) (span : TracingBridgeSpan) (j : Nat) : Finish → Prop
  | .called => (i, j) ∉ exports history
  | .timed members => (i, j) ∉ exports history ∧
      ∃ now, .time i j now ∈ history ∧ members = span.reserved now
  | .merged members => (i, j) ∉ exports history ∧ ObjectOf history (i, j) (.obj members)
  | .returned => (i, j) ∈ exports history

/-- What holds of the annotations of the span `i` after a history. -/
structure FieldsSound (history : List Action) (i : Nat) (span : TracingBridgeSpan) : Prop where
  start : (started history)[i]? = some { span with fields := [] }
  ordered : Entries.Ordered span.fields
  fields : ∀ key, span.fields.lookup key = (lastRecorded key (pending i history)).map .str

structure SpanSound (history : List Action) (i : Nat) (opened : OpenSpan) : Prop
    extends FieldsSound history i opened.span where
  finishes : ∀ j f, opened.finishes[j]? = some f → FinishSound history i opened.span j f
  fresh : ∀ j, opened.finishes.length ≤ j → (i, j) ∉ exports history

structure Sound (history : List Action) (s : State) : Prop where
  spans : ∀ i self, s.spans[i]? = some self → SpanSound history i self
  fresh : ∀ i, s.spans.length ≤ i → pending i history = [] ∧ ∀ j, (i, j) ∉ exports history
  length : s.spans.length = (started history).length
  exported : List.Forall₂ (ObjectOf history) (exports history) s.exported
  once : (exports history).Nodup

variable {history : List Action} {action : Action}

theorem FinishSound.later {span span' : TracingBridgeSpan} {f : Finish}
    (same : (i, j) ∈ exports (history ++ [action]) ↔ (i, j) ∈ exports history)
    (reserved : ∀ now, span'.reserved now = span.reserved now)
    (sound : FinishSound history i span j f) : FinishSound (history ++ [action]) i span' j f := by
  cases f with
  | called => exact fun held => sound (same.mp held)
  | timed members =>
    obtain ⟨unexported, now, timed, rfl⟩ := sound
    exact ⟨fun held => unexported (same.mp held), now, List.mem_append_left _ timed, (reserved now).symm⟩
  | merged members => exact ⟨fun held => sound.1 (same.mp held), sound.2.snoc⟩
  | returned => exact same.mpr sound

theorem FieldsSound.elsewhere {span : TracingBridgeSpan} (sound : FieldsSound history i span)
    (unchanged : pending i (history ++ [action]) = pending i history) :
    FieldsSound (history ++ [action]) i span where
  start := started_snoc sound.start
  ordered := sound.ordered
  fields := by
    rw [unchanged]
    exact sound.fields

theorem SpanSound.elsewhere (sound : SpanSound history i self) (other : Elsewhere i action) :
    SpanSound (history ++ [action]) i self where
  toFieldsSound := sound.toFieldsSound.elsewhere (pending_elsewhere other)
  finishes j f held := (sound.finishes j f held).later (exports_elsewhere other) fun _ => rfl
  fresh j late held := sound.fresh j late ((exports_elsewhere other).mp held)

/-- A step of one call of `finish`; the others stay as they are. -/
theorem SpanSound.advance {span : TracingBridgeSpan} {before after : Finish}
    (sound : SpanSound history i self) (found : self.finishes[j]? = some before)
    (fields : FieldsSound (history ++ [action]) i span)
    (reserved : ∀ now, span.reserved now = self.span.reserved now)
    (others : ∀ k, k ≠ j → ((i, k) ∈ exports (history ++ [action]) ↔ (i, k) ∈ exports history))
    (moved : FinishSound (history ++ [action]) i span j after) :
    SpanSound (history ++ [action]) i ⟨span, self.finishes.set j after⟩ where
  toFieldsSound := fields
  finishes k f held := by
    have bound := (List.getElem?_eq_some_iff.mp found).1
    by_cases same : j = k
    · subst same
      simp only [List.getElem?_set_self bound, Option.some.injEq] at held
      exact held ▸ moved
    · simp only [List.getElem?_set_ne same] at held
      exact (sound.finishes k f held).later (others k (Ne.symm same)) reserved
  fresh k late held := by
    have bound := (List.getElem?_eq_some_iff.mp found).1
    simp only [List.length_set] at late
    exact sound.fresh k late ((others k (by omega)).mp held)

/-- A step on a span is elsewhere for the others: only that span, and what it exports,
are left to look at. -/
theorem Sound.onSpan {f : OpenSpan → Option (OpenSpan × List Json)} (sound : Sound history s)
    (stepped : s.onSpan i f = some s') (unstarted : started (history ++ [action]) = started history)
    (others : ∀ k, k ≠ i → Elsewhere k action)
    (own : ∀ before after objects, s.spans[i]? = some before → f before = some (after, objects) →
      SpanSound (history ++ [action]) i after ∧
        (objects = [] ∧ exports (history ++ [action]) = exports history ∨
          ∃ j object, objects = [object] ∧ exports (history ++ [action]) = exports history ++ [(i, j)] ∧
            (i, j) ∉ exports history ∧ ObjectOf history (i, j) object)) :
    Sound (history ++ [action]) s' := by
  obtain ⟨before, after, objects, found, moved, rfl⟩ := onSpan_spec stepped
  obtain ⟨soundAfter, made⟩ := own before after objects found moved
  have bound := (List.getElem?_eq_some_iff.mp found).1
  have carried : List.Forall₂ (ObjectOf (history ++ [action])) (exports history) s.exported :=
    sound.exported.imp fun _ _ => ObjectOf.snoc
  constructor
  · intro k self held
    by_cases same : i = k
    · subst same
      simp only [List.getElem?_set_self bound, Option.some.injEq] at held
      exact held ▸ soundAfter
    · simp only [List.getElem?_set_ne same] at held
      exact (sound.spans k self held).elsewhere (others k (Ne.symm same))
  · intro k late
    rw [List.length_set] at late
    have other := others k (by omega)
    obtain ⟨none, unexported⟩ := sound.fresh k late
    exact ⟨(pending_elsewhere other).trans none, fun j held => unexported j ((exports_elsewhere other).mp held)⟩
  · rw [List.length_set, unstarted, sound.length]
  · rcases made with ⟨rfl, same⟩ | ⟨j, object, rfl, same, _, object'⟩
    · rw [same, List.append_nil]
      exact carried
    · rw [same]
      exact List.rel_append carried (.cons object'.snoc .nil)
  · rcases made with ⟨_, same⟩ | ⟨j, _, _, same, new, _⟩
    · rw [same]
      exact sound.once
    · rw [same, ← List.concat_eq_append]
      exact sound.once.concat new

theorem lastRecorded_snoc (key : String) (annotations : List (String × String)) (a : String × String) :
    lastRecorded key (annotations ++ [a]) = if a.1 = key then some a.2 else lastRecorded key annotations := by
  rw [lastRecorded, lastRecorded, Overlays.lastSet_append, Overlays.lastSet_cons]
  split <;> simp

/-- An annotation is pending, the last one of its key. -/
theorem FieldsSound.record {span : TracingBridgeSpan} (sound : FieldsSound history i span)
    (key value : String) : FieldsSound (history ++ [.record i key value]) i (span.record key value) where
  start := started_snoc sound.start
  ordered := sound.ordered.insert _ _
  fields key' := by
    rw [pending_snoc, pendingAfter, if_pos rfl, lastRecorded_snoc, TracingBridgeSpan.record,
      Entries.lookup_insert, sound.fields]
    by_cases same : key = key'
    · simp [same]
    · simp [same, Ne.symm same]

/-- What is taken is not pending any more. -/
theorem FieldsSound.take {span : TracingBridgeSpan} (sound : FieldsSound history i span) :
    FieldsSound (history ++ [.take i j]) i { span with fields := [] } where
  start := started_snoc sound.start
  ordered := List.Pairwise.nil
  fields key := by
    rw [pending_snoc, pendingAfter, if_pos rfl]
    rfl

/-- The object of a call of `finish` is what was pending, over what was reserved. -/
theorem objectOf_take {span : TracingBridgeSpan} {members : List (String × Json)} {now : Nat}
    (sound : FieldsSound history i span) (timed : .time i j now ∈ history)
    (reserved : members = span.reserved now) :
    ObjectOf (history ++ [.take i j]) (i, j)
      (.obj (span.fields.foldl (fun t entry => Entries.insert entry.1 entry.2 t) members)) := by
  subst reserved
  refine ⟨history, [], _, now, _, rfl, timed, sound.start, rfl, fun key => ?_⟩
  rw [Entries.lookup_foldl_insert key sound.ordered.nodup, sound.fields]
  rfl

theorem exports_snoc_of_ne (other : ∀ i j, action ≠ .exportSpan i j) :
    exports (history ++ [action]) = exports history := by
  cases action with
  | exportSpan i j => exact absurd rfl (other i j)
  | startSpan _ _ _ | record _ _ _ | finish _ | time _ _ _ | take _ _ => simp [exports]

theorem exports_snoc : exports (history ++ [.exportSpan i j]) = exports history ++ [(i, j)] := by
  simp [exports]

/-- A new span has no annotations and no calls. -/
theorem Sound.startSpan (sound : Sound history s) (handlerId operation : String) (now : Nat) :
    Sound (history ++ [.startSpan handlerId operation now])
      { s with spans := s.spans ++ [⟨TracingBridgeHandlerTracer.startSpan handlerId operation now, []⟩] } := by
  have same : exports (history ++ [.startSpan handlerId operation now]) = exports history := exports_snoc_of_ne (by simp)
  have unchanged (k : Nat) :
      pending k (history ++ [.startSpan handlerId operation now]) = pending k history :=
    pending_elsewhere trivial
  have starts : started (history ++ [.startSpan handlerId operation now]) =
      started history ++ [TracingBridgeHandlerTracer.startSpan handlerId operation now] := by
    simp [started]
  constructor
  · intro k self held
    rw [List.getElem?_append] at held
    split at held
    · exact (sound.spans k self held).elsewhere trivial
    · have last : k = s.spans.length := by
        have inside := (List.getElem?_eq_some_iff.mp held).1
        simp only [List.length_singleton] at inside
        omega
      subst last
      simp only [Nat.sub_self, List.getElem?_cons_zero, Option.some.injEq] at held
      subst held
      obtain ⟨none, unexported⟩ := sound.fresh _ (Nat.le_refl _)
      refine ⟨⟨?_, List.Pairwise.nil, fun key => ?_⟩, fun j f held => by simp at held, fun j _ => ?_⟩
      · rw [starts, sound.length, List.getElem?_concat_length]
        rfl
      · rw [unchanged, none]
        rfl
      · rw [same]
        exact unexported j
  · intro k late
    rw [List.length_append, List.length_singleton] at late
    rw [unchanged, same]
    exact sound.fresh k (by omega)
  · rw [starts, List.length_append, List.length_append, sound.length]
    rfl
  · rw [same]
    exact sound.exported.imp fun _ _ => ObjectOf.snoc
  · rw [same]
    exact sound.once

theorem Sound.step (sound : Sound history s) (stepped : step s action = some s') :
    Sound (history ++ [action]) s' := by
  cases action with
  | startSpan handlerId operation now =>
    cases stepped
    exact sound.startSpan handlerId operation now
  | record i key value =>
    have same : exports (history ++ [.record i key value]) = exports history := exports_snoc_of_ne (by simp)
    refine sound.onSpan stepped (by simp [started]) (fun k other => Ne.symm other) ?_
    rintro before after objects found moved
    cases moved
    have own := sound.spans i before found
    refine ⟨⟨own.toFieldsSound.record key value, fun j f held => ?_, fun j late => ?_⟩, .inl ⟨rfl, same⟩⟩
    · exact (own.finishes j f held).later (by rw [same]) fun _ => rfl
    · rw [same]
      exact own.fresh j late
  | finish i =>
    have same : exports (history ++ [.finish i]) = exports history := exports_snoc_of_ne (by simp)
    refine sound.onSpan stepped (by simp [started]) (fun k other => Ne.symm other) ?_
    rintro before after objects found moved
    cases moved
    have own := sound.spans i before found
    refine ⟨⟨own.toFieldsSound.elsewhere (by simp [pendingAfter]), fun j f held => ?_, fun j late => ?_⟩,
      .inl ⟨rfl, same⟩⟩
    · rw [List.getElem?_append] at held
      split at held
      · exact (own.finishes j f held).later (by rw [same]) fun _ => rfl
      · have inside := (List.getElem?_eq_some_iff.mp held).1
        have last : j - before.finishes.length = 0 := by simpa using inside
        simp only [last, List.getElem?_cons_zero, Option.some.injEq] at held
        subst held
        exact fun exported => own.fresh j (by omega) (by rwa [same] at exported)
    · rw [List.length_append, List.length_singleton] at late
      rw [same]
      exact own.fresh j (by omega)
  | time i j now =>
    have same : exports (history ++ [.time i j now]) = exports history := exports_snoc_of_ne (by simp)
    refine sound.onSpan stepped (by simp [started]) (fun k other => Ne.symm other) ?_
    rintro before after objects found moved
    obtain ⟨f, span, f', finish, moved, rfl⟩ := advance_spec moved
    have own := sound.spans i before found
    cases f with
    | called =>
      cases moved
      refine ⟨own.advance finish (own.toFieldsSound.elsewhere (by simp [pendingAfter])) (fun _ => rfl)
        (fun k _ => by rw [same]) ⟨?_, now, by simp, rfl⟩, .inl ⟨rfl, same⟩⟩
      rw [same]
      exact own.finishes j _ finish
    | timed _ | merged _ | returned => cases moved
  | take i j =>
    have same : exports (history ++ [.take i j]) = exports history := exports_snoc_of_ne (by simp)
    refine sound.onSpan stepped (by simp [started]) (fun k other => Ne.symm other) ?_
    rintro before after objects found moved
    obtain ⟨f, span, f', finish, moved, rfl⟩ := advance_spec moved
    have own := sound.spans i before found
    cases f with
    | timed members =>
      cases moved
      obtain ⟨unexported, now, timed, reserved⟩ := own.finishes j _ finish
      refine ⟨own.advance finish own.toFieldsSound.take (fun _ => rfl) (fun k _ => by rw [same])
        ⟨?_, objectOf_take own.toFieldsSound timed reserved⟩, .inl ⟨rfl, same⟩⟩
      rw [same]
      exact unexported
    | called | merged _ | returned => cases moved
  | exportSpan i j =>
    have added : exports (history ++ [.exportSpan i j]) = exports history ++ [(i, j)] := exports_snoc
    refine sound.onSpan stepped (by simp [started]) (fun k other => Ne.symm other) ?_
    rintro before after objects found moved
    obtain ⟨f, span, f', finish, moved, rfl⟩ := advance_spec moved
    have own := sound.spans i before found
    cases f with
    | merged members =>
      cases moved
      obtain ⟨unexported, made⟩ := own.finishes j _ finish
      refine ⟨own.advance finish (own.toFieldsSound.elsewhere (by simp [pendingAfter])) (fun _ => rfl)
        (fun k other => by simp [added, other]) ?_, .inr ⟨j, _, rfl, added, unexported, made⟩⟩
      show (i, j) ∈ exports (history ++ [.exportSpan i j])
      simp [added]
    | called | timed _ | returned => cases moved

theorem sound_of_exec (ran : machine.exec history = some s) : Sound history s := by
  refine run_induction (P := Sound) ?_ (fun _ _ _ _ _ sound stepped => sound.step stepped) ran
  exact ⟨fun i self held => by simp [machine] at held, fun i _ => ⟨rfl, by simp [exports]⟩, rfl, .nil,
    List.nodup_nil⟩

/-- Whatever spans are open at the same time, and whenever they are annotated and
finished: the backend has one object for each call of `finish` that exported, in
that order, and each has the annotations recorded on that span between the taking
before and its own, the last one of each key. What is recorded later stays on the
span, and a call has returned exactly when its object is exported. -/
theorem spans_exported_once (history : List Action) (s : State) (ran : machine.exec history = some s) :
    (exports history).Nodup ∧ List.Forall₂ (ObjectOf history) (exports history) s.exported ∧
      ∀ (i : Nat) (self : OpenSpan), s.spans[i]? = some self →
        (∀ key, self.span.fields.lookup key = (lastRecorded key (pending i history)).map .str) ∧
        ∀ j, (i, j) ∈ exports history ↔ self.finishes[j]? = some .returned := by
  have sound := sound_of_exec ran
  refine ⟨sound.once, sound.exported, fun i self held => ?_⟩
  have own := sound.spans i self held
  refine ⟨own.fields, fun j => ?_⟩
  cases finish : self.finishes[j]? with
  | none => simpa using own.fresh j (List.getElem?_eq_none_iff.mp finish)
  | some f =>
    have call := own.finishes j f finish
    cases f with
    | called => simpa using (show (i, j) ∉ exports history from call)
    | timed _ | merged _ => simpa using call.1
    | returned => simpa using (show (i, j) ∈ exports history from call)

/-- Two calls of `finish` on one span, with an annotation between their taking, while
another span is open. -/
theorem spans_exported_once_overlapping :
    let history : List Action :=
      [.startSpan "echo" "execute" 0, .startSpan "sum" "execute" 1, .record 0 "order.id" "ord-42",
        .finish 0, .finish 0, .time 0 0 5, .time 0 1 6, .take 0 0, .record 0 "order.id" "ord-43",
        .record 1 "order.id" "ord-44", .take 0 1, .exportSpan 0 1, .exportSpan 0 0]
    ∃ s, machine.exec history = some s ∧
      (exports history).Nodup ∧ List.Forall₂ (ObjectOf history) (exports history) s.exported ∧
      ∀ (i : Nat) (self : OpenSpan), s.spans[i]? = some self →
        (∀ key, self.span.fields.lookup key = (lastRecorded key (pending i history)).map .str) ∧
        ∀ j, (i, j) ∈ exports history ↔ self.finishes[j]? = some .returned := by
  intro history
  obtain ⟨s, ran⟩ : ∃ s, machine.exec history = some s := ⟨_, rfl⟩
  exact ⟨s, ran, spans_exported_once history s ran⟩

end EdgeBootstrap.ConcurrentSpans
