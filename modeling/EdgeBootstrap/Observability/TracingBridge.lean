import EdgeBootstrap.Library.Entries
import EdgeBootstrap.Library.Overlays
import EdgeBootstrap.Platform
import Mathlib.Data.List.Induction
import Mathlib.Data.String.Basic

/-! `TracingBridgeSpan`: the annotations of one invocation, exported as one JSON
object together with what the span is of and how long it took. Both are members
of the same object, and the annotations are written last. -/
namespace EdgeBootstrap
open Overlays

/-- The span; instants are in microseconds, the map is in key order. -/
structure TracingBridgeSpan where
  handlerId : String
  operation : String
  startedAt : Nat
  fields : List (String × Json)

namespace TracingBridgeSpan

def new (handlerId operation : String) (now : Nat) : TracingBridgeSpan :=
  ⟨handlerId, operation, now, []⟩

def record (self : TracingBridgeSpan) (key value : String) : TracingBridgeSpan :=
  { self with fields := Entries.insert key (.str value) self.fields }

/-- What the object has before the annotations; the duration is cut to 64 bits. -/
def reserved (self : TracingBridgeSpan) (now : Nat) : List (String × Json) :=
  Entries.insert "duration_us" (.num ((now - self.startedAt) % 2 ^ 64 : Nat))
    (Entries.insert "operation" (.str self.operation)
      (Entries.insert "handler_id" (.str self.handlerId) []))

/-- `finish`: the span it leaves, and what the backend has then. -/
def finish (self : TracingBridgeSpan) (now : Nat) (exported : List Json) :
    TracingBridgeSpan × List Json :=
  let span := self.fields.foldl (fun t entry => Entries.insert entry.1 entry.2 t) (self.reserved now)
  ({ self with fields := [] }, exported ++ [.obj span])

end TracingBridgeSpan

/-- `TracingBridgeHandlerTracer::start_span`. -/
def TracingBridgeHandlerTracer.startSpan (handlerId operation : String) (now : Nat) :
    TracingBridgeSpan := .new handlerId operation now

namespace TracingBridgeSpan

/-- The span after a sequence of annotations. -/
def recordAll (self : TracingBridgeSpan) (annotations : List (String × String)) : TracingBridgeSpan :=
  annotations.foldl (fun span a => span.record a.1 a.2) self

/-- The value recorded last under a key. -/
def lastRecorded (key : String) (annotations : List (String × String)) : Option String :=
  lastSet (fun a => if a.1 = key then some a.2 else none) annotations

/-- One object is exported, which has the span's identity, its duration, and the
value recorded last under each key. -/
def Faithful (handlerId operation : String) (elapsed : Nat) (annotations : List (String × String))
    (before after : List Json) : Prop :=
  ∃ members : List (String × Json), after = before ++ [.obj members] ∧
    members.lookup "handler_id" = some (.str handlerId) ∧
    members.lookup "operation" = some (.str operation) ∧
    members.lookup "duration_us" = some (.num elapsed) ∧
    ∀ key value, lastRecorded key annotations = some value → members.lookup key = some (.str value)

variable {span : TracingBridgeSpan} {annotations : List (String × String)}

theorem recordAll_snoc (span : TracingBridgeSpan) (annotations : List (String × String))
    (key value : String) :
    span.recordAll (annotations ++ [(key, value)]) = (span.recordAll annotations).record key value := by
  simp [recordAll]

/-- Annotations change nothing but the fields, which keep the last value of each
key. -/
theorem recordAll_spec (span : TracingBridgeSpan) (fresh : span.fields = [])
    (annotations : List (String × String)) :
    ∃ fields, span.recordAll annotations = { span with fields } ∧ Entries.Ordered fields ∧
      ∀ key, fields.lookup key = (lastRecorded key annotations).map .str := by
  induction annotations using List.reverseRecOn with
  | nil => exact ⟨[], by rw [← fresh]; rfl, List.Pairwise.nil, fun _ => rfl⟩
  | append_singleton annotations a ih =>
    obtain ⟨fields, recorded, ordered, held⟩ := ih
    refine ⟨Entries.insert a.1 (.str a.2) fields, ?_, ordered.insert _ _, fun key => ?_⟩
    · rw [recordAll_snoc, recorded]
      rfl
    · rw [Entries.lookup_insert, held, lastRecorded, lastRecorded, lastSet_append, lastSet_cons]
      by_cases same : a.1 = key
      · simp [same]
      · simp [same, Ne.symm same]

/-- The reserved members. -/
theorem lookup_reserved (span : TracingBridgeSpan) (now : Nat) :
    (span.reserved now).lookup "handler_id" = some (.str span.handlerId) ∧
      (span.reserved now).lookup "operation" = some (.str span.operation) ∧
      (span.reserved now).lookup "duration_us" =
        some (.num ((now - span.startedAt) % 2 ^ 64 : Nat)) := by
  simp [reserved, Entries.lookup_insert]

/-- A finished span has exported the last annotation of each key, and what is
reserved for a key where there is none. -/
theorem finish_spec (handlerId operation : String) (started now : Nat)
    (annotations : List (String × String)) (before : List Json) :
    ∃ members : List (String × Json),
      (((TracingBridgeHandlerTracer.startSpan handlerId operation started).recordAll
        annotations).finish now before).2 = before ++ [.obj members] ∧
      ∀ key, members.lookup key = ((lastRecorded key annotations).map .str).or
        (((TracingBridgeHandlerTracer.startSpan handlerId operation started).reserved now).lookup
          key) := by
  obtain ⟨fields, recorded, ordered, held⟩ :=
    recordAll_spec (TracingBridgeHandlerTracer.startSpan handlerId operation started) rfl annotations
  refine ⟨_, by rw [recorded]; rfl, fun key => ?_⟩
  rw [← held]
  exact Entries.lookup_foldl_insert key ordered.nodup _

/-- What a span exports is faithful exactly when its duration has 64 bits, no
annotation was recorded under the duration's key, and the last ones under the
other two say the same as the span. -/
theorem exported_span_faithful_iff (handlerId operation : String) (started elapsed : Nat)
    (annotations : List (String × String)) (before : List Json) :
    Faithful handlerId operation elapsed annotations before
        (((TracingBridgeHandlerTracer.startSpan handlerId operation started).recordAll
          annotations).finish (started + elapsed) before).2 ↔
      elapsed < 2 ^ 64 ∧ lastRecorded "duration_us" annotations = none ∧
        (∀ value, lastRecorded "handler_id" annotations = some value → value = handlerId) ∧
        (∀ value, lastRecorded "operation" annotations = some value → value = operation) := by
  obtain ⟨members, exported, held⟩ :=
    finish_spec handlerId operation started (started + elapsed) annotations before
  obtain ⟨idReserved, operationReserved, durationReserved⟩ := lookup_reserved
    (TracingBridgeHandlerTracer.startSpan handlerId operation started) (started + elapsed)
  have id_iff : members.lookup "handler_id" = some (.str handlerId) ↔
      ∀ value, lastRecorded "handler_id" annotations = some value → value = handlerId := by
    rw [held, idReserved]
    cases lastRecorded "handler_id" annotations <;> simp [TracingBridgeHandlerTracer.startSpan, new]
  have operation_iff : members.lookup "operation" = some (.str operation) ↔
      ∀ value, lastRecorded "operation" annotations = some value → value = operation := by
    rw [held, operationReserved]
    cases lastRecorded "operation" annotations <;> simp [TracingBridgeHandlerTracer.startSpan, new]
  have duration_iff : members.lookup "duration_us" = some (.num elapsed) ↔
      elapsed < 2 ^ 64 ∧ lastRecorded "duration_us" annotations = none := by
    rw [held, durationReserved]
    cases lastRecorded "duration_us" annotations with
    | none =>
      have cut : ((elapsed % 2 ^ 64 : Nat) : Int) = elapsed ↔ elapsed < 2 ^ 64 := by omega
      simpa [TracingBridgeHandlerTracer.startSpan, new] using cut
    | some value => simp
  have last (key value : String) (recorded : lastRecorded key annotations = some value) :
      members.lookup key = some (.str value) := by
    rw [held, recorded]
    rfl
  unfold Faithful
  rw [exported]
  constructor
  · rintro ⟨members', same, handlerId', operation', duration', _⟩
    have objects : members = members' := by simpa using same
    subst objects
    exact ⟨(duration_iff.mp duration').1, (duration_iff.mp duration').2, id_iff.mp handlerId',
      operation_iff.mp operation'⟩
  · rintro ⟨short, unrecorded, handlerId', operation'⟩
    exact ⟨members, rfl, id_iff.mpr handlerId', operation_iff.mpr operation',
      duration_iff.mpr ⟨short, unrecorded⟩, last⟩

/-- An annotation under the handler's own key takes its place. -/
theorem annotation_replaces_handler_id :
    let after := (((TracingBridgeHandlerTracer.startSpan "echo" "execute" 0).recordAll
      [("handler_id", "billing")]).finish 5 []).2
    after = [.obj [("duration_us", .num 5), ("handler_id", .str "billing"),
        ("operation", .str "execute")]] ∧
      ¬ Faithful "echo" "execute" 5 [("handler_id", "billing")] [] after := by
  intro after
  have exported : after = [.obj [("duration_us", .num 5), ("handler_id", .str "billing"),
      ("operation", .str "execute")]] := rfl
  refine ⟨exported, ?_⟩
  rintro ⟨members, same, handlerId, _⟩
  rw [exported] at same
  cases same
  have replaced : some (Json.str "billing") = some (.str "echo") := handlerId
  simp at replaced

end TracingBridgeSpan

end EdgeBootstrap
