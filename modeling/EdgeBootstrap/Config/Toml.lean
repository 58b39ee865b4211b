import EdgeBootstrap.Library.Entries
import Mathlib.Data.String.Basic

/-! TOML documents as the `toml` crate hands them to serde: values, tables in
key order, and the derived (de)serialisation of structs whose fields may be
absent. Reading text into a table is the crate's own work and a parameter. -/
namespace EdgeBootstrap.Toml

/-- A binary64 number, as its bit pattern; TOML has one NaN. -/
structure F64 where
  bits : UInt64
  one_nan : 0x7ff0000000000000 < bits.toNat % 2 ^ 63 → bits = 0x7ff8000000000000
  deriving DecidableEq

/-- `toml::Value`. A table lists its entries in key order; its integers are 64
bits wide. -/
inductive Value
  | str (s : String)
  | int (i : Int64)
  | float (x : F64)
  | bool (b : Bool)
  | datetime (text : String)
  | array (items : List Value)
  | table (entries : List (String × Value))

/-- `toml::Table`. -/
abbrev Table := List (String × Value)

/-- `toml::from_str` into a table. -/
structure Crate where
  parse : String → Except String Table

/-- The serde implementation of one type that another crate defines. -/
structure Codec (T : Type) where
  ser : T → Except String Value
  de : Value → Except String T
  de_ser : ∀ x v, ser x = .ok v → de v = .ok x

/-- The text of serde's error when a value has the wrong type. -/
abbrev TypeError := Value → String → String

section Scalars
variable (mismatch : TypeError)

/-- `String::deserialize`. -/
def deString : Value → Except String String
  | .str s => .ok s
  | v => .error (mismatch v "a string")

/-- `bool::deserialize`. -/
def deBool : Value → Except String Bool
  | .bool b => .ok b
  | v => .error (mismatch v "a boolean")

/-- `u64::deserialize`: an integer that is not negative. -/
def deU64 : Value → Except String UInt64
  | .int i => if 0 ≤ i.toInt then .ok (UInt64.ofNat i.toInt.toNat) else .error (mismatch (.int i) "u64")
  | v => .error (mismatch v "u64")

/-- `f64::deserialize`: a float, or an integer converted to one. -/
def deF64 (ofInt : Int64 → F64) : Value → Except String F64
  | .float x => .ok x
  | .int i => .ok (ofInt i)
  | v => .error (mismatch v "f64")

end Scalars

/-- `String::serialize`. -/
def serString (s : String) : Except String Value := .ok (.str s)

/-- `bool::serialize`. -/
def serBool (b : Bool) : Except String Value := .ok (.bool b)

/-- `u64::serialize`: TOML integers are signed, so the upper half is refused. -/
def serU64 (n : UInt64) : Except String Value :=
  if n.toNat < 2 ^ 63 then .ok (.int (Int64.ofNat n.toNat)) else .error "out-of-range value for u64 type"

/-- `f64::serialize`. -/
def serF64 (x : F64) : Except String Value := .ok (.float x)

/-- A field that is always written. -/
def required (v : Except String Value) : Except String (Option Value) := v.map some

/-- An `Option` field: `None` is left out of the table. -/
def optional {T : Type} (ser : T → Except String Value) : Option T → Except String (Option Value)
  | none => .ok none
  | some x => (ser x).map some

/-- The derived `Serialize` of a struct: every field in turn, absent ones left
out. -/
def serializeStruct : List (String × Except String (Option Value)) → Except String Table
  | [] => .ok []
  | (key, field) :: rest => do
    let value ← field
    let table ← serializeStruct rest
    return match value with
      | none => table
      | some v => Entries.insert key v table

/-- One `Option` field of a derived `Deserialize` under `#[serde(default)]`. -/
def field {T : Type} (de : Value → Except String T) (t : Table) (key : String) :
    Except String (Option T) :=
  match t.lookup key with
  | none => .ok none
  | some v => (de v).map some

/-- One plain field of a derived `Deserialize` under `#[serde(default)]`. -/
def fieldOr {T : Type} (de : Value → Except String T) (t : Table) (key : String) (default : T) :
    Except String T :=
  match t.lookup key with
  | none => .ok default
  | some v => de v

private theorem serializeStruct_cons {key : String} {entry : Except String (Option Value)}
    {rest : List (String × Except String (Option Value))} {t : Table}
    (ran : serializeStruct ((key, entry) :: rest) = .ok t) :
    ∃ value table, entry = .ok value ∧ serializeStruct rest = .ok table ∧
      (match value with
        | none => table
        | some v => Entries.insert key v table) = t := by
  simp only [serializeStruct] at ran
  cases entry with
  | error e => simp [bind, Except.bind] at ran
  | ok value =>
    cases below : serializeStruct rest with
    | error e => simp [below, bind, Except.bind] at ran
    | ok table => exact ⟨value, table, rfl, rfl, by simpa [below, bind, Except.bind, pure, Except.pure] using ran⟩

/-- A key no field of the struct carries is absent from its table. -/
theorem serializeStruct_lookup_absent {fields : List (String × Except String (Option Value))}
    {t : Table} (ran : serializeStruct fields = .ok t) {key : String}
    (absent : key ∉ fields.map Prod.fst) : t.lookup key = none := by
  induction fields generalizing t with
  | nil =>
    cases ran
    rfl
  | cons head rest ih =>
    obtain ⟨key', entry⟩ := head
    simp only [List.map_cons, List.mem_cons, not_or] at absent
    obtain ⟨value, table, _, below, rfl⟩ := serializeStruct_cons ran
    cases value with
    | none => exact ih below absent.2
    | some v => simpa [Entries.lookup_insert_of_ne absent.1] using ih below absent.2

/-- A serialised struct holds at each key exactly what the field there
serialised to. -/
theorem serializeStruct_lookup {fields : List (String × Except String (Option Value))} {t : Table}
    (ran : serializeStruct fields = .ok t) (distinct : (fields.map Prod.fst).Nodup)
    {key : String} {entry : Except String (Option Value)} (member : (key, entry) ∈ fields) :
    entry = .ok (t.lookup key) := by
  induction fields generalizing t with
  | nil => cases member
  | cons head rest ih =>
    obtain ⟨key', entry'⟩ := head
    simp only [List.map_cons, List.nodup_cons] at distinct
    obtain ⟨value, table, first, below, rfl⟩ := serializeStruct_cons ran
    rcases List.mem_cons.mp member with here | later
    · cases here
      cases value with
      | none => simpa [serializeStruct_lookup_absent below distinct.1] using first
      | some v => simpa using first
    · have apart : key ≠ key' := by
        rintro rfl
        exact distinct.1 (List.mem_map.mpr ⟨_, later, rfl⟩)
      rw [ih below distinct.2 later]
      cases value with
      | none => rfl
      | some v => simp [Entries.lookup_insert_of_ne apart]

section RoundTrip
variable {T : Type} {de : Value → Except String T} {ser : T → Except String Value}
  {t : Table} {key : String}

/-- An optional field comes back as it was written. -/
theorem field_of_optional (inverse : ∀ x v, ser x = .ok v → de v = .ok x) {x : Option T}
    (held : optional ser x = .ok (t.lookup key)) : field de t key = .ok x := by
  cases x with
  | none =>
    have absent : t.lookup key = none := (Except.ok.inj held).symm
    simp [field, absent]
  | some x =>
    cases written : ser x with
    | error e => simp [optional, written, Except.map] at held
    | ok v =>
      have present : t.lookup key = some v := by
        simpa [optional, written, Except.map, eq_comm] using held
      simp [field, present, inverse x v written, Except.map]

/-- A plain field comes back as it was written, whatever its default. -/
theorem fieldOr_of_required (inverse : ∀ x v, ser x = .ok v → de v = .ok x) {x d : T}
    (held : required (ser x) = .ok (t.lookup key)) : fieldOr de t key d = .ok x := by
  cases written : ser x with
  | error e => simp [required, written, Except.map] at held
  | ok v =>
    have present : t.lookup key = some v := by
      simpa [required, written, Except.map, eq_comm] using held
    simpa [fieldOr, present] using inverse x v written

/-- A field that is always written comes back as it was. -/
theorem field_of_required (inverse : ∀ x v, ser x = .ok v → de v = .ok x) {x : T}
    (held : required (ser x) = .ok (t.lookup key)) : field de t key = .ok (some x) :=
  field_of_optional inverse (x := some x) held

theorem deString_serString (mismatch : TypeError) (s : String) (v : Value)
    (written : serString s = .ok v) : deString mismatch v = .ok s := by
  cases written
  rfl

theorem deBool_serBool (mismatch : TypeError) (b : Bool) (v : Value)
    (written : serBool b = .ok v) : deBool mismatch v = .ok b := by
  cases written
  rfl

theorem deF64_serF64 (mismatch : TypeError) (ofInt : Int64 → F64) (x : F64) (v : Value)
    (written : serF64 x = .ok v) : deF64 mismatch ofInt v = .ok x := by
  cases written
  rfl

/-- A serialised struct is a table. -/
theorem table_of_serialized {fields : List (String × Except String (Option Value))} {v : Value}
    (written : (serializeStruct fields).map .table = .ok v) :
    ∃ t, serializeStruct fields = .ok t ∧ v = .table t := by
  cases ran : serializeStruct fields with
  | error e => simp [ran, Except.map] at written
  | ok t => exact ⟨t, rfl, by simpa [ran, Except.map, eq_comm] using written⟩

theorem deU64_serU64 (mismatch : TypeError) (n : UInt64) (v : Value)
    (written : serU64 n = .ok v) : deU64 mismatch v = .ok n := by
  by_cases small : n.toNat < 2 ^ 63
  · simp only [serU64, small, ↓reduceIte, Except.ok.injEq] at written
    subst written
    simp [deU64, Int64.toInt_ofNat_of_lt small]
  · rw [serU64, if_neg small] at written
    cases written

end RoundTrip

end EdgeBootstrap.Toml
