import Mathlib.Data.List.Sort

/-! Association lists kept in key order: a list stands for the map of its
entries, an insertion replaces the entry of its key, and a lookup after an
insertion is a lookup before it everywhere but at that key. -/
namespace Entries

variable {K V : Type*} [DecidableEq K] [LT K] [DecidableLT K]

/-- Set the entry of `k`, keeping the order of the keys. -/
def insert (k : K) (v : V) : List (K × V) → List (K × V)
  | [] => [(k, v)]
  | (k', v') :: rest =>
    if k = k' then (k, v) :: rest
    else if k < k' then (k, v) :: (k', v') :: rest
    else (k', v') :: insert k v rest

omit [LT K] [DecidableLT K] in
private theorem lookup_cons (k key : K) (value : V) (rest : List (K × V)) :
    ((key, value) :: rest).lookup k = if k = key then some value else rest.lookup k := by
  by_cases same : k = key
  · simp [same]
  · have differs : (k == key) = false := by simpa using same
    simp [List.lookup_cons, differs, same]

theorem lookup_insert (k k' : K) (v : V) (entries : List (K × V)) :
    (insert k v entries).lookup k' = if k' = k then some v else entries.lookup k' := by
  induction entries with
  | nil => simp [insert, lookup_cons]
  | cons entry rest ih =>
    obtain ⟨key, value⟩ := entry
    simp only [insert]
    split
    · rename_i replaced
      subst replaced
      by_cases same : k' = k <;> simp [lookup_cons, same]
    · split
      · simp [lookup_cons]
      · rename_i apart _
        by_cases here : k' = key
        · subst here
          simp [Ne.symm apart]
        · simp [lookup_cons, here, ih]

@[simp] theorem lookup_insert_self (k : K) (v : V) (entries : List (K × V)) :
    (insert k v entries).lookup k = some v := by
  simp [lookup_insert]

theorem lookup_insert_of_ne {k k' : K} (apart : k' ≠ k) (v : V) (entries : List (K × V)) :
    (insert k v entries).lookup k' = entries.lookup k' := by
  simp [lookup_insert, apart]

/-- Inserting entries whose keys differ overrides those of their keys and keeps
the others. -/
theorem lookup_foldl_insert (k : K) {overlay : List (K × V)}
    (distinct : (overlay.map Prod.fst).Nodup) (entries : List (K × V)) :
    (overlay.foldl (fun t entry => insert entry.1 entry.2 t) entries).lookup k =
      (overlay.lookup k).or (entries.lookup k) := by
  induction overlay generalizing entries with
  | nil => rfl
  | cons entry rest ih =>
    obtain ⟨key, value⟩ := entry
    obtain ⟨fresh, distinct⟩ := List.nodup_cons.mp distinct
    rw [List.foldl_cons, ih distinct, lookup_insert, lookup_cons]
    by_cases here : k = key
    · have absent : rest.lookup key = none := by
        rw [List.lookup_eq_none_iff]
        intro pair member
        have apart : key ≠ pair.1 := by
          intro same
          exact fresh (List.mem_map.mpr ⟨pair, member, same.symm⟩)
        simpa using apart
      simp [here, absent]
    · simp [here]

theorem eq_or_mem_of_mem_insert {k : K} {v : V} {entries : List (K × V)} {entry : K × V}
    (member : entry ∈ insert k v entries) : entry = (k, v) ∨ entry ∈ entries := by
  induction entries with
  | nil => exact .inl (List.mem_singleton.mp member)
  | cons head rest ih =>
    simp only [insert] at member
    split at member
    · exact (List.mem_cons.mp member).imp_right (List.mem_cons_of_mem _)
    split at member
    · exact List.mem_cons.mp member
    · rcases List.mem_cons.mp member with rfl | later
      · exact .inr List.mem_cons_self
      · exact (ih later).imp_right (List.mem_cons_of_mem _)

section Ordered
variable {entries entries' overlay : List (K × V)}

/-- The keys are in order, each of them once. -/
def Ordered (entries : List (K × V)) : Prop := entries.Pairwise fun x y => x.1 < y.1

variable [IsStrictTotalOrder K (· < ·)]

omit [DecidableEq K] [DecidableLT K] in
theorem Ordered.nodup (ordered : Ordered entries) : (entries.map Prod.fst).Nodup := by
  rw [List.Nodup, List.pairwise_map]
  exact ordered.imp fun {x y} less (same : x.1 = y.1) =>
    irrefl_of (· < ·) y.1 (by rwa [same] at less)

omit [DecidableLT K] in
/-- The entry of a key is the one that is looked up. -/
theorem Ordered.mem_iff (ordered : Ordered entries) (entry : K × V) :
    entry ∈ entries ↔ entries.lookup entry.1 = some entry.2 := by
  induction entries with
  | nil => simp
  | cons head rest ih =>
    obtain ⟨below, later⟩ := List.pairwise_cons.mp ordered
    obtain ⟨key, value⟩ := head
    rw [List.mem_cons, ih later, lookup_cons]
    by_cases here : entry.1 = key
    · have absent : rest.lookup entry.1 ≠ some entry.2 := by
        intro held
        have less := below entry ((ih later).mpr held)
        rw [here] at less
        exact irrefl_of (· < ·) key less
      rw [if_pos here, or_iff_left absent, Prod.ext_iff, Option.some.injEq, and_iff_right here,
        eq_comm]
    · simp [Prod.ext_iff, here]

omit [DecidableLT K] in
/-- Entries in order are determined by what is looked up in them. -/
theorem Ordered.ext (ordered : Ordered entries) (ordered' : Ordered entries')
    (same : ∀ k, entries.lookup k = entries'.lookup k) : entries = entries' := by
  have irrefl : Std.Irrefl fun x y : K × V => x.1 < y.1 := ⟨fun x => irrefl_of (· < ·) x.1⟩
  have antisymm : Std.Antisymm fun x y : K × V => x.1 < y.1 :=
    ⟨fun x y less more => absurd (trans_of (· < ·) less more) (irrefl_of (· < ·) x.1)⟩
  apply List.Pairwise.eq_of_mem_iff ordered ordered'
  intro entry
  rw [ordered.mem_iff, ordered'.mem_iff, same]

theorem Ordered.insert (ordered : Ordered entries) (k : K) (v : V) :
    Ordered (Entries.insert k v entries) := by
  induction entries with
  | nil => exact List.pairwise_singleton _ _
  | cons head rest ih =>
    obtain ⟨below, later⟩ := List.pairwise_cons.mp ordered
    obtain ⟨key, value⟩ := head
    simp only [Entries.insert]
    split
    · rename_i replaced
      subst replaced
      exact List.pairwise_cons.mpr ⟨below, later⟩
    split
    · rename_i less
      refine List.pairwise_cons.mpr ⟨fun entry member => ?_, ordered⟩
      rcases List.mem_cons.mp member with rfl | inside
      · exact less
      · exact trans_of (· < ·) less (below entry inside)
    · rename_i apart notLess
      have less : key < k := by
        rcases trichotomous_of (· < ·) k key with less | same | less
        · exact absurd less notLess
        · exact absurd same apart
        · exact less
      refine List.pairwise_cons.mpr ⟨fun entry member => ?_, ih later⟩
      rcases eq_or_mem_of_mem_insert member with rfl | inside
      · exact less
      · exact below entry inside

theorem Ordered.foldl_insert (ordered : Ordered entries) (overlay : List (K × V)) :
    Ordered (overlay.foldl (fun t entry => Entries.insert entry.1 entry.2 t) entries) := by
  induction overlay generalizing entries with
  | nil => exact ordered
  | cons entry overlay ih => exact ih (ordered.insert entry.1 entry.2)

end Ordered

end Entries
