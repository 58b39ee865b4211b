import EdgeBootstrap.Rust.Text

/-! Paths by their components. A path joined with a file name names a direct
child: it has one more component, whatever the path is. -/
namespace EdgeBootstrap.Rust

/-- `Path::components` on Unix: the root, a leading `.`, then every part that is
neither empty nor `.`. -/
def components (path : String) : List String :=
  let parts := split '/' path
  let names := parts.filter fun part => part ≠ "" ∧ part ≠ "."
  if path.toList.head? = some '/' then "/" :: names
  else if parts.head? = some "." then "." :: names
  else names

/-- A text that is a component of its own, and leads neither here nor up. -/
def IsFileName (name : String) : Prop :=
  name ≠ "" ∧ name ≠ "." ∧ name ≠ ".." ∧ '/' ∉ name.toList

instance (name : String) : Decidable (IsFileName name) := inferInstanceAs (Decidable (_ ∧ _))

theorem splitChars_ne_nil (sep : Char) (s : List Char) : splitChars sep s ≠ [] := by
  induction s with
  | nil => simp [splitChars]
  | cons c rest ih =>
    cases below : splitChars sep rest with
    | nil => exact absurd below ih
    | cons part parts =>
      simp only [splitChars, below]
      split <;> simp

theorem splitChars_of_not_mem {sep : Char} {s : List Char} (absent : sep ∉ s) :
    splitChars sep s = [s] := by
  induction s with
  | nil => rfl
  | cons c rest ih =>
    have apart : c ≠ sep := fun same => absent (by simp [same])
    have below : sep ∉ rest := fun member => absent (List.mem_cons_of_mem c member)
    simp [splitChars, ih below, apart]

/-- Splitting at a separator in the middle splits both sides. -/
theorem splitChars_append (sep : Char) (xs ys : List Char) :
    splitChars sep (xs ++ sep :: ys) = splitChars sep xs ++ splitChars sep ys := by
  induction xs with
  | nil =>
    cases right : splitChars sep ys with
    | nil => exact absurd right (splitChars_ne_nil sep ys)
    | cons part parts => simp [splitChars, right]
  | cons c rest ih =>
    cases left : splitChars sep rest with
    | nil => exact absurd left (splitChars_ne_nil sep rest)
    | cons part parts =>
      simp only [List.cons_append, splitChars, ih, left]
      split <;> rfl

/-- The components of two paths that split alike up to a last part: one ends
there or in a separator, the other in a file name. -/
private theorem components_of_parts {dir path name : String} (parts ends : List String)
    (file : IsFileName name) (some_part : parts ≠ []) (silent : ∀ part ∈ ends, part = "")
    (split_dir : split '/' dir = parts ++ ends) (split_path : split '/' path = parts ++ [name])
    (rooted : path.toList.head? = some '/' ↔ dir.toList.head? = some '/') :
    components path = components dir ++ [name] := by
  have first (rest : List String) : (parts ++ rest).head? = parts.head? := by
    cases parts with
    | nil => exact absurd rfl some_part
    | cons part parts => rfl
  have nothing : ends.filter (fun part => decide (part ≠ "" ∧ part ≠ ".")) = [] := by
    rw [List.filter_eq_nil_iff]
    intro part member
    simp [silent part member]
  have kept : [name].filter (fun part => decide (part ≠ "" ∧ part ≠ ".")) = [name] := by
    simp [file.1, file.2.1]
  unfold components
  simp only [split_dir, split_path, List.filter_append, nothing, kept, first, rooted,
    List.append_nil]
  split
  · rfl
  · split <;> rfl

/-- A path joined with a file name has that name as one more component. -/
theorem components_joinPath (dir : String) {name : String} (file : IsFileName name) :
    components (joinPath dir name) = components dir ++ [name] := by
  have slashless : splitChars '/' name.toList = [name.toList] := splitChars_of_not_mem file.2.2.2
  have relative : name.toList.head? ≠ some '/' := by
    intro absolute
    exact file.2.2.2 (List.mem_of_mem_head? absolute)
  have parts_ne (s : List Char) : (splitChars '/' s).map String.ofList ≠ [] := by
    simpa using splitChars_ne_nil '/' s
  unfold joinPath
  rw [if_neg relative]
  by_cases empty : dir = ""
  · subst empty
    have alone : split '/' name = [name] := by simp [split, slashless]
    have none : components "" = [] := by decide
    have unrooted : ¬ name.toList.head? = some '/' := relative
    rw [none, List.nil_append]
    simp [components, alone, unrooted, file.1, file.2.1]
  · by_cases ended : dir.toList.getLast? = some '/'
    · rw [if_pos (.inr ended)]
      obtain ⟨front, shape⟩ := List.getLast?_eq_some_iff.mp ended
      refine components_of_parts ((splitChars '/' front).map String.ofList) [""] file
        (parts_ne front) (by simp) ?_ ?_ ?_
      · simp [split, shape, splitChars_append, splitChars]
      · simp [split, shape, splitChars_append, slashless]
      · rw [String.toList_append, shape]
        cases front <;> simp
    · rw [if_neg (by simp [empty, ended])]
      have nonempty : dir.toList ≠ [] := by simpa using empty
      refine components_of_parts (split '/' dir) [] file (parts_ne dir.toList) (by simp) ?_ ?_ ?_
      · simp
      · simp [split, splitChars_append, slashless]
      · cases shape : dir.toList with
        | nil => exact absurd shape nonempty
        | cons c rest => simp [shape]

end EdgeBootstrap.Rust
