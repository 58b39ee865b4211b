import EdgeBootstrap.Library.PrometheusText
import Mathlib.Data.List.Nodup

/-! How the format groups a page: one line declares a family, before its samples,
and its samples stand together. A page that declares a family before each sample
is grouped when no family has two samples. -/
namespace PrometheusText

/-- What a line does for a family: declare its kind, or give a sample of it. -/
inductive Mark (F : Type*)
  | declares (family : F)
  | samples (family : F)
  deriving DecidableEq

section Grouping
variable {F : Type*} {families : List F} {f : F}

variable [DecidableEq F]

end Grouping

/-- What a line does for a family: a comment that declares its kind, or a line
that starts with its name. -/
def readMark (line : List Char) : Option (Mark (List Char)) :=
  match skip line with
  | '#' :: cs =>
    match tokens cs with
    | word :: name :: _ => if word = "TYPE".toList then some (.declares name) else none
    | _ => none
  | cs => (takeWord metricStart metricRest cs).map fun r => .samples r.1

section Reading
variable {name kind tail : List Char}

theorem readMark_typeText (named : isMetricName name = true) (known : kind ∈ kinds) :
    readMark (typeText name kind) = some (.declares name) := by
  have shape : typeText name kind = '#' :: ' ' :: ("TYPE".toList ++ ' ' :: (name ++ ' ' :: kind)) := rfl
  rw [shape, readMark, skip_cons (by decide)]
  simp only [tokens_type named known, if_true]

/-- A line that starts with a name is a sample of it. -/
theorem readMark_name (named : isMetricName name = true)
    (ends : ∀ c ∈ tail.head?, metricRest c = false) :
    readMark (name ++ tail) = some (.samples name) := by
  obtain ⟨c, cs, rfl, start, _⟩ := cons_of_isWord named
  have mark : c ≠ '#' := ne_of_class start (by decide)
  rw [readMark, List.cons_append, skip_cons (isBlank_of_metricStart start)]
  simp only [← List.cons_append]
  split
  · rename_i cs' shape
    cases shape
    exact absurd rfl mark
  · rw [takeWord_append named ends]
    rfl

end Reading

end PrometheusText
