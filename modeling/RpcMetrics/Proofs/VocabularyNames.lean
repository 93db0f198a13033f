import Mathlib.Logic.Function.Basic
import RpcMetrics.Filter
import RpcMetrics.Run

/-! # Reading names

Each word of the vocabulary is looked up by its name in the list of all words of
its kind.  As the list leaves none out and no two share a name, a text is read
as a word iff it is the word's name (`find?_name_eq_some_iff`), and it is refused
if it names nothing.  The text of a counter, which is made of such a name
or of a metric, tells which counter it is (`Count.series_injective`).
-/
namespace RpcMetrics

section Lookup
variable {α : Type} {all : List α} {name : α → String} {text : String}

/-- **A text is found to be a word iff it names it.** -/
theorem find?_name_eq_some_iff (hall : ∀ a, a ∈ all) (hname : Function.Injective name) {a : α} :
    (all.find? fun b => name b == text) = some a ↔ name a = text := by
  constructor
  · intro h
    simpa using List.find?_some h
  · intro h
    cases hfound : all.find? fun b => name b == text with
    | none => exact absurd (beq_iff_eq.2 h) (List.find?_eq_none.1 hfound a (hall a))
    | some b =>
      have hb : name b = text := by simpa using List.find?_some hfound
      rw [hname (hb.trans h.symm)]

/-- A text that names nothing is not found. -/
theorem find?_name_eq_none (h : ∀ a, name a ≠ text) :
    (all.find? fun b => name b == text) = none := by
  rw [List.find?_eq_none]
  intro a _ ha
  exact h a (beq_iff_eq.1 ha)

/-- Names that are read back differ. -/
theorem injective_of_read {read : String → Option α} (h : ∀ a, read (name a) = some a) :
    Function.Injective name := by
  intro a b hab
  have hread := h a
  rw [hab, h] at hread
  exact (Option.some.inj hread).symm

end Lookup

variable {text : String}

namespace Calculation

theorem name_injective : Function.Injective name := injective_of_read ofName?_name

theorem parse_eq_ok_iff {c : Calculation} : parse text = .ok c ↔ c.name = text := by
  have hall : ∀ c, c ∈ all := fun c => by cases c <;> decide
  rw [← find?_name_eq_some_iff hall name_injective, parse, ofName?]
  cases all.find? fun c => c.name == text <;> simp

theorem parse_of_unknown (h : ∀ c : Calculation, c.name ≠ text) :
    parse text = .error (.invalidArgument (.unknownCalculation text)) := by
  rw [parse, ofName?, find?_name_eq_none h]

end Calculation

namespace Temporality

theorem parse_of_unknown (h : ∀ t : Temporality, t.name ≠ text) :
    parse text = .error (.invalidArgument (.unknownTemporality text)) := by
  rw [parse, ofName?, find?_name_eq_none h]

end Temporality

namespace Role

theorem name_injective : Function.Injective name := by
  intro a b
  cases a <;> cases b <;> decide

theorem parse_eq_ok_iff {r : Role} : parse text = .ok r ↔ r.name = text := by
  have hall : ∀ r, r ∈ all := fun r => by cases r <;> decide
  rw [← find?_name_eq_some_iff hall name_injective, parse, ofName?]
  cases all.find? fun r => r.name == text <;> simp

end Role

namespace Comparison

theorem name_injective : Function.Injective name := injective_of_read ofName?_name

theorem ofName?_eq_some_iff {op : Comparison} : ofName? text = some op ↔ op.name = text := by
  have hall : ∀ c, c ∈ all := fun c => by cases c <;> decide
  exact find?_name_eq_some_iff hall name_injective

end Comparison

namespace GroupKind

theorem parse_of_unknown (h : ∀ k : GroupKind, k.name ≠ text) :
    parse text = .error (.invalidArgument (.unknownGroup text)) := by
  rw [parse, ofName?, find?_name_eq_none h]

end GroupKind

namespace Count

/-- The texts of the two kinds of counters part after what all texts begin with. -/
theorem series_query_ne (c : Calculation) (metric : String) :
    (query c).series ≠ (failedProbe metric).series := by
  intro h
  unfold series at h
  have hletter := congrArg (fun text => text.toList[12]?) h
  simp only [String.toList_append, List.append_assoc] at hletter
  rw [List.getElem?_append_left (by decide), List.getElem?_append_left (by decide)] at hletter
  exact absurd hletter (by decide)

/-- **The text of a counter tells which one it is.** -/
theorem series_injective : Function.Injective series := by
  intro first second h
  match first, second with
  | query c, query c' =>
    unfold series at h
    rw [String.append_left_inj, String.append_right_inj] at h
    rw [Calculation.name_injective h]
  | failedProbe metric, failedProbe metric' =>
    unfold series at h
    rw [String.append_left_inj, String.append_right_inj] at h
    rw [h]
  | query c, failedProbe metric => exact absurd h (series_query_ne c metric)
  | failedProbe metric, query c => exact absurd h.symm (series_query_ne c metric)

end Count
end RpcMetrics
