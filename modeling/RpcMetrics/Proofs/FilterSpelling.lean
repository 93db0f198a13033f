import RpcMetrics.Filter
import RpcMetrics.Proofs.DraftChecks
import RpcMetrics.Proofs.VocabularyNames

/-! # What the conditions of a request say

A condition is spelled as a key and a value.  A key is a field, or a field, two
underscores and the name of a comparison (`KeySays`); a value is a scalar or a
list of scalars (`ValueSays`).  Neither says how it is read.  Keys are read from
the right, up to the last two underscores in a row (`splitKey_eq_some_iff`), and
that is the place where the name begins, since no name holds an underscore: so a
field may hold underscores itself, also two in a row, also at its end.

**Conditions are read exactly** (`ofSpecs_exact`): all pairs that spell a
condition are read as these conditions, one each and in their order, anything
else is refused on account of a key, and a condition that is spelled in full
(`Condition.toSpec`) is read back.
-/
namespace RpcMetrics

theorem Comparison.underscore_notMem_name (op : Comparison) : '_' ∉ op.name.toList := by
  cases op <;> decide

/-! ### Scalars -/

namespace Json

/-- A text, a number or a truth value. -/
inductive IsScalar : Json → Prop
  | string (text : String) : IsScalar (.string text)
  | integer (n : Int) : IsScalar (.integer n)
  | float (x : Float) : IsScalar (.float x)
  | bool (value : Bool) : IsScalar (.bool value)

/-- A text as it is, and any other value as it is written. -/
def textForm : Json → String
  | .string text => text
  | value => value.write

theorem write_scalar {value : Json} (h : value.tokens = [.scalar value]) :
    value.write = String.ofList (scalarText value) := by
  rw [write, h, List.flatMap_singleton]
  rfl

/-- **A scalar is compared by its text form.** -/
theorem IsScalar.scalarText?_eq {value : Json} (h : value.IsScalar) :
    Filter.scalarText? value = some value.textForm := by
  cases h with
  | string text => rfl
  | integer n =>
    show _ = some (write (.integer n))
    rw [write_scalar rfl, scalarText, String.ofList_toList]
    rfl
  | float x =>
    show _ = some (write (.float x))
    rw [write_scalar rfl, scalarText, String.ofList_toList]
    rfl
  | bool value => cases value <;> rfl

theorem isScalar_of_scalarText? {value : Json} {text : String}
    (h : Filter.scalarText? value = some text) : value.IsScalar := by
  cases value with
  | string text => exact .string text
  | integer n => exact .integer n
  | float x => exact .float x
  | bool value => exact .bool value
  | null | array _ | object _ | unreadable => cases h

theorem scalarText?_eq_some_iff {value : Json} {text : String} :
    Filter.scalarText? value = some text ↔ value.IsScalar ∧ text = value.textForm := by
  constructor
  · intro h
    have hscalar := isScalar_of_scalarText? h
    rw [hscalar.scalarText?_eq] at h
    exact ⟨hscalar, (Option.some.inj h).symm⟩
  · rintro ⟨hscalar, rfl⟩
    exact hscalar.scalarText?_eq

/-- Scalars are compared by their text forms, and nothing is where one of a list is
no scalar. -/
theorem mapM_scalarText?_eq_some_iff {items : List Json} {texts : List String} :
    items.mapM Filter.scalarText? = some texts ↔
      (∀ item ∈ items, item.IsScalar) ∧ texts = items.map textForm := by
  induction items generalizing texts with
  | nil => simp [eq_comm]
  | cons item items ih =>
    rw [List.mapM_cons]
    simp only [Option.bind_eq_bind, Option.bind_eq_some_iff, scalarText?_eq_some_iff, ih,
      List.forall_mem_cons, List.map_cons]
    constructor
    · rintro ⟨_, ⟨hitem, rfl⟩, _, ⟨hitems, rfl⟩, h⟩
      exact ⟨⟨hitem, hitems⟩, (Option.some.inj h).symm⟩
    · rintro ⟨⟨hitem, hitems⟩, rfl⟩
      exact ⟨_, ⟨hitem, rfl⟩, _, ⟨hitems, rfl⟩, rfl⟩

end Json

namespace Filter

/-- **What a value says**: the text of a scalar, or the texts of a list of
scalars. -/
inductive ValueSays : Json → List String → Prop
  | scalar {value : Json} (h : value.IsScalar) : ValueSays value [value.textForm]
  | list {items : List Json} (h : ∀ item ∈ items, item.IsScalar) :
      ValueSays (.array items) (items.map Json.textForm)

theorem valueTexts?_eq_some_iff {value : Json} {texts : List String} :
    valueTexts? value = some texts ↔ ValueSays value texts := by
  constructor
  · intro h
    cases value with
    | array items =>
      obtain ⟨hitems, rfl⟩ := Json.mapM_scalarText?_eq_some_iff.1 h
      exact .list hitems
    | null | bool _ | integer _ | float _ | string _ | object _ | unreadable =>
      simp only [valueTexts?, Option.map_eq_some_iff] at h
      obtain ⟨text, htext, rfl⟩ := h
      obtain ⟨hscalar, rfl⟩ := Json.scalarText?_eq_some_iff.1 htext
      exact .scalar hscalar
  · intro h
    cases h with
    | scalar hscalar =>
      have htext := hscalar.scalarText?_eq
      cases hscalar <;> exact congrArg (Option.map ([·])) htext
    | list hitems => exact Json.mapM_scalarText?_eq_some_iff.2 ⟨hitems, rfl⟩

/-! ### Keys -/

/-- No two underscores stand in a row. -/
def Undivided (text : List Char) : Prop := ¬ ['_', '_'] <:+: text

theorem undivided_cons_iff {c : Char} {text : List Char} :
    Undivided (c :: text) ↔ ¬ (c = '_' ∧ ['_'] <+: text) ∧ Undivided text := by
  unfold Undivided
  rw [List.infix_cons_iff, List.cons_prefix_cons, not_or, eq_comm]

theorem undivided_reverse_iff {text : List Char} : Undivided text.reverse ↔ Undivided text := by
  have hturn : ['_', '_'].reverse <:+: text.reverse ↔ ['_', '_'] <:+: text := List.reverse_infix
  exact not_congr hturn

/-- A text without underscores is undivided even after one. -/
theorem undivided_of_notMem {text : List Char} (h : '_' ∉ text) : Undivided ('_' :: text) := by
  rw [undivided_cons_iff]
  constructor
  · rintro ⟨-, hsecond⟩
    exact h (hsecond.subset (List.mem_cons_self ..))
  · intro hlater
    exact h (hlater.subset (List.mem_cons_self ..))

theorem underscore_prefix_iff {passed rest : List Char} :
    ['_'] <+: passed ++ '_' :: rest ↔ ['_'] <+: passed ++ ['_'] := by
  cases passed <;> simp

/-- **The first two underscores in a row divide a text**: there are none in what
is passed before, not even with the first of these two. -/
theorem splitReversed_eq_some_iff {suffix text field after : List Char} :
    splitReversed suffix text = some (field, after) ↔
      ∃ passed rest, text = passed ++ '_' :: '_' :: rest ∧ Undivided (passed ++ ['_']) ∧
        field = rest.reverse ∧ after = passed.reverse ++ suffix := by
  fun_induction splitReversed suffix text with
  | case1 suffix rest =>
    constructor
    · intro h
      cases h
      exact ⟨[], rest, rfl, undivided_of_notMem List.not_mem_nil, rfl, rfl⟩
    · rintro ⟨passed, rest', htext, hfirst, rfl, rfl⟩
      cases passed with
      | nil =>
        cases htext
        rfl
      | cons c passed =>
        -- the text begins with two underscores, so no character can be passed
        obtain ⟨rfl, hrest⟩ := List.cons_eq_cons.1 htext
        have hsecond : ['_'] <+: passed ++ '_' :: '_' :: rest' := ⟨rest, hrest⟩
        exact absurd ⟨rfl, underscore_prefix_iff.1 hsecond⟩ (undivided_cons_iff.1 hfirst).1
  | case2 suffix c rest hdivides ih =>
    -- one character more is passed, which with the next does not make two underscores
    have hpass {passed rest' : List Char} (hrest : rest = passed ++ '_' :: '_' :: rest') :
        Undivided (c :: (passed ++ ['_'])) ↔ Undivided (passed ++ ['_']) := by
      rw [undivided_cons_iff]
      refine and_iff_right ?_
      rintro ⟨rfl, hsecond⟩
      rw [← underscore_prefix_iff, ← hrest] at hsecond
      obtain ⟨tail, rfl⟩ := hsecond
      exact hdivides tail rfl rfl
    rw [ih]
    constructor
    · rintro ⟨passed, rest', hrest, hfirst, rfl, rfl⟩
      exact ⟨c :: passed, rest', congrArg (c :: ·) hrest, (hpass hrest).2 hfirst, rfl, by simp⟩
    · rintro ⟨passed, rest', htext, hfirst, rfl, rfl⟩
      cases passed with
      | nil =>
        cases htext
        exact absurd rfl (hdivides _ rfl)
      | cons d passed =>
        obtain ⟨rfl, hrest⟩ := List.cons_eq_cons.1 htext
        exact ⟨passed, rest', hrest, (hpass hrest).1 hfirst, rfl, by simp⟩
  | case3 suffix => simp

theorem splitReversed_eq_none_iff {suffix text : List Char} :
    splitReversed suffix text = none ↔ Undivided text := by
  fun_induction splitReversed suffix text with
  | case1 suffix rest =>
    have hhere : ¬ Undivided ('_' :: '_' :: rest) :=
      fun h => h (List.prefix_append ['_', '_'] rest).isInfix
    simp [hhere]
  | case2 suffix c rest hdivides ih =>
    rw [ih, undivided_cons_iff]
    refine (and_iff_right ?_).symm
    rintro ⟨rfl, tail, rfl⟩
    exact hdivides tail rfl rfl
  | case3 suffix => simp [Undivided]

/-- **A key is divided at its last two underscores in a row**: none stand after
them, not even with the second of these two. -/
theorem splitKey_eq_some_iff {key field name : List Char} :
    splitKey key = some (field, name) ↔
      key = field ++ '_' :: '_' :: name ∧ Undivided ('_' :: name) := by
  rw [splitKey, splitReversed_eq_some_iff]
  constructor
  · rintro ⟨passed, rest, htext, hfirst, rfl, rfl⟩
    rw [← undivided_reverse_iff, List.reverse_append] at hfirst
    rw [List.append_nil]
    refine ⟨?_, hfirst⟩
    rw [← List.reverse_reverse key, htext]
    simp
  · rintro ⟨rfl, hlast⟩
    rw [← undivided_reverse_iff, List.reverse_cons] at hlast
    exact ⟨name.reverse, field.reverse, by simp, hlast, by simp, by simp⟩

theorem splitKey_eq_none_iff {key : List Char} : splitKey key = none ↔ Undivided key := by
  rw [splitKey, splitReversed_eq_none_iff, undivided_reverse_iff]

/-- **What a key says**: equality on a field without two underscores in a row, or
a comparison that is named after any field. -/
inductive KeySays : String → String → Comparison → Prop
  | plain {field : String} (named : field ≠ "") (undivided : Undivided field.toList) :
      KeySays field field .eq
  | suffixed {field : String} (named : field ≠ "") (op : Comparison) :
      KeySays (field ++ "__" ++ op.name) field op

theorem nonEmptyField_eq_ok_iff {key name field : String} {named op : Comparison} :
    nonEmptyField key name named = .ok (field, op) ↔ name ≠ "" ∧ field = name ∧ op = named := by
  unfold nonEmptyField
  by_cases h : name = ""
  · simp [h]
  · rw [if_neg (by simpa using h), Except.ok.injEq, Prod.mk.injEq]
    constructor
    · rintro ⟨rfl, rfl⟩
      exact ⟨h, rfl, rfl⟩
    · rintro ⟨-, rfl, rfl⟩
      exact ⟨rfl, rfl⟩

theorem KeySays.readKey_eq {key field : String} {op : Comparison} (h : KeySays key field op) :
    readKey key = .ok (field, op) := by
  unfold readKey
  cases h with
  | plain hnamed hundivided =>
    rw [splitKey_eq_none_iff.2 hundivided]
    exact nonEmptyField_eq_ok_iff.2 ⟨hnamed, rfl, rfl⟩
  | suffixed hnamed =>
    -- the two underscores before the name are the last, whatever the field holds
    have hsplit : splitKey (field ++ "__" ++ op.name).toList =
        some (field.toList, op.name.toList) := by
      rw [splitKey_eq_some_iff]
      exact ⟨by simp, undivided_of_notMem op.underscore_notMem_name⟩
    rw [hsplit]
    simp only [String.ofList_toList, Comparison.ofName?_name]
    exact nonEmptyField_eq_ok_iff.2 ⟨hnamed, rfl, rfl⟩

theorem keySays_of_readKey {key field : String} {op : Comparison}
    (h : readKey key = .ok (field, op)) : KeySays key field op := by
  unfold readKey at h
  cases hsplit : splitKey key.toList with
  | none =>
    rw [hsplit] at h
    obtain ⟨hnamed, rfl, rfl⟩ := nonEmptyField_eq_ok_iff.1 h
    exact .plain hnamed (splitKey_eq_none_iff.1 hsplit)
  | some parts =>
    obtain ⟨before, name⟩ := parts
    rw [hsplit] at h
    dsimp only at h
    cases hname : Comparison.ofName? (String.ofList name) with
    | none =>
      rw [hname] at h
      cases h
    | some _ =>
      rw [hname] at h
      obtain ⟨hnamed, rfl, rfl⟩ := nonEmptyField_eq_ok_iff.1 h
      have hkey : key = String.ofList before ++ "__" ++ op.name := by
        apply String.toList_inj.1
        rw [(splitKey_eq_some_iff.1 hsplit).1, Comparison.ofName?_eq_some_iff.1 hname]
        simp
      rw [hkey]
      exact .suffixed hnamed op

/-- **A key is read as what it says**, and only then. -/
theorem readKey_eq_ok_iff {key field : String} {op : Comparison} :
    readKey key = .ok (field, op) ↔ KeySays key field op :=
  ⟨keySays_of_readKey, KeySays.readKey_eq⟩

/-! ### Conditions -/

/-- **What a key and a value say together.** -/
def Spells (spec : Spec) (condition : Condition) : Prop :=
  KeySays spec.1 condition.field condition.op ∧ ValueSays spec.2 condition.values

theorem readSpec_eq_ok_iff {spec : Spec} {condition : Condition} :
    readSpec spec = .ok condition ↔ Spells spec condition := by
  obtain ⟨field, op, values⟩ := condition
  rw [readSpec, bind_eq_ok_iff, Spells, ← readKey_eq_ok_iff, ← valueTexts?_eq_some_iff]
  constructor
  · rintro ⟨⟨readField, readOp⟩, hkey, h⟩
    cases hvalues : valueTexts? spec.2 with
    | none =>
      rw [hvalues] at h
      cases h
    | some texts =>
      rw [hvalues] at h
      obtain ⟨rfl, rfl, rfl⟩ := Condition.mk.inj (Except.ok.inj h)
      exact ⟨hkey, rfl⟩
  · rintro ⟨hkey, hvalues⟩
    refine ⟨(field, op), hkey, ?_⟩
    rw [hvalues]
    rfl

theorem error_of_readKey {key : String} {failure : Failure} (h : readKey key = .error failure) :
    failure = .invalidArgument (.unknownOperator key) ∨
      failure = .invalidArgument (.missingField key) := by
  have hfield {field : String} {op : Comparison} (h : nonEmptyField key field op = .error failure) :
      failure = .invalidArgument (.missingField key) := by
    unfold nonEmptyField at h
    split at h
    · exact (Except.error.inj h).symm
    · cases h
  unfold readKey at h
  split at h
  · exact Or.inr (hfield h)
  · split at h
    · exact Or.inl (Except.error.inj h).symm
    · exact Or.inr (hfield h)

/-- What is wrong with a pair is told by its key. -/
theorem error_of_readSpec {spec : Spec} {failure : Failure} (h : readSpec spec = .error failure) :
    ∃ fault ∈ [ArgumentFault.unknownOperator spec.1, .missingField spec.1, .compoundValue spec.1],
      failure = .invalidArgument fault := by
  unfold readSpec at h
  rcases bind_eq_error_iff.1 h with hkey | ⟨read, -, hvalue⟩
  · rcases error_of_readKey hkey with rfl | rfl <;> exact ⟨_, by simp, rfl⟩
  · cases hvalues : valueTexts? spec.2 with
    | none =>
      rw [hvalues] at hvalue
      exact ⟨_, by simp, (Except.error.inj hvalue).symm⟩
    | some texts =>
      rw [hvalues] at hvalue
      cases hvalue

/-- **Pairs are read as the conditions that they spell**, one each. -/
theorem ofSpecs_eq_ok_iff {specs : List Spec} {filter : Filter} :
    ofSpecs specs = .ok filter ↔ List.Forall₂ Spells specs filter.conditions := by
  have hspells : specs.mapM readSpec = .ok filter.conditions ↔
      List.Forall₂ Spells specs filter.conditions := by
    simp only [mapM_eq_ok_iff, readSpec_eq_ok_iff]
  rw [← hspells, ofSpecs, bind_eq_ok_iff]
  constructor
  · rintro ⟨conditions, hread, h⟩
    obtain rfl := Except.ok.inj h
    exact hread
  · intro hread
    exact ⟨filter.conditions, hread, rfl⟩

/-- Pairs are read iff each key and each value says something. -/
theorem exists_ofSpecs_iff {specs : List Spec} :
    (∃ filter, ofSpecs specs = .ok filter) ↔ ∀ spec ∈ specs,
      (∃ field op, KeySays spec.1 field op) ∧ ∃ texts, ValueSays spec.2 texts := by
  simp only [ofSpecs_eq_ok_iff]
  constructor
  · rintro ⟨filter, hspells⟩ spec hspec
    obtain ⟨condition, -, hkey, hvalue⟩ := exists_of_forall₂ hspells.flip spec hspec
    exact ⟨⟨_, _, hkey⟩, _, hvalue⟩
  · intro h
    obtain ⟨conditions, hspells⟩ : ∃ conditions, List.Forall₂ Spells specs conditions := by
      refine exists_forall₂ fun spec hspec => ?_
      obtain ⟨⟨field, op, hkey⟩, texts, hvalue⟩ := h spec hspec
      exact ⟨⟨field, op, texts⟩, hkey, hvalue⟩
    exact ⟨⟨conditions⟩, hspells⟩

/-- What stops the reading is a fault of one of the pairs. -/
theorem error_of_ofSpecs {specs : List Spec} {failure : Failure}
    (h : ofSpecs specs = .error failure) : ∃ spec ∈ specs,
      ∃ fault ∈ [ArgumentFault.unknownOperator spec.1, .missingField spec.1,
        .compoundValue spec.1], failure = .invalidArgument fault := by
  rcases bind_eq_error_iff.1 h with hread | ⟨_, -, h⟩
  · obtain ⟨spec, hspec, hfault⟩ := exists_of_mapM_eq_error hread
    exact ⟨spec, hspec, error_of_readSpec hfault⟩
  · cases h

end Filter

namespace Condition

/-- A condition spelled in full: its comparison is named, and its values are
listed. -/
def toSpec (condition : Condition) : Filter.Spec :=
  (condition.field ++ "__" ++ condition.op.name, .ofTexts condition.values)

theorem spells_toSpec {condition : Condition} (h : condition.field ≠ "") :
    Filter.Spells condition.toSpec condition := by
  have htexts : (condition.values.map Json.string).map Json.textForm = condition.values := by
    simp [Function.comp_def, Json.textForm]
  have hlist : ∀ item ∈ condition.values.map Json.string, item.IsScalar := by
    intro item hitem
    obtain ⟨text, -, rfl⟩ := List.mem_map.1 hitem
    exact .string text
  have hsays := Filter.ValueSays.list hlist
  rw [htexts] at hsays
  exact ⟨.suffixed h condition.op, hsays⟩

end Condition

namespace Filter

/-- **Conditions are read exactly.**  Pairs are read iff each key and each value
says something; the conditions are then what the pairs spell, one for each and in
their order; what stops the reading is a fault of the argument that names a key;
and conditions on named fields are read back from their full spelling. -/
theorem ofSpecs_exact (specs : List Spec) :
    ((∃ filter, ofSpecs specs = .ok filter) ↔ ∀ spec ∈ specs,
      (∃ field op, KeySays spec.1 field op) ∧ ∃ texts, ValueSays spec.2 texts) ∧
    (∀ filter, ofSpecs specs = .ok filter ↔ List.Forall₂ Spells specs filter.conditions) ∧
    (∀ failure, ofSpecs specs = .error failure → ∃ spec ∈ specs,
      ∃ fault ∈ [ArgumentFault.unknownOperator spec.1, .missingField spec.1,
        .compoundValue spec.1], failure = .invalidArgument fault) ∧
    ∀ conditions : List Condition, (∀ condition ∈ conditions, condition.field ≠ "") →
      ofSpecs (conditions.map Condition.toSpec) = .ok ⟨conditions⟩ := by
  refine ⟨exists_ofSpecs_iff, fun _ => ofSpecs_eq_ok_iff, fun _ => error_of_ofSpecs, ?_⟩
  intro conditions h
  rw [ofSpecs_eq_ok_iff, List.forall₂_map_left_iff, List.forall₂_same]
  exact fun condition hcondition => Condition.spells_toSpec (h condition hcondition)

/-- Fields may end in underscores, consist of them or look like a comparison.  A key
that ends in two underscores names no comparison, and takes all other conditions
with it.  Values that are no texts are taken as they are written. -/
theorem ofSpecs_exact_underscores :
    let conditions : List Condition :=
      [⟨"a_", .eq, ["1", "2"]⟩, ⟨"__", .neq, []⟩, ⟨"size__gt", .lte, ["3"]⟩]
    let specs := conditions.map Condition.toSpec
    specs.map Prod.fst = ["a___eq", "____neq", "size__gt__lte"] ∧
      ofSpecs specs = .ok ⟨conditions⟩ ∧
      (∃ fault, ofSpecs (specs ++ [("a__", .string "1")]) = .error (.invalidArgument fault)) ∧
      ofSpecs [("zone", .array [.integer (-5), .bool true, .string "x y"])] =
        .ok ⟨[⟨"zone", .eq, ["-5", "true", "x y"]⟩]⟩ := by
  intro conditions specs
  have hmixed : Spells ("zone", .array [.integer (-5), .bool true, .string "x y"])
      ⟨"zone", .eq, ["-5", "true", "x y"]⟩ := by
    refine ⟨.plain (by decide) (splitKey_eq_none_iff.1 (by decide)), ?_⟩
    exact .list (by simp [Json.IsScalar.integer, Json.IsScalar.bool, Json.IsScalar.string])
  refine ⟨by decide, (ofSpecs_exact specs).2.2.2 conditions (by decide), ?_,
    ((ofSpecs_exact _).2.1 ⟨_⟩).2 (.cons hmixed .nil)⟩
  obtain ⟨hread, -, hrefused, -⟩ := ofSpecs_exact (specs ++ [("a__", .string "1")])
  cases hspecs : ofSpecs (specs ++ [("a__", .string "1")]) with
  | error failure =>
    obtain ⟨_, -, fault, -, hfault⟩ := hrefused failure hspecs
    exact ⟨fault, congrArg _ hfault⟩
  | ok filter =>
    obtain ⟨⟨field, op, hkey⟩, -⟩ := hread.1 ⟨filter, hspecs⟩ ("a__", .string "1") (by simp)
    have hnone : readKey "a__" = .error (.invalidArgument (.unknownOperator "a__")) := by cbv
    rw [← readKey_eq_ok_iff, hnone] at hkey
    cases hkey

end Filter
end RpcMetrics
