import Mathlib
import RpcMetrics.Proofs.CalculationParts
import RpcMetrics.Proofs.ExpressionValue

/-! # What the rates mean

A store that counts (`Counting`) holds, for each metric of a table, a list of
series, each with the code of its calls, its other tags and how many calls it
counts.  It answers a sub-query for one value of each dimension at a time, a
tuple: the counts of the series of that tuple that meet the conditions are added
up, and if there are none there is no answer (`Counting.answer?`).  A query set
has a row for a tuple if each of its sub-queries has an answer for it and its
expression a value (`Counting.row?`).

Which series meet a condition on the code is fixed for equality and inequality
and left open for every other condition (`Counting.meets`), so the filter of a
group may be any.

**The rates are percentages of the calls that pass the filter of the group**
(`rates_of_calls`).  The success rate divides what it counts by all calls; the
other two count the calls that do *not* end in their code and take what is left,
so they have a row where there is another code, and they are zero there if their
own does not occur.  The counts add up because a sum splits by a predicate
(`total_filter_add`). -/
namespace RpcMetrics

/-! ### Series -/

/-- Calls with the same tags. -/
structure Series where
  code : String
  tags : String → Option String
  /-- How many calls there are. -/
  count : ℚ
  count_pos : 0 < count

/-- The value of a tag. -/
def Series.tag? (series : Series) (tag : String) : Option String :=
  if tag = "code_type" then some series.code else series.tags tag

/-- The calls of all series. -/
def total (list : List Series) : ℚ := (list.map Series.count).sum

/-- Where there are series there are calls. -/
theorem total_pos {list : List Series} (h : list ≠ []) : 0 < total list := by
  have hcounts : ∀ count ∈ list.map Series.count, 0 < count := by
    intro count hcount
    obtain ⟨series, -, rfl⟩ := List.mem_map.1 hcount
    exact series.count_pos
  exact List.sum_pos _ hcounts (mt List.map_eq_nil_iff.1 h)

theorem total_pos_of_filter {list : List Series} {p : Series → Bool} (h : list.filter p ≠ []) :
    0 < total list := by
  refine total_pos fun hnil => h ?_
  rw [hnil, List.filter_nil]

/-- **Calls split by a predicate.** -/
theorem total_filter_add (p : Series → Bool) (list : List Series) :
    total (list.filter p) + total (list.filter fun series => !p series) = total list := by
  have hperm : ((list.filter p ++ list.filter fun series => !p series).map Series.count).Perm
      (list.map Series.count) := (List.filter_append_perm p list).map _
  rw [total, total, total, ← hperm.sum_eq, List.map_append, List.sum_append]

/-- The calls that ended in a code. -/
def ending (code : String) (list : List Series) : List Series :=
  list.filter fun series => series.code = code

/-- The calls of series, if there are any. -/
def total? (list : List Series) : Option ℚ := if list.isEmpty then none else some (total list)

theorem total?_of_ne_nil {list : List Series} (h : list ≠ []) :
    total? list = some (total list) := by
  cases list with
  | nil => exact absurd rfl h
  | cons => rfl

/-! ### A store that counts -/

/-- A store that counts calls. -/
structure Counting where
  /-- The series of a metric of a table. -/
  series : String → String → List Series
  /-- Whether a series meets a condition that is not about its code. -/
  decides : Condition → Series → Bool

/-- A value for each dimension, or none where a series has none. -/
abbrev Tuple := String → Option String

namespace Counting
variable (store : Counting)

/-- Whether a series meets a condition. -/
def meets (condition : Condition) (series : Series) : Bool :=
  if condition.field = "code_type" then
    match condition.op with
    | .eq => condition.values.contains series.code
    | .neq => !condition.values.contains series.code
    | _ => store.decides condition series
  else store.decides condition series

theorem meets_equal (code : String) (series : Series) :
    store.meets (.equal "code_type" code) series = decide (series.code = code) := by
  simp [meets, Condition.equal]

theorem meets_unequal (code : String) (series : Series) :
    store.meets (.unequal "code_type" code) series = !decide (series.code = code) := by
  simp [meets, Condition.unequal]

/-- The series of a metric that have the values of a tuple and meet a filter. -/
def selected (table metric : String) (keys : List String) (filter : Filter) (tuple : Tuple) :
    List Series :=
  (store.series table metric).filter fun series =>
    keys.all (fun key => series.tag? key == tuple key) &&
      filter.conditions.all fun condition => store.meets condition series

/-- The answer to a sub-query for a tuple. -/
def answer? (query : Query) (tuple : Tuple) : Option ℚ :=
  total? (store.selected query.table query.metric query.groupBy query.filter tuple)

/-- The value in the row of a query set for a tuple, if it has one. -/
def row? (set : QuerySet) (tuple : Tuple) : Option ℚ :=
  if set.queries.all fun query => (store.answer? query tuple).isSome then
    (Expression.Formula.ofText? set.expression).bind fun formula =>
      formula.value? fun name => (set.query? name).bind fun query => store.answer? query tuple
  else none

/-- A row of two sub-queries is computed from their two answers, if there are
both. -/
theorem row?_pair {set : QuerySet} {first second : Query} {formula : Expression.Formula}
    (tuple : Tuple) (hqueries : set.queries = [first, second]) (hfirst : first.label = "a")
    (hsecond : second.label = "b")
    (hformula : Expression.Formula.ofText? set.expression = some formula) :
    ∃ named : String → Option ℚ, named "a" = store.answer? first tuple ∧
      named "b" = store.answer? second tuple ∧ store.row? set tuple =
        if (store.answer? first tuple).isSome && (store.answer? second tuple).isSome then
          formula.value? named
        else none := by
  refine ⟨fun name => (set.query? name).bind fun query => store.answer? query tuple, ?_, ?_, ?_⟩
  · simp [QuerySet.query?, hqueries, hfirst]
  · simp [QuerySet.query?, hqueries, hfirst, hsecond]
  · simp only [row?, hqueries, hformula, List.all_cons, List.all_nil, Bool.and_true,
      Option.bind_some]

end Counting

/-! ### Rates -/

/-- **A row is a rate of calls**: it is there iff one of the calls shows it, and
holds the percentage of the calls that ended in a code. -/
def IsRate (row : Option ℚ) (calls : List Series) (code : String) (shows : Series → Prop) : Prop :=
  ∀ rate, row = some rate ↔ (∃ series ∈ calls, shows series) ∧
    rate = 100 * total (ending code calls) / total calls

theorem isRate_of_cases {row : Option ℚ} {calls : List Series} {code : String}
    {shows : Series → Prop} {p : Series → Bool} (hp : ∀ series, p series = true ↔ shows series)
    (hnone : calls.filter p = [] → row = none)
    (hsome : calls.filter p ≠ [] → row = some (100 * total (ending code calls) / total calls)) :
    IsRate row calls code shows := by
  have hshows : calls.filter p = [] ↔ ¬ ∃ series ∈ calls, shows series := by
    simp only [List.filter_eq_nil_iff, hp, not_exists, not_and]
  intro rate
  by_cases hcounted : calls.filter p = []
  · rw [hnone hcounted]
    exact ⟨nofun, fun h => absurd h.1 (hshows.1 hcounted)⟩
  · rw [hsome hcounted, Option.some.injEq]
    exact ⟨fun h => ⟨not_not.1 (mt hshows.2 hcounted), h.symm⟩, fun h => h.2.symm⟩

namespace IsRate
variable {row : Option ℚ} {calls : List Series} {code : String}

/-- A rate is full where no other code occurs. -/
theorem eq_hundred (h : IsRate row calls code fun series => series.code = code)
    (hcalls : calls ≠ []) (hall : ∀ series ∈ calls, series.code = code) : row = some 100 := by
  obtain ⟨series, hseries⟩ := List.exists_mem_of_ne_nil calls hcalls
  refine (h 100).2 ⟨⟨series, hseries, hall series hseries⟩, ?_⟩
  have hending : ending code calls = calls :=
    List.filter_eq_self.2 fun series hseries => decide_eq_true (hall series hseries)
  rw [hending, mul_div_cancel_right₀ _ (total_pos hcalls).ne']

/-- A rate is zero, and not missing, where its code does not occur. -/
theorem eq_zero (h : IsRate row calls code fun series => series.code ≠ code)
    (hcalls : calls ≠ []) (hnone : ∀ series ∈ calls, series.code ≠ code) : row = some 0 := by
  obtain ⟨series, hseries⟩ := List.exists_mem_of_ne_nil calls hcalls
  refine (h 0).2 ⟨⟨series, hseries, hnone series hseries⟩, ?_⟩
  have hending : ending code calls = [] :=
    List.filter_eq_nil_iff.2 fun series hseries => by simp [hnone series hseries]
  rw [hending, total, List.map_nil, List.sum_nil, mul_zero, zero_div]

end IsRate

/-- **What the three rates of calls are.** -/
structure RatesOf (calls : List Series) (successRow timeoutRow exceptionRow : Option ℚ) :
    Prop where
  success : IsRate successRow calls "success" fun series => series.code = "success"
  timeout : IsRate timeoutRow calls "timeout" fun series => series.code ≠ "timeout"
  exception : IsRate exceptionRow calls "exception" fun series => series.code ≠ "exception"
  /-- Where all calls succeed, no rate is missing. -/
  succeeding : calls ≠ [] → (∀ series ∈ calls, series.code = "success") →
    successRow = some 100 ∧ timeoutRow = some 0 ∧ exceptionRow = some 0
  /-- Where there are no other codes, rates that are there make up all calls. -/
  complete : (∀ series ∈ calls, series.code = "success" ∨ series.code = "timeout" ∨
      series.code = "exception") →
    ∀ s t e, successRow = some s → timeoutRow = some t → exceptionRow = some e → s + t + e = 100

section RatesOf
variable {calls : List Series} {successRow timeoutRow exceptionRow : Option ℚ}

/-- Without other codes the calls split into those of the three codes. -/
theorem total_ending (h : ∀ series ∈ calls, series.code = "success" ∨ series.code = "timeout" ∨
      series.code = "exception") :
    total (ending "success" calls) + total (ending "timeout" calls) +
      total (ending "exception" calls) = total calls := by
  have hfirst := total_filter_add (fun series => decide (series.code = "success")) calls
  have hsecond := total_filter_add (fun series => decide (series.code = "timeout"))
    (calls.filter fun series => !decide (series.code = "success"))
  have htimeout : (calls.filter fun series => !decide (series.code = "success")).filter
      (fun series => decide (series.code = "timeout")) = ending "timeout" calls := by
    rw [List.filter_filter]
    refine List.filter_congr fun series _ => ?_
    by_cases hcode : series.code = "timeout" <;> simp [hcode]
  have hexception : (calls.filter fun series => !decide (series.code = "success")).filter
      (fun series => !decide (series.code = "timeout")) = ending "exception" calls := by
    rw [List.filter_filter]
    refine List.filter_congr fun series hseries => ?_
    rcases h series hseries with hcode | hcode | hcode <;> simp [hcode]
  rw [htimeout, hexception] at hsecond
  rw [← hfirst, ← hsecond, add_assoc]
  rfl

/-- **The three rates fit together.** -/
theorem ratesOf_of_isRate
    (hs : IsRate successRow calls "success" fun series => series.code = "success")
    (ht : IsRate timeoutRow calls "timeout" fun series => series.code ≠ "timeout")
    (he : IsRate exceptionRow calls "exception" fun series => series.code ≠ "exception") :
    RatesOf calls successRow timeoutRow exceptionRow := by
  refine ⟨hs, ht, he, fun hcalls hall => ?_, fun hcodes s t e hsuccess htimeout hexception => ?_⟩
  · have hother {code : String} (hcode : "success" ≠ code) : ∀ series ∈ calls,
        series.code ≠ code := fun series hseries => hall series hseries ▸ hcode
    exact ⟨hs.eq_hundred hcalls hall, ht.eq_zero hcalls (hother (by decide)),
      he.eq_zero hcalls (hother (by decide))⟩
  · obtain ⟨⟨series, hseries, -⟩, rfl⟩ := (hs s).1 hsuccess
    obtain ⟨-, rfl⟩ := (ht t).1 htimeout
    obtain ⟨-, rfl⟩ := (he e).1 hexception
    have htotal : total calls ≠ 0 := (total_pos (List.ne_nil_of_mem hseries)).ne'
    rw [← add_div, ← add_div, ← mul_add, ← mul_add, total_ending hcodes,
      mul_div_cancel_right₀ _ htotal]

end RatesOf

/-! ### Formulas of rates -/

namespace Expression.Formula
variable {named : String → Option ℚ} {x y : ℚ}

/-- The percentage that is counted. -/
def percentage : Formula :=
  .joined .times (.joined .divide (.name "a") (.name "b")) (.number ['1', '0', '0'])

/-- The percentage that is left. -/
def complement : Formula :=
  .joined .times (.joined .minus (.number ['1']) (.joined .divide (.name "a") (.name "b")))
    (.number ['1', '0', '0'])

theorem value?_percentage (ha : named "a" = some x) (hb : named "b" = some y) (hy : y ≠ 0) :
    percentage.value? named = some (x / y * 100) := by
  have hhundred : numberValue? ['1', '0', '0'] = some 100 := by rfl
  simp [percentage, value?, Operator.apply?, ha, hb, hy, hhundred]

theorem value?_complement (ha : named "a" = some x) (hb : named "b" = some y) (hy : y ≠ 0) :
    complement.value? named = some ((1 - x / y) * 100) := by
  have hone : numberValue? ['1'] = some 1 := by rfl
  have hhundred : numberValue? ['1', '0', '0'] = some 100 := by rfl
  simp [complement, value?, Operator.apply?, ha, hb, hy, hone, hhundred]

end Expression.Formula

/-! ### Sub-queries of rates -/

namespace Group
variable (group : Group) (store : Counting) (window : Window) (tuple : Tuple)

/-- The metric that counts the calls, at the end that the group is about. -/
def callsMetric : String :=
  match group.options.role with
  | .caller => "rpc_client_handled_total"
  | .callee => "rpc_server_handled_total"

theorem field_handledTotal : group.field .handledTotal = group.callsMetric := by
  unfold field callsMetric
  cases group.options.role <;> rfl

/-- The series of a tuple that pass the filter of the group. -/
def calls : List Series :=
  store.selected group.scope.table group.callsMetric group.options.groupBy group.options.filter
    tuple

/-- A sub-query that counts requests under more conditions counts those of the
group that meet them. -/
theorem answer?_partQuery (label : String) (conditions : List Condition) :
    store.answer? (group.partQuery window { label, measure := .handledTotal, conditions }) tuple =
      total? ((group.calls store tuple).filter fun series =>
        conditions.all fun condition => store.meets condition series) := by
  have hkeys (series : Series) :
      ((group.options.groupBy ++ []).eraseDups.all fun key => series.tag? key == tuple key) =
        group.options.groupBy.all fun key => series.tag? key == tuple key := by
    rw [List.append_nil, Bool.eq_iff_iff]
    simp only [List.all_eq_true, List.mem_eraseDups]
  show total? (store.selected _ (group.field .handledTotal) (group.options.groupBy ++ []).eraseDups
    ⟨group.options.filter.conditions ++ conditions⟩ tuple) = _
  unfold calls Counting.selected
  rw [field_handledTotal, List.filter_filter]
  congr 2
  funext series
  rw [hkeys, List.all_append, ← Bool.and_assoc, Bool.and_comm]

variable {c : Calculation} {condition : Condition} {formula : Expression.Formula}

/-- **A row of a rate** is there iff some calls are counted, and is then computed
from them and all calls. -/
theorem row?_share (hparts : c.parts = Part.share condition)
    (hformula : Expression.Formula.ofText? c.formula = some formula) :
    let calls := group.calls store tuple
    let counted := calls.filter fun series => store.meets condition series
    let row := store.row? (group.composed window c []) tuple
    (counted = [] → row = none) ∧ (counted ≠ [] → ∃ named, named "a" = some (total counted) ∧
      named "b" = some (total calls) ∧ row = formula.value? named) := by
  intro calls counted row
  have hqueries : (group.composed window c []).queries =
      [group.partQuery window { label := "a", measure := .handledTotal, conditions := [condition] },
        group.partQuery window { label := "b", measure := .handledTotal }] := by
    show c.parts.map _ = _
    rw [hparts]
    rfl
  obtain ⟨named, ha, hb, hrow⟩ := store.row?_pair tuple hqueries rfl rfl hformula
  -- the second sub-query has no condition of its own, so it counts all calls
  simp only [group.answer?_partQuery, List.all_cons, List.all_nil, Bool.and_true,
    List.filter_true] at ha hb hrow
  constructor
  · intro hnone
    have hempty : total? counted = none := by rw [hnone]; rfl
    rw [hempty] at hrow
    exact hrow
  · intro hcounted
    have hcalls : calls ≠ [] := fun h => hcounted (by simp only [counted, h, List.filter_nil])
    rw [total?_of_ne_nil hcounted] at ha hrow
    rw [total?_of_ne_nil hcalls] at hb hrow
    exact ⟨named, ha, hb, hrow⟩

/-- **A rate that counts its code** has a row where the code occurs. -/
theorem isRate_of_equal {code : String}
    (hparts : c.parts = Part.share (.equal "code_type" code))
    (hformula : Expression.Formula.ofText? c.formula = some .percentage) :
    IsRate (store.row? (group.composed window c []) tuple) (group.calls store tuple) code
      fun series => series.code = code := by
  obtain ⟨hnone, hsome⟩ := group.row?_share store window tuple hparts hformula
  simp only [store.meets_equal] at hnone hsome
  refine isRate_of_cases (fun series => decide_eq_true_iff) hnone fun hcounted => ?_
  obtain ⟨named, ha, hb, hrow⟩ := hsome hcounted
  have htotal : total (group.calls store tuple) ≠ 0 := (total_pos_of_filter hcounted).ne'
  rw [hrow, Expression.Formula.value?_percentage ha hb htotal, mul_comm 100, ← div_mul_eq_mul_div]
  rfl

/-- **A rate that counts the other codes** has a row where one of them occurs, and
is what they leave. -/
theorem isRate_of_unequal {code : String}
    (hparts : c.parts = Part.share (.unequal "code_type" code))
    (hformula : Expression.Formula.ofText? c.formula = some .complement) :
    IsRate (store.row? (group.composed window c []) tuple) (group.calls store tuple) code
      fun series => series.code ≠ code := by
  obtain ⟨hnone, hsome⟩ := group.row?_share store window tuple hparts hformula
  simp only [store.meets_unequal] at hnone hsome
  refine isRate_of_cases (fun series => by simp) hnone fun hcounted => ?_
  obtain ⟨named, ha, hb, hrow⟩ := hsome hcounted
  have htotal : total (group.calls store tuple) ≠ 0 := (total_pos_of_filter hcounted).ne'
  have hsplit := total_filter_add (fun series => decide (series.code = code))
    (group.calls store tuple)
  rw [hrow, Expression.Formula.value?_complement ha hb htotal, ← hsplit]
  congr 1
  rw [← hsplit] at htotal
  field_simp
  unfold ending
  ring

/-! ### The three rates -/

/-- **The rates mean what they say**: in a window that is accepted each of the three
has a query set, and in a store that counts, their rows for a tuple are the rates
of the calls of that tuple that pass the filter of the group. -/
theorem rates_of_calls (group : Group) (now : Int64) (params : Params)
    (hwindow : 0 ≤ (group.scope.window now params.start params.stop).start ∧
      (group.scope.window now params.start params.stop).start ≤
        (group.scope.window now params.start params.stop).stop) :
    ∃ success timeout exception : QuerySet,
      group.querySet now .successRate params = .ok success ∧
      group.querySet now .timeoutRate params = .ok timeout ∧
      group.querySet now .exceptionRate params = .ok exception ∧
      ∀ (store : Counting) (tuple : Tuple), RatesOf (group.calls store tuple)
        (store.row? success tuple) (store.row? timeout tuple) (store.row? exception tuple) := by
  let window := group.scope.window now params.start params.stop
  have hbuilt {c : Calculation} (hplain : c.isRanking = false) :
      group.querySet now c params = .ok (group.composed window c []) :=
    group.querySet_of_window now (.itself hplain) hwindow
  refine ⟨_, _, _, hbuilt rfl, hbuilt rfl, hbuilt rfl, fun store tuple => ?_⟩
  refine ratesOf_of_isRate ?_ ?_ ?_
  · exact group.isRate_of_equal store window tuple rfl (by cbv)
  · exact group.isRate_of_unequal store window tuple rfl (by cbv)
  · exact group.isRate_of_unequal store window tuple rfl (by cbv)

/-- Two servers in two regions, of which one is asked for: the calls of the other
region do not count, nor those of another metric, and those of a fourth code count
among all. -/
theorem rates_of_calls_region :
    let series (server region code : String) (count : ℚ) (h : 0 < count) : Series :=
      ⟨code, fun tag => if tag = "region" then some region else some server, count, h⟩
    let store : Counting := {
      series := fun table metric =>
        if table = "calls" ∧ metric = "rpc_client_handled_total" then
          [series "svcA" "x" "success" 60 (by norm_num),
            series "svcA" "x" "timeout" 10 (by norm_num),
            series "svcA" "y" "timeout" 500 (by norm_num),
            series "svcA" "x" "refused" 30 (by norm_num),
            series "svcB" "x" "success" 7 (by norm_num)]
        else [series "svcA" "x" "timeout" 9 (by norm_num)]
      decides := fun condition series => (series.tag? condition.field).any
        condition.values.contains }
    let group : Group := ⟨⟨"calls", {}, {}⟩,
      { groupBy := ["callee_server"], filter := ⟨[⟨"region", .eq, ["x"]⟩]⟩ }⟩
    ∃ success timeout exception : QuerySet,
      group.querySet 1700000000 .successRate {} = .ok success ∧
      group.querySet 1700000000 .timeoutRate {} = .ok timeout ∧
      group.querySet 1700000000 .exceptionRate {} = .ok exception ∧
      store.row? success (fun _ => some "svcA") = some 60 ∧
      store.row? timeout (fun _ => some "svcA") = some 10 ∧
      store.row? exception (fun _ => some "svcB") = some 0 := by
  intro series store group
  have hwindow : 0 ≤ (group.scope.window 1700000000 none none).start ∧
      (group.scope.window 1700000000 none none).start ≤
        (group.scope.window 1700000000 none none).stop := by
    decide
  obtain ⟨success, timeout, exception, hsuccess, htimeout, hexception, hrates⟩ :=
    rates_of_calls group 1700000000 {} hwindow
  have hA : group.calls store (fun _ => some "svcA") =
      [series "svcA" "x" "success" 60 (by norm_num), series "svcA" "x" "timeout" 10 (by norm_num),
        series "svcA" "x" "refused" 30 (by norm_num)] := by
    rfl
  have hB : group.calls store (fun _ => some "svcB") =
      [series "svcB" "x" "success" 7 (by norm_num)] := by
    rfl
  have hratesA := hrates store fun _ => some "svcA"
  have hratesB := hrates store fun _ => some "svcB"
  rw [hA] at hratesA
  rw [hB] at hratesB
  refine ⟨success, timeout, exception, hsuccess, htimeout, hexception, ?_, ?_, ?_⟩
  · exact (hratesA.success 60).2 ⟨by simp [series], by decide +kernel⟩
  · exact (hratesA.timeout 10).2 ⟨by simp [series], by decide +kernel⟩
  · exact (hratesB.exception 0).2 ⟨by simp [series], by decide +kernel⟩

end Group
end RpcMetrics
