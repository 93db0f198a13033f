import Mathlib
import RpcMetrics.Group
import RpcMetrics.Proofs.DraftChecks

/-! # Calculations as tables of parts

A group puts the query set of a calculation together call by call.  Read to the
end, the calls say little: every sub-query is what the group fixes for all of
them, and one `Part` more.  `Calculation.parts` and `Calculation.formula` are
that table, and **a calculation is its table** (`direct?_eq`): the draft of a
calculation over a window has the parts for its sub-queries and the formula for
its expression.

A ranking has the table of the calculation it ranks and keeps some of its series
(`Composes`), unless its parameters do not say which (`Unrankable`); there is no
third case (`unrankable_or_composes`).  Since each formula is an expression over
the aliases of its own parts (`formula_resolves`), nothing but the window can
then be refused, and **whether a calculation has a query set is read off its
parameters and its window** (`querySet_trichotomy`).
-/
namespace RpcMetrics

/-! ### The tables -/

/-- What a calculation asks of one of its sub-queries beyond what the group
fixes for all of them. -/
structure Part where
  label : String
  measure : Measure
  keys : List String := []
  conditions : List Condition := []
  transforms : List Transform := []

/-- A quantile is estimated from the buckets, which are kept apart. -/
def Part.quantile (scalar : Float) : Part where
  label := "a"
  measure := .handledSecondsBucket
  keys := [Tag.bucketBound]
  transforms := [.quantile scalar]

/-- Calls of one kind beside all calls. -/
def Part.share (condition : Condition) : List Part :=
  [{ label := "a", measure := .handledTotal, conditions := [condition] },
    { label := "b", measure := .handledTotal }]

namespace Calculation

/-- The sub-queries of a calculation; a ranking has none of its own. -/
def parts : Calculation → List Part
  | requestTotal => [{ label := "a", measure := .handledTotal }]
  | successRate => Part.share (.equal Tag.codeType Outcome.success.name)
  | timeoutRate => Part.share (.unequal Tag.codeType Outcome.timeout.name)
  | exceptionRate => Part.share (.unequal Tag.codeType Outcome.exception.name)
  | avgDuration => [{ label := "a", measure := .handledSecondsSum },
      { label := "b", measure := .handledSecondsCount }]
  | p50Duration => [Part.quantile 0.50]
  | p95Duration => [Part.quantile 0.95]
  | p99Duration => [Part.quantile 0.99]
  | topN | bottomN => []

/-- The expression that combines the parts. -/
def formula : Calculation → String
  | requestTotal => "a"
  | successRate => "(a / b) * 100"
  | timeoutRate | exceptionRate => "(1 - a / b) * 100"
  | avgDuration => "(a / b) * 1000"
  | p50Duration | p95Duration | p99Duration => "a * 1000"
  | topN | bottomN => ""

theorem parts_ne_nil {c : Calculation} (h : c.isRanking = false) : c.parts ≠ [] := by
  cases c <;> simp_all [isRanking, parts, Part.share]

/-- **Each formula is an expression over the aliases of its own parts**, each of
which it finds once. -/
theorem formula_resolves {c : Calculation} (h : c.isRanking = false) :
    ∃ names, Expression.aliases c.formula = .ok names ∧
      ∀ name ∈ names, (c.parts.map Part.label).count name = 1 := by
  cases c with
  | topN | bottomN => cases h
  | requestTotal | p50Duration | p95Duration | p99Duration =>
    refine ⟨.ofList ["a"], by cbv, fun name hname => ?_⟩
    obtain rfl := List.mem_singleton.1 (Data.NameSet.mem_ofList.1 hname)
    rfl
  | successRate | timeoutRate | exceptionRate | avgDuration =>
    refine ⟨.ofList ["a", "b"], by cbv, fun name hname => ?_⟩
    rcases List.mem_pair.1 (Data.NameSet.mem_ofList.1 hname) with rfl | rfl <;> rfl

end Calculation

namespace Group
variable (group : Group) (window : Window)

/-- What cumulative counters are read by. -/
def windowed : List Transform :=
  match group.options.temporality with
  | .cumulative => [.increase (group.scope.query.rules.interval window)]
  | .delta => []

/-- The draft of a part: what the group fixes, and what the part adds. -/
def partDraft (part : Part) : QueryDraft where
  table := group.scope.table
  label := part.label
  metric := some (group.field part.measure, .sum)
  interval := group.scope.query.rules.interval window
  groupBy := (group.options.groupBy ++ part.keys).eraseDups
  filter := ⟨group.options.filter.conditions ++ part.conditions⟩
  transforms := group.windowed window ++ part.transforms

/-- The sub-query of a part. -/
def partQuery (part : Part) : Query :=
  (group.partDraft window part).query (group.field part.measure) .sum

/-- The draft of a calculation that keeps some of its series. -/
def composedDraft (c : Calculation) (transforms : List Transform) : QuerySetDraft where
  window := window
  queries := c.parts.map (group.partDraft window)
  expression := some c.formula
  transforms := transforms
  instant := true

/-- The query set of a calculation that keeps some of its series. -/
def composed (c : Calculation) (transforms : List Transform) : QuerySet where
  start := window.start
  stop := window.stop
  queries := c.parts.map (group.partQuery window)
  expression := c.formula
  transforms := transforms
  instant := true
  limit := none

theorem draft_eq : group.draft window =
    { table := group.scope.table
      interval := group.scope.query.rules.interval window
      groupBy := group.options.groupBy.eraseDups
      filter := group.options.filter
      transforms := group.windowed window } := by
  have hkeys := QueryDraft.foldl_addKey [] group.options.groupBy
  unfold draft windowed
  cases group.options.temporality <;>
    simp [QueryDraft.every, QueryDraft.groupedBy, QueryDraft.filtered, QueryDraft.transformed,
      Filter.merge, Filter.empty, Scope.draft] at hkeys ⊢ <;> exact hkeys

/-! ### Calculations are their tables -/

theorem plain_eq (label : String) (measure : Measure) :
    ((group.draft window).named label).measuring (group.field measure) .sum =
      group.partDraft window { label, measure } := by
  simp [draft_eq, partDraft, QueryDraft.named, QueryDraft.measuring]

theorem conditioned_eq (label : String) (measure : Measure) (condition : Condition) :
    (((group.draft window).named label).filtered (Filter.empty.and condition)).measuring
      (group.field measure) .sum =
      group.partDraft window { label, measure, conditions := [condition] } := by
  simp [draft_eq, partDraft, QueryDraft.named, QueryDraft.measuring, QueryDraft.filtered,
    Filter.merge, Filter.and, Filter.empty]

theorem buckets_eq (scalar : Float) :
    ((((group.draft window).named "a").groupedBy [Tag.bucketBound]).measuring
      (group.field .handledSecondsBucket) .sum).transformed (.quantile scalar) =
      group.partDraft window (.quantile scalar) := by
  have hle := QueryDraft.addKey_eraseDups group.options.groupBy Tag.bucketBound
  simp [draft_eq, partDraft, Part.quantile, QueryDraft.named, QueryDraft.measuring,
    QueryDraft.groupedBy, QueryDraft.transformed, hle]

theorem outcomeRate_eq (outcome : Outcome) : group.outcomeRate outcome window =
    { window
      queries := (Part.share (rate outcome).1).map (group.partDraft window)
      expression := some (rate outcome).2 } := by
  simp only [outcomeRate, conditioned_eq, plain_eq]
  rfl

theorem quantileDuration_eq (scalar : Float) : group.quantileDuration scalar window =
    { window
      queries := [group.partDraft window (.quantile scalar)]
      expression := some "a * 1000" } := by
  simp only [quantileDuration, buckets_eq]
  rfl

/-- **A calculation is its table**, unless it ranks another one. -/
theorem direct?_eq (c : Calculation) : group.direct? window c =
    if c.isRanking then none else some (group.composedDraft window c []) := by
  cases c with
  | topN | bottomN => rfl
  | requestTotal | avgDuration =>
    simp only [direct?, requestTotal, avgDuration, plain_eq]
    rfl
  | successRate | timeoutRate | exceptionRate =>
    simp only [direct?, outcomeRate_eq]
    rfl
  | p50Duration | p95Duration | p99Duration =>
    simp only [direct?, quantileDuration_eq]
    rfl

/-! ### Only the window can be refused -/

theorem partDraft_build {part : Part} (h : part.label ≠ "") :
    (group.partDraft window part).build = .ok (group.partQuery window part) :=
  QueryDraft.build_eq_ok_iff.2 ⟨h, _, _, rfl, rfl⟩

theorem composedDraft_gives {c : Calculation} (transforms : List Transform) :
    (group.composedDraft window c transforms).Gives (group.composed window c transforms) where
  start := rfl
  stop := rfl
  queries := by
    have hlabel : ∀ part ∈ c.parts, part.label ≠ "" := by
      cases c <;> simp [Calculation.parts, Part.share, Part.quantile]
    show List.Forall₂ _ (c.parts.map (group.partDraft window))
      (c.parts.map (group.partQuery window))
    rw [List.forall₂_map_left_iff, List.forall₂_map_right_iff, List.forall₂_same]
    exact fun part hpart => group.partDraft_build window (hlabel part hpart)
  expression := rfl
  transforms := rfl
  instant := rfl
  limit := rfl

theorem composed_sound {c : Calculation} (hc : c.isRanking = false) (transforms : List Transform)
    (hw : 0 ≤ window.start ∧ window.start ≤ window.stop) :
    (group.composed window c transforms).Sound := by
  -- the aliases are those of the parts, whatever the group
  have hlabels : (group.composed window c transforms).queries.map Query.label =
      c.parts.map Part.label := by
    simp only [composed, List.map_map]
    rfl
  constructor
  · exact hw.1
  · exact hw.2
  · simpa [composed] using Calculation.parts_ne_nil hc
  · cases c <;> simp [composed, Calculation.parts, Part.share, Part.quantile, partQuery,
      QueryDraft.query, partDraft]
  · rw [hlabels]
    cases c <;> simp [Calculation.parts, Part.share, Part.quantile]
  · rw [hlabels]
    exact Calculation.formula_resolves hc

/-- **The draft of a calculation is refused for its window only.** -/
theorem composedDraft_build {c : Calculation} (hc : c.isRanking = false)
    (transforms : List Transform) :
    (group.composedDraft window c transforms).build =
      match QuerySetDraft.checkWindow window with
      | .ok () => .ok (group.composed window c transforms)
      | .error fault => .error (.validation fault) := by
  cases hw : QuerySetDraft.checkWindow window with
  | error fault => exact QuerySetDraft.build_of_refused hw
  | ok _ =>
    exact QuerySetDraft.build_of_sound (group.composedDraft_gives window transforms)
      (group.composed_sound window hc transforms (QuerySetDraft.checkWindow_eq_ok_iff.1 hw))

end Group

/-! ### Rankings -/

/-- The parameters of a ranking do not say what it ranks, or how many series it
keeps. -/
def Unrankable (calculation : Calculation) (params : Params) : Prop :=
  (calculation = .topN ∨ calculation = .bottomN) ∧
    ((params.ranked = none ∨ params.ranked = some .topN ∨ params.ranked = some .bottomN) ∨
      params.limit = none ∨ params.limit = some 0)

/-- A calculation asks for the table of `inner` and keeps the series that
`transforms` leave. -/
inductive Composes (calculation : Calculation) (params : Params) :
    Calculation → List Transform → Prop
  /-- A calculation that ranks nothing keeps all. -/
  | itself (h : calculation.isRanking = false) : Composes calculation params calculation []
  /-- A ranking keeps some series of what it ranks. -/
  | ranked {inner : Calculation} {limit : UInt64} (h : calculation.isRanking = true)
      (hinner : params.ranked = some inner) (hplain : inner.isRanking = false)
      (hlimit : params.limit = some limit) (hpos : limit ≠ 0) :
      Composes calculation params inner [Group.kept limit calculation]

variable {calculation : Calculation} {params : Params}

theorem isRanking_iff {c : Calculation} : c.isRanking = true ↔ c = .topN ∨ c = .bottomN := by
  cases c <;> decide

theorem Composes.inner_plain {inner : Calculation} {transforms : List Transform}
    (h : Composes calculation params inner transforms) : inner.isRanking = false := by
  cases h with
  | itself h => exact h
  | ranked _ _ hplain _ _ => exact hplain

/-- Parameters that say what is ranked can only fail to say how much is kept. -/
theorem Unrankable.limit_eq_zero {inner : Calculation} {limit : UInt64}
    (h : Unrankable calculation params) (hinner : params.ranked = some inner)
    (hplain : inner.isRanking = false) (hlimit : params.limit = some limit) : limit = 0 := by
  obtain ⟨-, hbad⟩ := h
  rw [hinner, hlimit] at hbad
  rcases hbad with (h | h | h) | h | h
  · cases h
  · cases h
    cases hplain
  · cases h
    cases hplain
  · cases h
  · exact Option.some.inj h

theorem Composes.not_unrankable {inner : Calculation} {transforms : List Transform}
    (h : Composes calculation params inner transforms) : ¬ Unrankable calculation params := by
  intro hbad
  cases h with
  | itself h =>
    rw [isRanking_iff.2 hbad.1] at h
    cases h
  | ranked _ hinner hplain hlimit hpos => exact hpos (hbad.limit_eq_zero hinner hplain hlimit)

/-- **There is no third case.** -/
theorem unrankable_or_composes (calculation : Calculation) (params : Params) :
    Unrankable calculation params ∨ ∃ inner transforms,
      Composes calculation params inner transforms := by
  cases hr : calculation.isRanking with
  | false => exact Or.inr ⟨_, _, .itself hr⟩
  | true =>
    have hr' := isRanking_iff.1 hr
    cases hinner : params.ranked with
    | none => exact Or.inl ⟨hr', Or.inl (Or.inl hinner)⟩
    | some inner =>
      cases hplain : inner.isRanking with
      | true =>
        rw [isRanking_iff] at hplain
        refine Or.inl ⟨hr', Or.inl (Or.inr ?_)⟩
        rw [hinner]
        exact hplain.imp (congrArg some) (congrArg some)
      | false =>
        cases hlimit : params.limit with
        | none => exact Or.inl ⟨hr', Or.inr (Or.inl hlimit)⟩
        | some limit =>
          by_cases hpos : limit = 0
          · exact Or.inl ⟨hr', Or.inr (Or.inr (hpos ▸ hlimit))⟩
          · exact Or.inr ⟨_, _, .ranked hr hinner hplain hlimit hpos⟩

namespace Group
variable (group : Group) (window : Window)

theorem calculationDraft_of_composes {inner : Calculation} {transforms : List Transform}
    (h : Composes calculation params inner transforms) :
    group.calculationDraft window calculation params =
      .ok (group.composedDraft window inner transforms) := by
  cases h with
  | itself h => simp [calculationDraft, direct?_eq, h]
  | ranked h hinner hplain hlimit hpos =>
    simp [calculationDraft, ranking, direct?_eq, h, hinner, hplain, hlimit, hpos]
    rfl

theorem calculationDraft_of_unrankable (h : Unrankable calculation params) :
    ∃ fault, group.calculationDraft window calculation params =
      .error (.invalidArgument fault) := by
  have hr := isRanking_iff.2 h.1
  simp only [calculationDraft, ranking, direct?_eq, hr, if_true]
  -- the faults in the order in which the parameters are looked at
  cases hinner : params.ranked with
  | none => exact ⟨.nothingRanked, rfl⟩
  | some inner =>
    cases hplain : inner.isRanking with
    | true => exact ⟨.rankedRanking inner, by simp [hplain]; rfl⟩
    | false =>
      cases hlimit : params.limit with
      | none => exact ⟨.noLimit, by simp [hplain]; rfl⟩
      | some limit =>
        have hzero := h.limit_eq_zero hinner hplain hlimit
        exact ⟨.zeroLimit, by simp [hplain, hzero]; rfl⟩

variable (now : Int64)

/-- The query set of a calculation whose parameters say what it asks for. -/
theorem querySet_of_composes {inner : Calculation} {transforms : List Transform}
    (h : Composes calculation params inner transforms) :
    group.querySet now calculation params =
      match QuerySetDraft.checkWindow (group.scope.window now params.start params.stop) with
      | .ok () => .ok (group.composed (group.scope.window now params.start params.stop) inner
          transforms)
      | .error fault => .error (.validation fault) := by
  rw [querySet, group.calculationDraft_of_composes _ h]
  exact group.composedDraft_build _ h.inner_plain transforms

theorem querySet_of_window {inner : Calculation} {transforms : List Transform}
    (h : Composes calculation params inner transforms)
    (hwindow : 0 ≤ (group.scope.window now params.start params.stop).start ∧
      (group.scope.window now params.start params.stop).start ≤
        (group.scope.window now params.start params.stop).stop) :
    group.querySet now calculation params =
      .ok (group.composed (group.scope.window now params.start params.stop) inner transforms) := by
  rw [group.querySet_of_composes now h, QuerySetDraft.checkWindow_eq_ok_iff.2 hwindow]

theorem querySet_of_unrankable (h : Unrankable calculation params) :
    ∃ fault, group.querySet now calculation params = .error (.invalidArgument fault) := by
  obtain ⟨fault, hfault⟩ := group.calculationDraft_of_unrankable
    (group.scope.window now params.start params.stop) h
  exact ⟨fault, by rw [querySet, hfault]; rfl⟩

/-- **What comes of a calculation.**  Parameters that rank nothing are refused
whatever the window; otherwise a window that reaches before the epoch or ends
before it starts is refused; otherwise there is a query set.  No other check of
its draft ever fails. -/
theorem querySet_trichotomy (calculation : Calculation) (params : Params) :
    let window := group.scope.window now params.start params.stop
    let outcome := group.querySet now calculation params
    ((∃ fault, outcome = .error (.invalidArgument fault)) ↔ Unrankable calculation params) ∧
    ((∃ fault, outcome = .error (.validation fault)) ↔ ¬ Unrankable calculation params ∧
      (window.start < 0 ∨ window.stop < 0 ∨ window.stop < window.start)) ∧
    ((∃ set, outcome = .ok set) ↔ ¬ Unrankable calculation params ∧
      ¬ (window.start < 0 ∨ window.stop < 0 ∨ window.stop < window.start)) ∧
    ∀ fault, outcome = .error (.validation fault) ↔ ¬ Unrankable calculation params ∧
      (((window.start < 0 ∨ window.stop < 0) ∧
          fault = .negativeWindow window.start window.stop) ∨
        (0 ≤ window.start ∧ 0 ≤ window.stop ∧ window.stop < window.start ∧
          fault = .invertedWindow window.start window.stop)) := by
  intro window outcome
  -- parameters are looked at before the window, so each case of theirs is settled by itself
  rcases unrankable_or_composes calculation params with h | ⟨inner, transforms, h⟩
  · obtain ⟨fault, hfault⟩ : ∃ fault, outcome = .error (.invalidArgument fault) :=
      group.querySet_of_unrankable now h
    simp [hfault, h]
  · have hcan := h.not_unrankable
    simp only [hcan, not_false_eq_true, true_and, ← QuerySetDraft.checkWindow_eq_error_iff,
      ← QuerySetDraft.in_order_iff]
    cases hw : QuerySetDraft.checkWindow window with
    | ok _ =>
      have hout : outcome = .ok (group.composed window inner transforms) := by
        simp only [outcome, group.querySet_of_composes now h]
        rw [hw]
      have hin := QuerySetDraft.checkWindow_eq_ok_iff.1 hw
      have hnot := QuerySetDraft.in_order_iff.1 hin
      simp [hout, hin, hnot]
    | error fault =>
      have hout : outcome = .error (.validation fault) := by
        simp only [outcome, group.querySet_of_composes now h]
        rw [hw]
      have hin : ¬ (0 ≤ window.start ∧ window.start ≤ window.stop) := by
        rw [← QuerySetDraft.checkWindow_eq_ok_iff, hw]
        exact fun h => by cases h
      have hrefused := Decidable.of_not_not (fun h => hin (QuerySetDraft.in_order_iff.2 h))
      simp [hout, hin, hrefused]

end Group
end RpcMetrics
