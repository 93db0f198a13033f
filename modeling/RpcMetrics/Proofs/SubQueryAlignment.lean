import Mathlib
import RpcMetrics.Proofs.CalculationParts
import RpcMetrics.Proofs.WindowBounds

/-! # Sub-queries are aligned

A rate divides the answer to one sub-query by the answer to another.  That means
something only if both look at the same table, step, dimensions and series, and
read their counters alike.  `Aligned` says this of one sub-query, together with
the few things in which a calculation may make it differ: the metric it reads
(`Calculation.metricField`), a condition on the outcome of calls
(`Calculation.codeCondition?`) and what estimating a quantile takes
(`Calculation.quantile?`).

**Every sub-query that a group hands out is aligned** (`querySet_aligned`),
whatever the group, the clock and the calculation, and for a ranking with
respect to the calculation it ranks.
-/
namespace RpcMetrics

namespace Calculation

/-- The quantile that a calculation estimates, if it estimates one. -/
def quantile? : Calculation → Option Float
  | p50Duration => some 0.50
  | p95Duration => some 0.95
  | p99Duration => some 0.99
  | _ => none

/-- The condition on the outcome of calls that a calculation puts on the
sub-query with an alias, if it puts one. -/
def codeCondition? : Calculation → String → Option Condition
  | successRate, "a" => some ⟨"code_type", .eq, ["success"]⟩
  | timeoutRate, "a" => some ⟨"code_type", .neq, ["timeout"]⟩
  | exceptionRate, "a" => some ⟨"code_type", .neq, ["exception"]⟩
  | _, _ => none

/-- The metric that a calculation reads at one end of calls, for the sub-query with
an alias. -/
def metricField : Calculation → Role → String → String
  | avgDuration, .caller, "a" => "rpc_client_handled_seconds_sum"
  | avgDuration, .callee, "a" => "rpc_server_handled_seconds_sum"
  | avgDuration, .caller, _ => "rpc_client_handled_seconds_count"
  | avgDuration, .callee, _ => "rpc_server_handled_seconds_count"
  | p50Duration, .caller, _ | p95Duration, .caller, _ | p99Duration, .caller, _ =>
    "rpc_client_handled_seconds_bucket"
  | p50Duration, .callee, _ | p95Duration, .callee, _ | p99Duration, .callee, _ =>
    "rpc_server_handled_seconds_bucket"
  | _, .caller, _ => "rpc_client_handled_total"
  | _, .callee, _ => "rpc_server_handled_total"

theorem mem_parts_label {c : Calculation} (h : c.isRanking = false) :
    "a" ∈ c.parts.map Part.label := by
  cases c with
  | topN | bottomN => cases h
  | requestTotal | avgDuration | successRate | timeoutRate | exceptionRate | p50Duration
  | p95Duration | p99Duration => exact List.mem_cons_self ..

/-- What the parts of a calculation add: the bucket bound and the quantile, or a
condition on the outcome, or nothing. -/
theorem part_adds {c : Calculation} {part : Part} (h : part ∈ c.parts) :
    part.keys = (if c.quantile?.isSome then ["le"] else []) ∧
      part.conditions = (c.codeCondition? part.label).toList ∧
      part.transforms = (c.quantile?.map Transform.quantile).toList := by
  cases c with
  | topN | bottomN => cases h
  | requestTotal | p50Duration | p95Duration | p99Duration =>
    obtain rfl := List.mem_singleton.1 h
    exact ⟨rfl, rfl, rfl⟩
  | avgDuration | successRate | timeoutRate | exceptionRate =>
    rcases List.mem_pair.1 h with rfl | rfl <;> exact ⟨rfl, rfl, rfl⟩

/-- The measure of a part is the metric that the calculation reads. -/
theorem field_part {c : Calculation} {part : Part} (h : part ∈ c.parts) (role : Role) :
    role.field part.measure = c.metricField role part.label := by
  cases c with
  | topN | bottomN => cases h
  | requestTotal | p50Duration | p95Duration | p99Duration =>
    obtain rfl := List.mem_singleton.1 h
    cases role <;> rfl
  | avgDuration | successRate | timeoutRate | exceptionRate =>
    rcases List.mem_pair.1 h with rfl | rfl <;> cases role <;> rfl

end Calculation

/-- **A sub-query is aligned** with the others of its set, for a calculation that
ranks nothing. -/
structure Group.Aligned (group : Group) (calculation : Calculation) (set : QuerySet)
    (query : Query) : Prop where
  table : query.table = group.scope.table
  /-- The whole window in seconds, unless the shortest step is longer. -/
  interval : (query.interval.toNat : Int) =
    max ((set.stop.toInt - set.start.toInt) / 1000)
      (group.scope.query.rules.minInterval.seconds.toNat : Int)
  method : query.method = .sum
  /-- A metric of the calls at the end that the group is about. -/
  metric : query.metric = calculation.metricField group.options.role query.label
  /-- The dimensions of the group, each where it first occurs, and the bucket
  bound for a quantile unless it is one of them. -/
  groupBy : query.groupBy =
    if calculation.quantile?.isSome ∧ "le" ∉ group.options.groupBy then
      group.options.groupBy.eraseDups ++ ["le"]
    else group.options.groupBy.eraseDups
  filter : query.filter.conditions =
    group.options.filter.conditions ++ (calculation.codeCondition? query.label).toList
  transforms : query.transforms =
    (match group.options.temporality with
      | .cumulative => [.increase query.interval]
      | .delta => []) ++ (calculation.quantile?.map Transform.quantile).toList

namespace Group
variable (group : Group)

theorem eraseDups_append_bound (keys : List String) (estimates : Bool) :
    (keys ++ if estimates then ["le"] else []).eraseDups =
      if estimates ∧ "le" ∉ keys then keys.eraseDups ++ ["le"] else keys.eraseDups := by
  cases estimates with
  | false => simp
  | true =>
    rw [if_pos rfl, ← QueryDraft.addKey_eraseDups, QueryDraft.addKey]
    by_cases h : "le" ∈ keys <;> simp [h, List.mem_eraseDups]

/-- The sub-query of a part is aligned. -/
theorem aligned_of_part {c : Calculation} {part : Part} (hpart : part ∈ c.parts)
    {set : QuerySet} (hset : set.Sound) :
    group.Aligned c set (group.partQuery ⟨set.start, set.stop⟩ part) := by
  obtain ⟨hkeys, hconditions, htransforms⟩ := Calculation.part_adds hpart
  constructor
  · rfl
  · exact group.scope.query.rules.toNat_interval hset.start_nonneg hset.start_le_stop
  · rfl
  · exact Calculation.field_part hpart group.options.role
  · show (group.options.groupBy ++ part.keys).eraseDups = _
    rw [hkeys, eraseDups_append_bound]
  · show group.options.filter.conditions ++ part.conditions = _
    rw [hconditions]
    rfl
  · show group.windowed ⟨set.start, set.stop⟩ ++ part.transforms = _
    rw [htransforms]
    rfl

/-- A query set that a group hands out is the table of what is measured: the
calculation itself, or what it ranks. -/
theorem eq_composed_of_querySet {now : Int64} {calculation : Calculation} {params : Params}
    {set : QuerySet} (h : group.querySet now calculation params = .ok set) :
    ∃ inner transforms, Composes calculation params inner transforms ∧ set.Sound ∧
      set = group.composed (group.scope.window now params.start params.stop) inner
        transforms := by
  -- without a calculation to measure there is no query set to speak of
  rcases unrankable_or_composes calculation params with hbad | ⟨inner, transforms, hc⟩
  · obtain ⟨fault, hfault⟩ := group.querySet_of_unrankable now hbad
    rw [hfault] at h
    cases h
  · rw [group.querySet_of_composes now hc] at h
    split at h
    · rename_i hw
      obtain rfl := Except.ok.inj h
      exact ⟨inner, transforms, hc, group.composed_sound _ hc.inner_plain transforms
        (QuerySetDraft.checkWindow_eq_ok_iff.1 hw), rfl⟩
    · cases h

/-- **Every sub-query that a group hands out is aligned** for what is measured:
the calculation itself, or the one that a ranking ranks. -/
theorem querySet_aligned {now : Int64} {calculation : Calculation} {params : Params}
    {set : QuerySet} (h : group.querySet now calculation params = .ok set) :
    ∃ inner, inner.isRanking = false ∧
      (calculation = inner ∨ calculation.isRanking = true ∧ params.ranked = some inner) ∧
      "a" ∈ set.queries.map Query.label ∧
      ∀ query ∈ set.queries, group.Aligned inner set query := by
  obtain ⟨inner, transforms, hc, hsound, hset⟩ := group.eq_composed_of_querySet h
  refine ⟨inner, hc.inner_plain, ?_, ?_, ?_⟩
  · cases hc with
    | itself _ => exact Or.inl rfl
    | ranked hr hinner _ _ _ => exact Or.inr ⟨hr, hinner⟩
  · obtain ⟨part, hpart, hlabel⟩ := List.mem_map.1 (Calculation.mem_parts_label hc.inner_plain)
    rw [hset]
    exact List.mem_map.2 ⟨_, List.mem_map_of_mem hpart, hlabel⟩
  · intro query hquery
    -- a sub-query of the table comes from one of its parts
    rw [hset] at hquery
    obtain ⟨part, hpart, rfl⟩ := List.mem_map.1 hquery
    have haligned := group.aligned_of_part hpart hsound
    rw [hset] at haligned ⊢
    exact haligned

/-- A quantile is ranked in a group whose dimensions hold the bucket bound
already. -/
theorem querySet_aligned_ranking :
    let group : Group := ⟨⟨"calls", {}, {}⟩, { groupBy := ["le", "caller_server", "le"] }⟩
    let params : Params := { ranked := some .p95Duration, limit := some 3 }
    ∃ set, group.querySet 1700000000 .topN params = .ok set ∧
      set.queries.map Query.metric = ["rpc_client_handled_seconds_bucket"] ∧
      set.queries.map Query.groupBy = [["le", "caller_server"]] ∧
      ∀ query ∈ set.queries, group.Aligned .p95Duration set query := by
  intro group params
  have hset := group.querySet_of_composes 1700000000
    (.ranked rfl rfl rfl rfl (by decide) : Composes .topN params .p95Duration [.top 3])
  have hwindow : QuerySetDraft.checkWindow
      (group.scope.window 1700000000 params.start params.stop) = .ok () := by
    cbv
  rw [hwindow] at hset
  obtain ⟨inner, hplain, hinner, -, haligned⟩ := group.querySet_aligned hset
  obtain rfl : Calculation.p95Duration = inner := by
    rcases hinner with rfl | ⟨-, h⟩
    · cases hplain
    · exact Option.some.inj h
  exact ⟨_, hset, rfl, rfl, haligned⟩

end Group
end RpcMetrics
