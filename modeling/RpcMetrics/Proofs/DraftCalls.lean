import Mathlib.Data.List.Induction
import RpcMetrics.Query.Draft

/-! # What the steps of a draft come to

A draft is put together by steps of several kinds.  Of each kind its own part of
the draft is told, in one of three ways: of aliases, metrics, intervals,
expressions and row limits the last counts; conditions, transforms and sub-queries
add up in their order; and dimensions add up, each where it first occurs.

What has been told so far can therefore be read off the steps themselves, kind by
kind (`QueryDraft.told`, `QuerySetDraft.told`), and one step more tells one thing
more (`QueryDraft.told_concat`).  Two rows of steps that tell the same are finished
alike, however the kinds are interleaved, and so are dimensions or conditions that
come in one step or in two (`QuerySetDraft.outcome_of_steps`).
-/
namespace RpcMetrics

/-- The last of what steps set. -/
def lastSet {σ α : Type} (part : σ → Option α) (steps : List σ) : Option α :=
  (steps.filterMap part).getLast?

theorem lastSet_concat {σ α : Type} (part : σ → Option α) (steps : List σ) (step : σ) :
    lastSet part (steps ++ [step]) = (part step).or (lastSet part steps) := by
  unfold lastSet
  rw [List.filterMap_append]
  cases h : part step with
  | none => simp [h]
  | some value => simp [h]

/-- Parts of a run that do the same from wherever they start may stand for each other. -/
theorem foldl_middle {σ α : Type} {step : σ → α → σ} {old new : List α}
    (h : ∀ state, old.foldl step state = new.foldl step state) (start : σ)
    (before after : List α) :
    (before ++ old ++ after).foldl step start = (before ++ new ++ after).foldl step start := by
  simp only [List.foldl_append, h]

namespace QueryDraft

/-! ### Steps of a query -/

namespace Step

/-- The alias that a step sets. -/
def label? : Step → Option String
  | named label => some label
  | _ => none

/-- The metric that a step sets. -/
def metric? : Step → Option (String × Aggregation)
  | measuring metric method => some (metric, method)
  | _ => none

/-- The interval that a step sets. -/
def interval? : Step → Option UInt64
  | every interval => some interval
  | _ => none

/-- The dimensions that a step adds. -/
def keys : Step → List String
  | groupedBy keys => keys
  | _ => []

/-- The conditions that a step adds. -/
def conditions : Step → List Condition
  | filtered filter => filter.conditions
  | _ => []

/-- The transform that a step adds. -/
def transform? : Step → Option Transform
  | transformed transform => some transform
  | _ => none

end Step

/-- **The draft that steps tell**, kind by kind. -/
def told (table : String) (steps : List Step) : QueryDraft where
  table
  label := (lastSet Step.label? steps).getD "a"
  metric := lastSet Step.metric? steps
  interval := (lastSet Step.interval? steps).getD 60
  groupBy := (steps.flatMap Step.keys).eraseDups
  filter := ⟨steps.flatMap Step.conditions⟩
  transforms := steps.filterMap Step.transform?

/-- **One step more tells one thing more.** -/
theorem told_concat (table : String) (steps : List Step) (step : Step) :
    told table (steps ++ [step]) = (told table steps).apply step := by
  unfold told
  simp only [lastSet_concat, List.flatMap_append, List.flatMap_singleton, List.filterMap_append]
  -- a step of one kind leaves what the other kinds tell
  cases step <;>
    simp [apply, named, measuring, every, groupedBy, filtered, transformed, Filter.merge,
      foldl_addKey, Step.label?, Step.metric?, Step.interval?, Step.keys, Step.conditions,
      Step.transform?]

/-- **A draft is what its steps tell.** -/
theorem applyAll_eq_told (table : String) (steps : List Step) :
    applyAll { table } steps = told table steps := by
  induction steps using List.reverseRecOn with
  | nil => rfl
  | append_singleton steps step ih =>
    rw [told_concat, ← ih, applyAll, List.foldl_append]
    rfl

/-- **Steps of different kinds may change places.** -/
theorem apply_comm {first second : Step} (h : first.ctorIdx ≠ second.ctorIdx)
    (draft : QueryDraft) : (draft.apply first).apply second = (draft.apply second).apply first := by
  cases first <;> cases second <;> first | rfl | exact absurd rfl h

/-- Dimensions may come in one step or in two. -/
theorem groupedBy_append (draft : QueryDraft) (keys more : List String) :
    draft.groupedBy (keys ++ more) = (draft.groupedBy keys).groupedBy more := by
  unfold groupedBy
  rw [List.foldl_append]

/-- Conditions may come in one step or in two. -/
theorem filtered_merge (draft : QueryDraft) (filter more : Filter) :
    draft.filtered (filter.merge more) = (draft.filtered filter).filtered more := by
  unfold filtered Filter.merge
  rw [List.append_assoc]

/-- What comes of steps on a table. -/
def outcome (table : String) (steps : List Step) : Except Failure Query :=
  (applyAll { table } steps).build

/-- **Two rows of steps tell the same** of each kind. -/
structure Agree (first second : List Step) : Prop where
  label : (lastSet Step.label? first).getD "a" = (lastSet Step.label? second).getD "a"
  metric : lastSet Step.metric? first = lastSet Step.metric? second
  interval : (lastSet Step.interval? first).getD 60 = (lastSet Step.interval? second).getD 60
  /-- The dimensions, each where it first occurs. -/
  keys : (first.flatMap Step.keys).eraseDups = (second.flatMap Step.keys).eraseDups
  conditions : first.flatMap Step.conditions = second.flatMap Step.conditions
  transforms : first.filterMap Step.transform? = second.filterMap Step.transform?

theorem Agree.told_eq {first second : List Step} (h : Agree first second) (table : String) :
    told table first = told table second := by
  rw [told, told, h.label, h.metric, h.interval, h.keys, h.conditions, h.transforms]

end QueryDraft

namespace QuerySetDraft

/-! ### Steps of a query set -/

namespace Step

/-- The sub-query that a step adds. -/
def query? : Step → Option QueryDraft
  | adding query => some query
  | _ => none

/-- The expression that a step sets. -/
def expression? : Step → Option String
  | combined expression => some expression
  | _ => none

/-- The transform that a step adds. -/
def transform? : Step → Option Transform
  | transformed transform => some transform
  | _ => none

/-- Whether a step asks for one result for the window. -/
def isAtInstant : Step → Bool
  | atInstant => true
  | _ => false

/-- The row limit that a step sets. -/
def limit? : Step → Option UInt64
  | limited limit => some limit
  | _ => none

end Step

/-- **The draft that steps tell**, kind by kind. -/
def told (window : Window) (steps : List Step) : QuerySetDraft where
  window
  queries := steps.filterMap Step.query?
  expression := lastSet Step.expression? steps
  transforms := steps.filterMap Step.transform?
  instant := steps.any Step.isAtInstant
  limit := lastSet Step.limit? steps

/-- **One step more tells one thing more.** -/
theorem told_concat (window : Window) (steps : List Step) (step : Step) :
    told window (steps ++ [step]) = (told window steps).apply step := by
  unfold told
  simp only [lastSet_concat, List.filterMap_append, List.any_append]
  cases step <;>
    simp [apply, adding, combined, transformed, atInstant, limited, Step.query?,
      Step.expression?, Step.transform?, Step.isAtInstant, Step.limit?]

/-- **A draft is what its steps tell.** -/
theorem applyAll_eq_told (window : Window) (steps : List Step) :
    applyAll { window } steps = told window steps := by
  induction steps using List.reverseRecOn with
  | nil => rfl
  | append_singleton steps step ih =>
    rw [told_concat, ← ih, applyAll, List.foldl_append]
    rfl

/-- **Steps of different kinds may change places.** -/
theorem apply_comm {first second : Step} (h : first.ctorIdx ≠ second.ctorIdx)
    (draft : QuerySetDraft) :
    (draft.apply first).apply second = (draft.apply second).apply first := by
  cases first <;> cases second <;> first | rfl | exact absurd rfl h

/-- What comes of steps on a window. -/
def outcome (window : Window) (steps : List Step) : Except Failure QuerySet :=
  (applyAll { window } steps).build

/-- **Two rows of steps tell the same** of each kind. -/
structure Agree (first second : List Step) : Prop where
  queries : first.filterMap Step.query? = second.filterMap Step.query?
  expression : lastSet Step.expression? first = lastSet Step.expression? second
  transforms : first.filterMap Step.transform? = second.filterMap Step.transform?
  instant : first.any Step.isAtInstant = second.any Step.isAtInstant
  limit : lastSet Step.limit? first = lastSet Step.limit? second

theorem Agree.told_eq {first second : List Step} (h : Agree first second) (window : Window) :
    told window first = told window second := by
  rw [told, told, h.queries, h.expression, h.transforms, h.instant, h.limit]

/-- **What comes of steps is what they tell**, kind by kind, whether it is a query or a
failure.  So rows of steps that tell the same come to the same, and neither the
order of steps of different kinds nor the number of steps in which dimensions and
conditions come matters. -/
theorem outcome_of_steps :
    (∀ table steps, QueryDraft.outcome table steps = (QueryDraft.told table steps).build) ∧
      (∀ table first second, QueryDraft.Agree first second →
        QueryDraft.outcome table first = QueryDraft.outcome table second) ∧
      (∀ table before after (first second : QueryDraft.Step), first.ctorIdx ≠ second.ctorIdx →
        QueryDraft.outcome table (before ++ [first, second] ++ after) =
          QueryDraft.outcome table (before ++ [second, first] ++ after)) ∧
      (∀ table before after keys more,
        QueryDraft.outcome table (before ++ [.groupedBy (keys ++ more)] ++ after) =
          QueryDraft.outcome table (before ++ [.groupedBy keys, .groupedBy more] ++ after)) ∧
      (∀ table before after filter more,
        QueryDraft.outcome table (before ++ [.filtered (filter.merge more)] ++ after) =
          QueryDraft.outcome table (before ++ [.filtered filter, .filtered more] ++ after)) ∧
      (∀ window steps, outcome window steps = (told window steps).build) ∧
      (∀ window first second, Agree first second →
        outcome window first = outcome window second) ∧
      ∀ window before after (first second : Step), first.ctorIdx ≠ second.ctorIdx →
        outcome window (before ++ [first, second] ++ after) =
          outcome window (before ++ [second, first] ++ after) := by
  have hquery (table : String) (steps : List QueryDraft.Step) :
      QueryDraft.outcome table steps = (QueryDraft.told table steps).build :=
    congrArg QueryDraft.build (QueryDraft.applyAll_eq_told table steps)
  have hset (window : Window) (steps : List Step) :
      outcome window steps = (told window steps).build :=
    congrArg build (applyAll_eq_told window steps)
  refine ⟨hquery, fun table first second h => ?_, fun table before after first second h => ?_,
    fun table before after keys more => ?_, fun table before after filter more => ?_, hset,
    fun window first second h => ?_, fun window before after first second h => ?_⟩
  · rw [hquery, hquery, h.told_eq]
  · exact congrArg QueryDraft.build (foldl_middle (QueryDraft.apply_comm h) _ before after)
  · exact congrArg QueryDraft.build
      (foldl_middle (fun draft => draft.groupedBy_append keys more) _ before after)
  · exact congrArg QueryDraft.build
      (foldl_middle (fun draft => draft.filtered_merge filter more) _ before after)
  · rw [hset, hset, h.told_eq]
  · exact congrArg build (foldl_middle (apply_comm h) _ before after)

/-- A share of calls put together in two ways: in the second, aliases and row limits are
set that do not last, and dimensions come twice.  An alias may then be set before the
interval or after it, and a row limit before the set is asked at an instant or after. -/
theorem outcome_of_steps_share :
    let counted : List QueryDraft.Step :=
      [.measuring "total" .sum, .groupedBy ["callee", "le"], .filtered ⟨[.equal "k" "v"]⟩]
    let counted' : List QueryDraft.Step :=
      [.named "b", .groupedBy ["callee"], .filtered ⟨[.equal "k" "v"]⟩, .measuring "total" .sum,
        .groupedBy ["le", "callee"], .named "a"]
    let all : QueryDraft := { table := "calls", label := "b", metric := some ("total", .sum) }
    let share (some : QueryDraft) : List Step :=
      [.adding some, .adding all, .combined "a / b", .atInstant, .limited 5]
    let share' (some : QueryDraft) : List Step :=
      [.limited 1, .atInstant, .combined "b", .adding some, .limited 5, .adding all,
        .combined "a / b"]
    QueryDraft.outcome "calls" counted = QueryDraft.outcome "calls" counted' ∧
      QueryDraft.outcome "calls" counted' =
        .ok ⟨"calls", "a", "total", .sum, 60, ["callee", "le"], ⟨[.equal "k" "v"]⟩, []⟩ ∧
      (∀ some,
        outcome ⟨1000000, 4600000⟩ (share some) = outcome ⟨1000000, 4600000⟩ (share' some)) ∧
      outcome ⟨1000000, 4600000⟩ (share' { all with label := "a" }) =
        .ok ⟨1000000, 4600000, [⟨"calls", "a", "total", .sum, 60, [], ⟨[]⟩, []⟩,
          ⟨"calls", "b", "total", .sum, 60, [], ⟨[]⟩, []⟩], "a / b", [], true, some 5⟩ ∧
      QueryDraft.outcome "calls" (counted ++ [.named "b", .every 30] ++ []) =
        QueryDraft.outcome "calls" (counted ++ [.every 30, .named "b"] ++ []) ∧
      ∀ some, outcome ⟨1000000, 4600000⟩ (share some ++ [.limited 1, .atInstant] ++ []) =
        outcome ⟨1000000, 4600000⟩ (share some ++ [.atInstant, .limited 1] ++ []) := by
  intro counted counted' all share share'
  have hcounted : QueryDraft.Agree counted counted' := ⟨rfl, rfl, rfl, by decide, rfl, rfl⟩
  have hshare (some : QueryDraft) : Agree (share some) (share' some) := ⟨rfl, rfl, rfl, rfl, rfl⟩
  obtain ⟨hquery, hagree, hswap, -, -, hset, hsetAgree, hsetSwap⟩ := outcome_of_steps
  refine ⟨hagree "calls" _ _ hcounted, ?_, fun some => hsetAgree _ _ _ (hshare some), ?_,
    hswap "calls" _ _ _ _ (by decide), fun some => hsetSwap _ _ _ _ _ (by decide)⟩
  · rw [hquery]
    decide
  · rw [hset]
    decide +kernel

end QuerySetDraft
end RpcMetrics
