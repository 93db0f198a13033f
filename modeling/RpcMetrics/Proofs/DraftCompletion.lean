import Mathlib
import RpcMetrics.Proofs.DraftChecks

/-! # Which drafts can be finished

`build_eq_ok_iff` tells a finished query set by looking at the query set.  Here
the draft alone is looked at: it says whether it can be finished (`Fits`), and
what the query set then holds (`Completes`).  Two things have to be carried
from the draft to the query set: its aliases, which finishing keeps in their
order (`labels_of_built`), and its expression, which is the only alias where
none is given (`combines_iff`).

**Finishing a draft is sound and complete** (`build_exact`), and whatever stops
it is a fault of validation.
-/
namespace RpcMetrics
namespace QuerySetDraft

/-- The aliases of the sub-queries. -/
def labels (draft : QuerySetDraft) : List String := draft.queries.map QueryDraft.label

/-- The expression that a draft stands for: the one it is given, or else the alias
of its only sub-query. -/
inductive Combines (draft : QuerySetDraft) : String → Prop
  | given {expression : String} (h : draft.expression = some expression) :
      Combines draft expression
  | alone {query : QueryDraft} (none : draft.expression = none)
      (only : draft.queries = [query]) : Combines draft query.label

/-- **A draft that fits together.** -/
structure Fits (draft : QuerySetDraft) : Prop where
  start_nonneg : 0 ≤ draft.window.start
  stop_nonneg : 0 ≤ draft.window.stop
  start_le_stop : draft.window.start ≤ draft.window.stop
  queries_ne_nil : draft.queries ≠ []
  measured : ∀ query ∈ draft.queries, query.metric.isSome
  label_ne_empty : ∀ query ∈ draft.queries, query.label ≠ ""
  labels_nodup : draft.labels.Nodup
  /-- There is an expression, given or by default, and it refers to aliases only. -/
  resolves : ∃ expression names, draft.Combines expression ∧
    Expression.aliases expression = .ok names ∧ ∀ name ∈ names, name ∈ draft.labels

/-- **The query set that a draft is finished as.** -/
structure Completes (draft : QuerySetDraft) (set : QuerySet) : Prop where
  start : set.start = draft.window.start
  stop : set.stop = draft.window.stop
  /-- The sub-queries are those of the draft, in the order in which they were
  added. -/
  queries : List.Forall₂ (fun d query => ∃ metric method, d.metric = some (metric, method) ∧
    query = d.query metric method) draft.queries set.queries
  expression : draft.Combines set.expression
  transforms : set.transforms = draft.transforms
  instant : set.instant = draft.instant
  limit : set.limit = draft.limit
  /-- A name in the expression leads to the one and only sub-query with this
  alias. -/
  found : ∃ names, Expression.aliases set.expression = .ok names ∧ ∀ name ∈ names,
    ∃ query, set.query? name = some query ∧
      (set.queries.filter fun query => query.label == name) = [query]

/-! ### From drafts of sub-queries to sub-queries -/

section SubQueries
variable {drafts : List QueryDraft} {queries : List Query}

/-- Finishing keeps the aliases in their order. -/
theorem labels_of_built (h : List.Forall₂ (fun d query => d.build = .ok query) drafts queries) :
    queries.map Query.label = drafts.map QueryDraft.label := by
  induction h with
  | nil => rfl
  | cons hbuild _ ih =>
    rw [List.map_cons, List.map_cons, (QueryDraft.label_of_build hbuild).1, ih]

/-- Sub-queries are finished if they measure something under an alias. -/
theorem exists_built (h : ∀ d ∈ drafts, d.metric.isSome ∧ d.label ≠ "") :
    ∃ queries, List.Forall₂ (fun d query => d.build = .ok query) drafts queries := by
  refine exists_forall₂ fun d hd => ?_
  obtain ⟨hmetric, hlabel⟩ := h d hd
  obtain ⟨⟨metric, method⟩, hmeasured⟩ := Option.isSome_iff_exists.1 hmetric
  exact ⟨d.query metric method,
    QueryDraft.build_eq_ok_iff.2 ⟨hlabel, metric, method, hmeasured, rfl⟩⟩

end SubQueries

theorem combines_iff {draft : QuerySetDraft} {expression : String} :
    draft.Combines expression ↔
      chooseExpression draft.expression draft.labels = .ok expression := by
  unfold labels
  constructor
  · intro h
    cases h with
    | given h => rw [h]; rfl
    | alone hnone honly => rw [hnone, honly]; rfl
  · intro h
    cases hgiven : draft.expression with
    | some given =>
      rw [hgiven] at h
      obtain rfl := Except.ok.inj h
      exact .given hgiven
    | none =>
      rw [hgiven] at h
      cases hqueries : draft.queries with
      | nil => rw [hqueries] at h; cases h
      | cons query rest =>
        rw [hqueries] at h
        cases rest with
        | nil =>
          obtain rfl := Except.ok.inj h
          exact .alone hgiven hqueries
        | cons next rest => cases h

/-- An expression that is given is the one the draft stands for. -/
theorem Combines.eq_of_given {draft : QuerySetDraft} {expression given : String}
    (h : draft.Combines expression) (hgiven : draft.expression = some given) :
    expression = given := by
  rw [combines_iff, hgiven] at h
  exact (Except.ok.inj h).symm

/-! ### What stops a draft -/

theorem error_of_require {α : Type} {check : Except ValidationFault α} {failure : Failure}
    (h : require check = .error failure) : ∃ fault, failure = .validation fault := by
  cases check with
  | ok a => cases h
  | error fault => exact ⟨fault, (Except.error.inj h).symm⟩

theorem error_of_queryBuild {d : QueryDraft} {failure : Failure} (h : d.build = .error failure) :
    ∃ fault, failure = .validation fault := by
  unfold QueryDraft.build at h
  split at h
  · exact ⟨_, (Except.error.inj h).symm⟩
  · split at h
    · exact ⟨_, (Except.error.inj h).symm⟩
    · cases h

/-- **Whatever stops a draft is a fault of validation**, as each of the checks
words its own. -/
theorem error_of_build {draft : QuerySetDraft} {failure : Failure}
    (h : draft.build = .error failure) : ∃ fault, failure = .validation fault := by
  unfold build at h
  rcases bind_eq_error_iff.1 h with h | ⟨_, -, h⟩
  · exact error_of_require h
  by_cases hq : draft.queries = []
  · rw [if_pos (by simpa using hq)] at h
    exact ⟨.noQueries, (Except.error.inj h).symm⟩
  rw [if_neg (by simpa using hq)] at h
  rcases bind_eq_error_iff.1 h with h | ⟨queries, -, h⟩
  · obtain ⟨d, -, hd⟩ := exists_of_mapM_eq_error h
    exact error_of_queryBuild hd
  rcases bind_eq_error_iff.1 h with h | ⟨_, -, h⟩
  · exact error_of_require h
  rcases bind_eq_error_iff.1 h with h | ⟨expression, -, h⟩
  · exact error_of_require h
  rcases bind_eq_error_iff.1 h with h | ⟨_, -, h⟩
  · exact error_of_require h
  · cases h

/-! ### Finishing a draft -/

/-- A draft that gives a sound query set fits together. -/
theorem fits_of_gives {draft : QuerySetDraft} {set : QuerySet} (hg : draft.Gives set)
    (hs : set.Sound) : draft.Fits := by
  have hlabels : set.queries.map Query.label = draft.labels := labels_of_built hg.queries
  have hstart : 0 ≤ draft.window.start := hg.start ▸ hs.start_nonneg
  have hstop : draft.window.start ≤ draft.window.stop := by
    rw [← hg.start, ← hg.stop]
    exact hs.start_le_stop
  have hbuilt : ∀ d ∈ draft.queries, ∃ query, d.build = .ok query := fun d hd => by
    obtain ⟨query, -, hbuild⟩ := exists_of_forall₂ hg.queries.flip d hd
    exact ⟨query, hbuild⟩
  refine ⟨hstart, Int64.le_trans hstart hstop, hstop, ?_, ?_, ?_, hlabels ▸ hs.labels_nodup, ?_⟩
  · intro hnil
    have hqueries := hg.queries
    rw [hnil, List.forall₂_nil_left_iff] at hqueries
    exact hs.queries_ne_nil hqueries
  · intro d hd
    obtain ⟨query, hbuild⟩ := hbuilt d hd
    obtain ⟨-, metric, method, hmeasured, -⟩ := QueryDraft.build_eq_ok_iff.1 hbuild
    rw [hmeasured]
    rfl
  · intro d hd
    obtain ⟨query, hbuild⟩ := hbuilt d hd
    exact (QueryDraft.build_eq_ok_iff.1 hbuild).1
  · obtain ⟨names, hnames, hone⟩ := hs.expression_resolves
    refine ⟨set.expression, names, combines_iff.2 (hlabels ▸ hg.expression), hnames, ?_⟩
    intro name hname
    rw [← hlabels]
    exact (count_eq_one_iff hs.labels_nodup).1 (hone name hname)

/-- **A draft that fits together gives a sound query set.** -/
theorem exists_gives {draft : QuerySetDraft} (h : draft.Fits) :
    ∃ set : QuerySet, draft.Gives set ∧ set.Sound := by
  obtain ⟨expression, names, hcombines, hnames, hin⟩ := h.resolves
  obtain ⟨queries, hqueries⟩ := exists_built fun d hd => ⟨h.measured d hd, h.label_ne_empty d hd⟩
  have hlabels : queries.map Query.label = draft.labels := labels_of_built hqueries
  let set : QuerySet := {
    start := draft.window.start, stop := draft.window.stop, queries, expression,
    transforms := draft.transforms, instant := draft.instant, limit := draft.limit }
  have hchosen : chooseExpression draft.expression (queries.map Query.label) = .ok expression :=
    hlabels ▸ combines_iff.1 hcombines
  refine ⟨set, ⟨rfl, rfl, hqueries, hchosen, rfl, rfl, rfl⟩, h.start_nonneg, h.start_le_stop,
    ?_, ?_, hlabels ▸ h.labels_nodup, names, hnames, fun name hname => ?_⟩
  · rintro hnil
    obtain rfl : queries = [] := hnil
    exact h.queries_ne_nil (List.forall₂_nil_right_iff.1 hqueries)
  · intro query hquery
    obtain ⟨d, -, hbuild⟩ := exists_of_forall₂ hqueries query hquery
    exact (QueryDraft.label_of_build hbuild).2
  · show (queries.map Query.label).count name = 1
    rw [hlabels]
    exact (count_eq_one_iff h.labels_nodup).2 (hin name hname)

/-- An alias that occurs once leads to its only sub-query. -/
theorem query?_of_count {set : QuerySet} {name : String}
    (h : (set.queries.map Query.label).count name = 1) :
    ∃ query, set.query? name = some query ∧
      (set.queries.filter fun query => query.label == name) = [query] := by
  have hlength : (set.queries.filter fun query => query.label == name).length = 1 := by
    rw [← h, List.count_eq_countP, List.countP_map, List.countP_eq_length_filter]
    rfl
  obtain ⟨query, hquery⟩ := List.length_eq_one_iff.1 hlength
  refine ⟨query, ?_, hquery⟩
  rw [QuerySet.query?, ← List.head?_filter, hquery]
  rfl

theorem completes_of_gives {draft : QuerySetDraft} {set : QuerySet} (hg : draft.Gives set)
    (hs : set.Sound) : draft.Completes set := by
  have hlabels : set.queries.map Query.label = draft.labels := labels_of_built hg.queries
  refine ⟨hg.start, hg.stop, ?_, combines_iff.2 (hlabels ▸ hg.expression), hg.transforms,
    hg.instant, hg.limit, ?_⟩
  · exact hg.queries.imp fun d query hbuild => (QueryDraft.build_eq_ok_iff.1 hbuild).2
  · obtain ⟨names, hnames, hone⟩ := hs.expression_resolves
    exact ⟨names, hnames, fun name hname => query?_of_count (hone name hname)⟩

/-- **A draft is finished iff it fits together.** -/
theorem exists_build_iff {draft : QuerySetDraft} : (∃ set, draft.build = .ok set) ↔ draft.Fits := by
  constructor
  · rintro ⟨set, h⟩
    obtain ⟨hg, hs⟩ := build_eq_ok_iff.1 h
    exact fits_of_gives hg hs
  · intro h
    obtain ⟨set, hset⟩ := exists_gives h
    exact ⟨set, build_eq_ok_iff.2 hset⟩

theorem completes_of_build {draft : QuerySetDraft} {set : QuerySet} (h : draft.build = .ok set) :
    draft.Completes set := by
  obtain ⟨hg, hs⟩ := build_eq_ok_iff.1 h
  exact completes_of_gives hg hs

/-- **Finishing a draft is sound and complete.**  It succeeds iff the draft fits
together; whatever else happens is a fault of validation; and the query set
holds what the draft holds, with each name of its expression leading to one
sub-query. -/
theorem build_exact (draft : QuerySetDraft) :
    ((∃ set, draft.build = .ok set) ↔ draft.Fits) ∧
      (∀ failure, draft.build = .error failure → ∃ fault, failure = .validation fault) ∧
      ∀ set, draft.build = .ok set → draft.Completes set :=
  ⟨exists_build_iff, fun _ => error_of_build, fun _ => completes_of_build⟩

/-- A ratio of two sub-queries is finished, and the second alias leads to the second
sub-query alone; without that sub-query the ratio is refused. -/
theorem build_exact_ratio :
    let counted : QueryDraft := { table := "calls", metric := some ("total", .sum) }
    let ratio (queries : List QueryDraft) : QuerySetDraft := {
      window := ⟨1000000, 4600000⟩, queries, expression := some "(a / b) * 100", instant := true }
    (∃ set query, (ratio [counted, counted.named "b"]).build = .ok set ∧
      set.query? "b" = some query ∧
      (set.queries.filter fun query => query.label == "b") = [query]) ∧
    ∃ fault, (ratio [counted]).build = .error (.validation fault) := by
  intro counted ratio
  have hnames : Expression.aliases "(a / b) * 100" = .ok (.ofList ["a", "b"]) := by cbv
  have hfits : (ratio [counted, counted.named "b"]).Fits :=
    ⟨by decide, by decide, by decide, by decide, by decide, by decide, by decide,
      _, _, .given rfl, hnames, by decide⟩
  constructor
  · obtain ⟨set, hset⟩ := (build_exact (ratio [counted, counted.named "b"])).1.2 hfits
    have hcompletes := (build_exact (ratio [counted, counted.named "b"])).2.2 set hset
    have hexpression : set.expression = "(a / b) * 100" := hcompletes.expression.eq_of_given rfl
    obtain ⟨names, hfound, hleads⟩ := hcompletes.found
    rw [hexpression, hnames] at hfound
    obtain rfl := Except.ok.inj hfound
    obtain ⟨query, hquery⟩ := hleads "b" (by decide)
    exact ⟨set, query, hset, hquery⟩
  · cases hbuilt : (ratio [counted]).build with
    | error failure =>
      obtain ⟨fault, rfl⟩ := (build_exact (ratio [counted])).2.1 failure hbuilt
      exact ⟨fault, rfl⟩
    | ok set =>
      obtain ⟨expression, names, hcombines, halias, hin⟩ :=
        ((build_exact (ratio [counted])).1.1 ⟨set, hbuilt⟩).resolves
      obtain rfl : expression = "(a / b) * 100" := hcombines.eq_of_given rfl
      rw [hnames] at halias
      obtain rfl := Except.ok.inj halias
      exact absurd (hin "b" (by decide)) (by decide)

end QuerySetDraft
end RpcMetrics
