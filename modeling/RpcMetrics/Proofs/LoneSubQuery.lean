import Mathlib
import RpcMetrics.Proofs.DraftCompletion
import RpcMetrics.Proofs.ExpressionGrammar

/-! # What the alias of a lone sub-query says

Where a draft of a query set has one sub-query and no expression, the alias of the
sub-query is taken for the expression, and is read as one.  Any text but the
empty one may be an alias, and few of them are expressions.  Those that are fall
into two kinds.

* The alias is a **name**, and then the expression denotes the sub-query.
* The alias is a **constant**: an expression without names, such as `1` or `(2)`.
  Nothing stops such a draft, and its expression denotes no sub-query at all.

There is no third kind (`Expression.names_of_own`): whatever names there are in the
alias have to be the alias, and a text that holds itself as a name is that name.
**So the expression refers to the sub-query iff the alias is a name**
(`QuerySetDraft.alone_denotes_iff`). -/
namespace RpcMetrics

/-! ### Texts that are read as expressions over themselves -/

namespace Expression
variable {text : List Char} {tokens : List Token} {names : List String}

theorem Spells.spelled_of_mem (h : Spells tokens text) : ∀ token ∈ tokens, token.Spelled := by
  induction h with
  | nil _ =>
    intro token htoken
    cases htoken
  | cons _ hspelled _ ih =>
    intro token htoken
    rcases List.mem_cons.1 htoken with rfl | hothers
    · exact hspelled
    · exact ih token hothers

/-- What an expression refers to is spelled as a name. -/
theorem IsExpression.isName_of_mem (h : IsExpression text names) {name : String}
    (hname : name ∈ names) : IsName name.toList := by
  obtain ⟨tokens, hspells, hjoined⟩ := h
  exact hspells.spelled_of_mem _ ((hjoined.mem_iff name).1 hname)

/-- A name is an expression, and refers to itself. -/
theorem isExpression_of_isName (h : IsName text) : IsExpression text [String.ofList text] := by
  have hspelled : Token.Spelled (.name text) := h
  have hspells : Spells [.name text] (text ++ []) :=
    spells_cons hspelled (.nil (List.forall_mem_nil _))
  rw [List.append_nil] at hspells
  exact ⟨_, hspells, .single (.name text)⟩

theorem aliases_of_isName {text : String} (h : IsName text.toList) :
    aliases text = .ok (.ofList [text]) := by
  have hself := isExpression_of_isName h
  rw [String.ofList_toList] at hself
  exact scan_eq_ok_iff.2 ⟨_, hself, rfl⟩

/-- A constant refers to nothing. -/
theorem aliases_eq_empty_iff {text : String} :
    aliases text = .ok .empty ↔ IsExpression text.toList [] := by
  constructor
  · intro h
    obtain ⟨names, hnames, hempty⟩ := scan_eq_ok_iff.1 h
    have hnone : names = [] := by
      refine List.eq_nil_iff_forall_not_mem.2 fun name hname => ?_
      have hin := Data.NameSet.mem_ofList.2 hname
      rw [← hempty] at hin
      exact Data.NameSet.not_mem_empty name hin
    rwa [hnone] at hnames
  · intro h
    exact scan_eq_ok_iff.2 ⟨[], h, rfl⟩

/-- **A text that refers to nothing but itself** is a name, or refers to nothing. -/
theorem names_of_own {text : String} {set : Data.NameSet} (h : aliases text = .ok set)
    (hown : ∀ name ∈ set, name = text) :
    IsName text.toList ∧ set = .ofList [text] ∨
      ¬ IsName text.toList ∧ set = .empty := by
  by_cases hname : IsName text.toList
  · rw [aliases_of_isName hname] at h
    exact Or.inl ⟨hname, (Except.ok.inj h).symm⟩
  · right
    refine ⟨hname, Data.NameSet.ext fun name => ?_⟩
    constructor
    · intro hin
      obtain ⟨names, hnames, rfl⟩ := scan_eq_ok_iff.1 h
      have hnamed := hnames.isName_of_mem (Data.NameSet.mem_ofList.1 hin)
      rw [hown name hin] at hnamed
      exact absurd hnamed hname
    · intro hin
      exact absurd hin (Data.NameSet.not_mem_empty name)

end Expression

namespace QuerySetDraft
variable {draft : QuerySetDraft} {query : QueryDraft}

/-- The draft has one sub-query and no expression. -/
structure Alone (draft : QuerySetDraft) (query : QueryDraft) : Prop where
  none : draft.expression = none
  only : draft.queries = [query]

theorem Alone.combines_iff (h : draft.Alone query) {expression : String} :
    draft.Combines expression ↔ expression = query.label := by
  constructor
  · intro hcombines
    cases hcombines with
    | given hgiven =>
      rw [h.none] at hgiven
      cases hgiven
    | alone _ honly =>
      rw [h.only] at honly
      rw [(List.cons.inj honly).1]
  · rintro rfl
    exact .alone h.none h.only

theorem Alone.mem_labels_iff (h : draft.Alone query) {name : String} :
    name ∈ draft.labels ↔ name = query.label := by
  rw [labels, h.only, List.map_singleton, List.mem_singleton]

/-- A lone sub-query fits iff its alias is a name or a constant. -/
theorem Alone.fits_iff (h : draft.Alone query) : draft.Fits ↔
    (0 ≤ draft.window.start ∧ draft.window.start ≤ draft.window.stop) ∧ query.metric.isSome ∧
      (Expression.IsName query.label.toList ∨ Expression.IsExpression query.label.toList []) := by
  have hquery : query ∈ draft.queries := by
    rw [h.only]
    exact List.mem_singleton_self query
  constructor
  · intro hfits
    refine ⟨⟨hfits.start_nonneg, hfits.start_le_stop⟩, hfits.measured query hquery, ?_⟩
    obtain ⟨expression, set, hcombines, hset, hin⟩ := hfits.resolves
    obtain rfl := h.combines_iff.1 hcombines
    have hown : ∀ name ∈ set, name = query.label := by
      intro name hname
      exact h.mem_labels_iff.1 (hin name hname)
    rcases Expression.names_of_own hset hown with ⟨hname, -⟩ | ⟨-, rfl⟩
    · exact Or.inl hname
    · exact Or.inr (Expression.aliases_eq_empty_iff.1 hset)
  · rintro ⟨⟨hstart, hstop⟩, hmetric, hlabel⟩
    have hresolves : ∃ set, Expression.aliases query.label = .ok set ∧
        ∀ name ∈ set, name ∈ draft.labels := by
      rcases hlabel with hname | hconstant
      · refine ⟨_, Expression.aliases_of_isName hname, fun name hin => ?_⟩
        exact h.mem_labels_iff.2 (List.mem_singleton.1 (Data.NameSet.mem_ofList.1 hin))
      · refine ⟨_, Expression.aliases_eq_empty_iff.2 hconstant, fun name hin => ?_⟩
        exact absurd hin (Data.NameSet.not_mem_empty name)
    obtain ⟨set, hset, hin⟩ := hresolves
    have hne : query.label ≠ "" := by
      intro hempty
      rw [hempty] at hset
      cases hset
    refine ⟨hstart, Int64.le_trans hstart hstop, hstop, List.ne_nil_of_mem hquery, ?_, ?_, ?_,
      query.label, set, h.combines_iff.2 rfl, hset, hin⟩
    · simpa [h.only] using hmetric
    · simpa [h.only] using hne
    · rw [labels, h.only]
      exact List.nodup_singleton _

/-- **Whether a lone sub-query is referred to.**  A draft of one sub-query without an
expression can be finished iff its window is in order, its sub-query measures
something, and the alias is a name or a constant.  The expression is the alias
then; it refers to the sub-query if the alias is a name, and otherwise to nothing
at all. -/
theorem alone_denotes_iff (h : draft.Alone query) :
    ((∃ set, draft.build = .ok set) ↔
      (0 ≤ draft.window.start ∧ draft.window.start ≤ draft.window.stop) ∧ query.metric.isSome ∧
        (Expression.IsName query.label.toList ∨
          Expression.IsExpression query.label.toList [])) ∧
    ∀ set, draft.build = .ok set → set.expression = query.label ∧
      (Expression.aliases set.expression = .ok (.ofList [query.label]) ↔
        Expression.IsName query.label.toList) ∧
      (Expression.aliases set.expression = .ok .empty ↔
        ¬ Expression.IsName query.label.toList) := by
  refine ⟨exists_build_iff.trans h.fits_iff, fun set hset => ?_⟩
  have hexpression := h.combines_iff.1 (completes_of_build hset).expression
  obtain ⟨expression, names, hcombines, hnames, hin⟩ :=
    (exists_build_iff.1 ⟨set, hset⟩).resolves
  obtain rfl := h.combines_iff.1 hcombines
  have hown : ∀ name ∈ names, name = query.label := by
    intro name hname
    exact h.mem_labels_iff.1 (hin name hname)
  -- a set of one name is not the empty one
  have hne : Data.NameSet.ofList [query.label] ≠ .empty := by
    intro heq
    have hself : query.label ∈ Data.NameSet.ofList [query.label] :=
      Data.NameSet.mem_ofList.2 (List.mem_singleton_self _)
    rw [heq] at hself
    exact Data.NameSet.not_mem_empty _ hself
  refine ⟨hexpression, ?_⟩
  rw [hexpression, hnames]
  rcases Expression.names_of_own hnames hown with ⟨hname, rfl⟩ | ⟨hname, rfl⟩
  · simp [hname, hne]
  · simp [hname, hne.symm]

/-- Two sub-queries that differ in their aliases, of which one is a name and the
other a number in parentheses.  Both are finished. -/
theorem alone_denotes_iff_two :
    let draft (label : String) : QuerySetDraft :=
      { window := ⟨1000000, 4600000⟩,
        queries := [{ table := "calls", label, metric := some ("total", .sum) }] }
    (∃ set, (draft "total_2").build = .ok set ∧
      Expression.aliases set.expression = .ok (.ofList ["total_2"])) ∧
    ∃ set, (draft "(2)").build = .ok set ∧ Expression.aliases set.expression = .ok .empty := by
  intro draft
  have halone (label : String) : (draft label).Alone
      { table := "calls", label, metric := some ("total", .sum) } := ⟨rfl, rfl⟩
  have hname : Expression.IsName "total_2".toList := by
    refine ⟨by decide, ?_⟩
    have hchars : ['o', 't', 'a', 'l', '_', '2'].all Expression.isNameChar := by decide
    exact List.all_eq_true.1 hchars
  have hconstant : Expression.IsExpression "(2)".toList [] :=
    Expression.aliases_eq_empty_iff.1 (by cbv)
  have hother : ¬ Expression.IsName "(2)".toList := by
    rintro ⟨hstart, -⟩
    exact absurd hstart (by decide)
  obtain ⟨hbuild, hrefers⟩ := alone_denotes_iff (halone "total_2")
  obtain ⟨hbuild', hrefers'⟩ := alone_denotes_iff (halone "(2)")
  obtain ⟨set, hset⟩ := hbuild.2 ⟨⟨by decide, by decide⟩, rfl, Or.inl hname⟩
  obtain ⟨set', hset'⟩ := hbuild'.2 ⟨⟨by decide, by decide⟩, rfl, Or.inr hconstant⟩
  exact ⟨⟨set, hset, (hrefers set hset).2.1.2 hname⟩,
    set', hset', (hrefers' set' hset').2.2.2 hother⟩

/-- A sub-query whose alias is a number: the expression is the number. -/
theorem alone_build_number :
    ∃ set, QuerySetDraft.build
        { window := ⟨1000000, 4600000⟩,
          queries := [{ table := "calls", label := "1", metric := some ("total", .sum) }] } =
        .ok set ∧
      Expression.aliases set.expression ≠ .ok (.ofList ["1"]) := by
  refine ⟨⟨1000000, 4600000, [⟨"calls", "1", "total", .sum, 60, [], .empty, []⟩], "1", [], false,
    none⟩, by cbv, ?_⟩
  have hnothing : Expression.aliases "1" = .ok .empty := by cbv
  intro hself
  have hlists : [] = ["1"] :=
    congrArg Data.NameSet.toList (Except.ok.inj (hnothing.symm.trans hself))
  cases hlists

end QuerySetDraft
end RpcMetrics
