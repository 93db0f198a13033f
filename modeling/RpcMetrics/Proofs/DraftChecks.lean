import Mathlib.Data.List.Forall2
import Mathlib.Data.List.Nodup
import RpcMetrics.Query.Draft

/-! # What finishing a draft checks

A draft of a query set is finished by `QuerySetDraft.build`, which runs its
checks one after the other and stops at the first that fails.  Each check is
characterized by itself: the window (`checkWindow_eq_ok_iff`,
`checkWindow_eq_error_iff`), the sub-queries (`QueryDraft.build_eq_ok_iff`), the
aliases (`checkAliases_eq_ok_iff`) and the expression
(`checkExpression_eq_ok_iff`).

**Finishing is exact** (`build_eq_ok_iff`): a draft gives a query set iff the
query set says what the draft says (`Gives`) and fits together
(`QuerySet.Sound`).  The second half is all that is known of a query set whose
draft has been forgotten, which is what a store is handed.
-/
namespace RpcMetrics

/-! ### Computations that may fail -/

section Except
variable {ε α β : Type}

theorem bind_eq_ok_iff {x : Except ε α} {f : α → Except ε β} {b : β} :
    x >>= f = .ok b ↔ ∃ a, x = .ok a ∧ f a = .ok b := by
  cases x <;> simp [bind, Except.bind]

theorem bind_eq_error_iff {x : Except ε α} {f : α → Except ε β} {e : ε} :
    x >>= f = .error e ↔ x = .error e ∨ ∃ a, x = .ok a ∧ f a = .error e := by
  cases x <;> simp [bind, Except.bind]

theorem toOption_eq_some_iff {x : Except ε α} {a : α} : x.toOption = some a ↔ x = .ok a := by
  cases x <;> simp [Except.toOption]

/-- A list is worked through without a failure iff each element is. -/
theorem mapM_eq_ok_iff {f : α → Except ε β} {l : List α} {r : List β} :
    l.mapM f = .ok r ↔ List.Forall₂ (fun a b => f a = .ok b) l r := by
  induction l generalizing r with
  | nil =>
    rw [List.mapM_nil, List.forall₂_nil_left_iff]
    exact ⟨fun h => (Except.ok.inj h).symm, fun h => h ▸ rfl⟩
  | cons a l ih =>
    simp only [List.mapM_cons, bind_eq_ok_iff, List.forall₂_cons_left_iff]
    constructor
    · rintro ⟨b, hb, bs, hbs, h⟩
      exact ⟨b, bs, hb, ih.1 hbs, (Except.ok.inj h).symm⟩
    · rintro ⟨b, bs, hb, hbs, rfl⟩
      exact ⟨b, hb, bs, ih.2 hbs, rfl⟩

/-- What has come out of a list has come out of one of its elements. -/
theorem exists_of_forall₂ {R : α → β → Prop} {l : List α} {r : List β}
    (h : List.Forall₂ R l r) : ∀ b ∈ r, ∃ a ∈ l, R a b := by
  induction h with
  | nil => simp
  | cons hab _ ih =>
    rintro x (_ | ⟨_, hx⟩)
    · exact ⟨_, List.mem_cons_self .., hab⟩
    · obtain ⟨a, ha, hR⟩ := ih x hx
      exact ⟨a, List.mem_cons_of_mem _ ha, hR⟩

/-- Where something belongs to each element, a list belongs to the list. -/
theorem exists_forall₂ {R : α → β → Prop} {l : List α} (h : ∀ a ∈ l, ∃ b, R a b) :
    ∃ r, List.Forall₂ R l r := by
  induction l with
  | nil => exact ⟨[], .nil⟩
  | cons a l ih =>
    obtain ⟨⟨b, hab⟩, hl⟩ := List.forall_mem_cons.1 h
    obtain ⟨r, hr⟩ := ih hl
    exact ⟨b :: r, .cons hab hr⟩

/-- Something has come out of each element of a list that is worked through. -/
theorem exists_of_mapM_eq_ok {f : α → Except ε β} {l : List α} {r : List β}
    (h : l.mapM f = .ok r) : ∀ a ∈ l, ∃ b ∈ r, f a = .ok b := by
  have hflip : List.Forall₂ (fun b a => f a = .ok b) r l := (mapM_eq_ok_iff.1 h).flip
  exact exists_of_forall₂ hflip

/-- A list that is not worked through fails at one of its elements. -/
theorem exists_of_mapM_eq_error {f : α → Except ε β} {l : List α} {e : ε}
    (h : l.mapM f = .error e) : ∃ a ∈ l, f a = .error e := by
  induction l with
  | nil =>
    rw [List.mapM_nil] at h
    cases h
  | cons a l ih =>
    rw [List.mapM_cons] at h
    rcases bind_eq_error_iff.1 h with h | ⟨b, -, h⟩
    · exact ⟨a, List.mem_cons_self .., h⟩
    · rcases bind_eq_error_iff.1 h with h | ⟨bs, -, h⟩
      · obtain ⟨x, hx, hfx⟩ := ih h
        exact ⟨x, List.mem_cons_of_mem _ hx, hfx⟩
      · cases h

end Except

/-! ### What fits together -/

/-- **A query set that fits together**: its window is in order, its sub-queries
can be told apart by their aliases, and its expression is one and refers to
these alone. -/
structure QuerySet.Sound (set : QuerySet) : Prop where
  start_nonneg : 0 ≤ set.start
  start_le_stop : set.start ≤ set.stop
  queries_ne_nil : set.queries ≠ []
  label_ne_empty : ∀ query ∈ set.queries, query.label ≠ ""
  labels_nodup : (set.queries.map Query.label).Nodup
  /-- Each name in the expression is the alias of one sub-query, and of one
  only. -/
  expression_resolves : ∃ names, Expression.aliases set.expression = .ok names ∧
    ∀ name ∈ names, (set.queries.map Query.label).count name = 1

namespace QueryDraft

/-- The query that a draft describes once it measures something. -/
def query (draft : QueryDraft) (metric : String) (method : Aggregation) : Query where
  table := draft.table
  label := draft.label
  metric := metric
  method := method
  interval := draft.interval
  groupBy := draft.groupBy
  filter := draft.filter
  transforms := draft.transforms

theorem build_eq_ok_iff {draft : QueryDraft} {query : Query} :
    draft.build = .ok query ↔ draft.label ≠ "" ∧
      ∃ metric method, draft.metric = some (metric, method) ∧
        query = draft.query metric method := by
  unfold build
  cases hm : draft.metric with
  | none => simp
  | some measured =>
    obtain ⟨metric, method⟩ := measured
    by_cases hl : draft.label = ""
    · rw [hl]
      simp
    · dsimp only
      rw [if_neg (by simpa using hl)]
      constructor
      · intro h
        exact ⟨hl, metric, method, rfl, (Except.ok.inj h).symm⟩
      · rintro ⟨-, _, _, h, rfl⟩
        cases h
        rfl

/-- Finishing keeps the alias, which is there. -/
theorem label_of_build {draft : QueryDraft} {query : Query} (h : draft.build = .ok query) :
    query.label = draft.label ∧ query.label ≠ "" := by
  obtain ⟨hl, metric, method, -, rfl⟩ := build_eq_ok_iff.1 h
  exact ⟨rfl, hl⟩

end QueryDraft

namespace QuerySetDraft

/-! ### The checks one by one -/

theorem checkWindow_eq_ok_iff {window : Window} :
    checkWindow window = .ok () ↔ 0 ≤ window.start ∧ window.start ≤ window.stop := by
  unfold checkWindow
  simp only [Bool.or_eq_true, decide_eq_true_eq, Int64.lt_iff_toInt_lt, Int64.le_iff_toInt_le,
    Int64.toInt_zero]
  split
  · simp only [reduceCtorEq, false_iff]
    omega
  · split
    · simp only [reduceCtorEq, false_iff]
      omega
    · simp only [true_iff]
      omega

/-- A window is in order iff it neither reaches before the epoch nor ends before
it starts. -/
theorem in_order_iff {window : Window} : 0 ≤ window.start ∧ window.start ≤ window.stop ↔
    ¬ (window.start < 0 ∨ window.stop < 0 ∨ window.stop < window.start) := by
  simp only [Int64.lt_iff_toInt_lt, Int64.le_iff_toInt_le, Int64.toInt_zero]
  omega

/-- A window is refused for reaching before the epoch, or else for ending before
it starts. -/
theorem checkWindow_eq_error_iff {window : Window} {fault : ValidationFault} :
    checkWindow window = .error fault ↔
      ((window.start < 0 ∨ window.stop < 0) ∧
        fault = .negativeWindow window.start window.stop) ∨
      (0 ≤ window.start ∧ 0 ≤ window.stop ∧ window.stop < window.start ∧
        fault = .invertedWindow window.start window.stop) := by
  unfold checkWindow
  simp only [Bool.or_eq_true, decide_eq_true_eq]
  -- the order of the ends is looked at only if neither lies before the epoch
  by_cases hneg : window.start < 0 ∨ window.stop < 0
  · have hpos : ¬ (0 ≤ window.start ∧ 0 ≤ window.stop) := by
      simp only [Int64.lt_iff_toInt_lt, Int64.le_iff_toInt_le, Int64.toInt_zero] at hneg ⊢
      omega
    rw [if_pos hneg, Except.error.injEq]
    constructor
    · rintro rfl
      exact Or.inl ⟨hneg, rfl⟩
    · rintro (⟨-, rfl⟩ | ⟨h1, h2, -⟩)
      · rfl
      · exact absurd ⟨h1, h2⟩ hpos
  · have hpos : 0 ≤ window.start ∧ 0 ≤ window.stop := by
      simp only [Int64.lt_iff_toInt_lt, Int64.le_iff_toInt_le, Int64.toInt_zero] at hneg ⊢
      omega
    rw [if_neg hneg]
    by_cases hinv : window.stop < window.start
    · rw [if_pos hinv, Except.error.injEq]
      constructor
      · rintro rfl
        exact Or.inr ⟨hpos.1, hpos.2, hinv, rfl⟩
      · rintro (⟨h, -⟩ | ⟨-, -, -, rfl⟩)
        · exact absurd h hneg
        · rfl
    · rw [if_neg hinv]
      constructor
      · intro h
        cases h
      · rintro (⟨h, -⟩ | ⟨-, -, h, -⟩)
        · exact absurd h hneg
        · exact absurd h hinv

theorem firstRepeated_eq_none_iff {seen names : List String} :
    firstRepeated seen names = none ↔ names.Nodup ∧ ∀ name ∈ names, name ∉ seen := by
  -- what has been seen grows along the list
  induction names generalizing seen with
  | nil => simp [firstRepeated]
  | cons name names ih =>
    rw [firstRepeated]
    by_cases hs : name ∈ seen
    · rw [if_pos (List.contains_iff_mem.2 hs)]
      simp [hs]
    · rw [if_neg (fun h => hs (List.contains_iff_mem.1 h)), ih, List.nodup_cons]
      constructor
      · rintro ⟨hnd, hout⟩
        refine ⟨⟨fun h => hout name h (List.mem_cons_self ..), hnd⟩, ?_⟩
        rintro x (_ | ⟨_, hx⟩)
        · exact hs
        · exact fun h => hout x hx (List.mem_cons_of_mem _ h)
      · rintro ⟨⟨hn, hnd⟩, hout⟩
        refine ⟨hnd, fun x hx h => ?_⟩
        rcases List.mem_cons.1 h with rfl | h
        · exact hn hx
        · exact hout x (List.mem_cons_of_mem _ hx) h

theorem checkAliases_eq_ok_iff {labels : List String} :
    checkAliases labels = .ok () ↔ labels.Nodup := by
  have hnone : firstRepeated [] labels = none ↔ labels.Nodup := by
    rw [firstRepeated_eq_none_iff]
    simp
  rw [← hnone, checkAliases]
  cases firstRepeated [] labels <;> simp

theorem checkExpression_eq_ok_iff {expression : String} {labels : List String} :
    checkExpression expression labels = .ok () ↔
      ∃ names, Expression.aliases expression = .ok names ∧ ∀ name ∈ names, name ∈ labels := by
  unfold checkExpression
  cases Expression.aliases expression with
  | error fault => simp
  | ok names =>
    simp only [Except.ok.injEq, exists_eq_left']
    cases hfind : names.toList.find? fun name => !labels.contains name with
    | some name =>
      have hin := List.mem_of_find?_eq_some hfind
      have hout := List.find?_some hfind
      simp only [reduceCtorEq, false_iff]
      intro h
      simp [h name hin] at hout
    | none =>
      simp only [true_iff]
      intro name hname
      simpa using List.find?_eq_none.1 hfind name hname

theorem require_eq_ok_iff {α : Type} {check : Except ValidationFault α} {a : α} :
    require check = .ok a ↔ check = .ok a := by
  cases check <;> simp [require, Except.mapError]

/-! ### Finishing a draft -/

/-- The query set says what the draft says. -/
structure Gives (draft : QuerySetDraft) (set : QuerySet) : Prop where
  start : set.start = draft.window.start
  stop : set.stop = draft.window.stop
  queries : List.Forall₂ (fun d query => d.build = .ok query) draft.queries set.queries
  /-- A single alias stands for the expression that is left out. -/
  expression : chooseExpression draft.expression (set.queries.map Query.label) =
    .ok set.expression
  transforms : set.transforms = draft.transforms
  instant : set.instant = draft.instant
  limit : set.limit = draft.limit

theorem count_eq_one_iff {labels : List String} (hnd : labels.Nodup) {name : String} :
    labels.count name = 1 ↔ name ∈ labels := by
  constructor
  · intro h
    exact List.count_pos_iff.1 (h ▸ Nat.one_pos)
  · intro h
    exact List.nodup_iff_count_eq_one.1 hnd name h

theorem sound_of_build {draft : QuerySetDraft} {set : QuerySet} (h : draft.build = .ok set) :
    draft.Gives set ∧ set.Sound := by
  -- one check after the other, in the order in which they are made
  unfold build at h
  obtain ⟨_, hwindow, h⟩ := bind_eq_ok_iff.1 h
  have hwindow := checkWindow_eq_ok_iff.1 (require_eq_ok_iff.1 hwindow)
  by_cases hq : draft.queries = []
  · simp [hq, bind, Except.bind, throw, throwThe, MonadExceptOf.throw] at h
  rw [if_neg (by simpa using hq)] at h
  obtain ⟨queries, hqueries, h⟩ := bind_eq_ok_iff.1 h
  obtain ⟨_, haliases, h⟩ := bind_eq_ok_iff.1 h
  obtain ⟨expression, hchoose, h⟩ := bind_eq_ok_iff.1 h
  obtain ⟨_, hexpression, h⟩ := bind_eq_ok_iff.1 h
  have hqueries := mapM_eq_ok_iff.1 hqueries
  have hnodup := checkAliases_eq_ok_iff.1 (require_eq_ok_iff.1 haliases)
  obtain ⟨names, hnames, hin⟩ := checkExpression_eq_ok_iff.1 (require_eq_ok_iff.1 hexpression)
  obtain rfl := Except.ok.inj h
  refine ⟨⟨rfl, rfl, hqueries, require_eq_ok_iff.1 hchoose, rfl, rfl, rfl⟩,
    ⟨hwindow.1, hwindow.2, ?_, ?_, hnodup, names, hnames, fun name hname => ?_⟩⟩
  · intro hnil
    have hnil : queries = [] := hnil
    rw [hnil, List.forall₂_nil_right_iff] at hqueries
    exact hq hqueries
  · intro query hquery
    obtain ⟨d, -, hd⟩ := exists_of_forall₂ hqueries query hquery
    exact (QueryDraft.label_of_build hd).2
  · exact (count_eq_one_iff hnodup).2 (hin name hname)

/-- A draft that says the same as a sound query set is finished as it. -/
theorem build_of_sound {draft : QuerySetDraft} {set : QuerySet} (hg : draft.Gives set)
    (hs : set.Sound) : draft.build = .ok set := by
  -- each part of soundness passes one check
  have hwindow : checkWindow draft.window = .ok () :=
    checkWindow_eq_ok_iff.2 (by
      rw [← hg.start, ← hg.stop]
      exact ⟨hs.start_nonneg, hs.start_le_stop⟩)
  have hqueries : draft.queries ≠ [] := by
    intro hnil
    have h := hg.queries
    rw [hnil, List.forall₂_nil_left_iff] at h
    exact hs.queries_ne_nil h
  have haliases := checkAliases_eq_ok_iff.2 hs.labels_nodup
  have hexpression : checkExpression set.expression (set.queries.map Query.label) = .ok () := by
    obtain ⟨names, hnames, hone⟩ := hs.expression_resolves
    exact checkExpression_eq_ok_iff.2
      ⟨names, hnames, fun name hname => (count_eq_one_iff hs.labels_nodup).1 (hone name hname)⟩
  unfold build
  refine bind_eq_ok_iff.2 ⟨(), require_eq_ok_iff.2 hwindow, ?_⟩
  rw [if_neg (by simpa using hqueries)]
  refine bind_eq_ok_iff.2 ⟨set.queries, mapM_eq_ok_iff.2 hg.queries, ?_⟩
  refine bind_eq_ok_iff.2 ⟨(), require_eq_ok_iff.2 haliases, ?_⟩
  refine bind_eq_ok_iff.2 ⟨set.expression, require_eq_ok_iff.2 hg.expression, ?_⟩
  refine bind_eq_ok_iff.2 ⟨(), require_eq_ok_iff.2 hexpression, ?_⟩
  rw [← hg.start, ← hg.stop, ← hg.transforms, ← hg.instant, ← hg.limit]
  rfl

/-- **Finishing is exact.** -/
theorem build_eq_ok_iff {draft : QuerySetDraft} {set : QuerySet} :
    draft.build = .ok set ↔ draft.Gives set ∧ set.Sound :=
  ⟨sound_of_build, fun h => build_of_sound h.1 h.2⟩

/-- The window is checked before anything else. -/
theorem build_of_refused {draft : QuerySetDraft} {fault : ValidationFault}
    (h : checkWindow draft.window = .error fault) : draft.build = .error (.validation fault) := by
  unfold build
  rw [h]
  rfl

end QuerySetDraft
end RpcMetrics
