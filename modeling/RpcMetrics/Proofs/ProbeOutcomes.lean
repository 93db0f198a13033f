import Mathlib
import RpcMetrics.Discovery.Fetch
import RpcMetrics.Proofs.DraftChecks
import RpcMetrics.Proofs.VocabularyNames

/-! # What a discovery makes of its probes

A probe hands the store one query set or, if its window is refused, none
(`Probe.querySet_eq`).  What it finds is fixed by the store's reply to that query
set: nothing of the other probes enters into it.

**The order of the endings does not matter.**  While outcomes are settled, each
place holds what its probe finds if the probe has been settled and nothing
otherwise (`Settled`).  Once all have been settled, in whatever order, the
values stand in the order of the probes (`fetchEnding_value`) and each failure
has been counted once (`fetchEnding_counted`). -/
namespace RpcMetrics

/-- The length of a span in nanoseconds. -/
def Duration.nanoseconds (d : Duration) : Nat := d.seconds.toNat * 1000000000 + d.nanos

theorem Duration.toNanos_eq (d : Duration) : d.toNanos = d.nanoseconds := rfl

/-- The answer takes no longer than is allowed, if there is a limit. -/
def Reply.InTime (reply : Reply) (limit : Option Duration) : Prop :=
  ∀ span, limit = some span → reply.delay ≤ span.nanoseconds

namespace Probe
variable (probe : Probe) (store : Store) (scope : Scope) (window : Window)

/-! ### What a probe asks -/

/-- The query of a probe: how many series there are for each value of the tag. -/
def query : Query where
  table := scope.table
  label := "a"
  metric := probe.metric
  method := .count
  interval := 60
  groupBy := [probe.tag]
  filter := probe.filter
  transforms := []

/-- The query set of a probe. -/
def asks : QuerySet where
  start := window.start
  stop := window.stop
  queries := [probe.query scope]
  expression := "a"
  transforms := []
  instant := true
  limit := some scope.query.optionLimit

theorem asks_sound (hwindow : 0 ≤ window.start ∧ window.start ≤ window.stop) :
    (probe.asks scope window).Sound := by
  constructor
  · exact hwindow.1
  · exact hwindow.2
  · exact List.cons_ne_nil _ _
  · intro query hquery
    obtain rfl := List.mem_singleton.1 hquery
    exact of_decide_eq_true rfl
  · exact List.nodup_singleton _
  · refine ⟨.ofList ["a"], by cbv, fun name hname => ?_⟩
    obtain rfl := List.mem_singleton.1 (Data.NameSet.mem_ofList.1 hname)
    rfl

/-- **A probe is refused for its window only**, and otherwise asks one thing. -/
theorem querySet_eq : probe.querySet scope window =
    match QuerySetDraft.checkWindow window with
    | .ok () => .ok (probe.asks scope window)
    | .error fault => .error (.validation fault) := by
  cases hwindow : QuerySetDraft.checkWindow window with
  | error fault => exact QuerySetDraft.build_of_refused hwindow
  | ok _ =>
    have hsound := probe.asks_sound scope window (QuerySetDraft.checkWindow_eq_ok_iff.1 hwindow)
    refine QuerySetDraft.build_of_sound ⟨rfl, rfl, ?_, rfl, rfl, rfl, rfl⟩ hsound
    refine .cons (QueryDraft.build_eq_ok_iff.2 ⟨?_, probe.metric, .count, rfl, ?_⟩) .nil
    · exact of_decide_eq_true rfl
    · rfl

theorem querySet_eq_ok_iff {set : QuerySet} : probe.querySet scope window = .ok set ↔
    (0 ≤ window.start ∧ window.start ≤ window.stop) ∧ set = probe.asks scope window := by
  rw [querySet_eq, ← QuerySetDraft.checkWindow_eq_ok_iff]
  cases QuerySetDraft.checkWindow window with
  | ok _ => simp [eq_comm]
  | error fault => simp

/-- What the store is handed for a probe. -/
def sent : List QuerySet := (probe.querySet scope window).toOption.toList

theorem sent_runWithin (limit : Option Duration) :
    (probe.runWithin limit store scope window).trace.sent = probe.sent scope window := by
  unfold runWithin sent
  cases probe.querySet scope window with
  | error failure => rfl
  | ok set => rfl

theorem counted_runWithin (limit : Option Duration) :
    (probe.runWithin limit store scope window).trace.counted = [] := by
  unfold runWithin
  cases probe.querySet scope window with
  | error failure => rfl
  | ok set => rfl

/-- What is sent for a probe is what it asks, and its window is in order. -/
theorem mem_sent_iff {set : QuerySet} : set ∈ probe.sent scope window ↔
    (0 ≤ window.start ∧ window.start ≤ window.stop) ∧ set = probe.asks scope window := by
  rw [← probe.querySet_eq_ok_iff, sent, Option.mem_toList]
  exact toOption_eq_some_iff

theorem sent_of_in_order (h : 0 ≤ window.start ∧ window.start ≤ window.stop) :
    probe.sent scope window = [probe.asks scope window] := by
  rw [sent, (probe.querySet_eq_ok_iff scope window).2 ⟨h, rfl⟩]
  rfl

/-! ### How a probe ends -/

/-- How a probe ends within the time that the settings allow. -/
def result : Except Failure Data.NameSet :=
  (probe.runWithin scope.discovery.probeTimeout store scope window).value

/-- The store takes longer to answer a probe than the settings allow. -/
def late : Bool :=
  match scope.discovery.probeTimeout, probe.querySet scope window with
  | some limit, .ok set => decide (limit.nanoseconds < (store set).delay)
  | _, _ => false

/-- A probe fails: it is late, or it would fail if it were run alone and given
all the time it takes. -/
def fails : Bool :=
  probe.late store scope window || !(probe.run store scope window).value.isOk

/-- What a probe finds if it is run alone, or nothing if it fails. -/
def found : Data.NameSet :=
  match (probe.run store scope window).value with
  | .ok values => if probe.late store scope window then .empty else values
  | .error _ => .empty

theorem result_of_ok {set : QuerySet} (h : probe.querySet scope window = .ok set) :
    probe.result store scope window =
      probe.outcome scope.discovery.probeTimeout (store set) := by
  unfold result runWithin
  rw [h]
  rfl

theorem result_of_error {failure : Failure}
    (h : probe.querySet scope window = .error failure) :
    probe.result store scope window = .error failure := by
  unfold result runWithin
  rw [h]
  rfl

theorem result_of_late (h : probe.late store scope window = true) :
    ∃ limit, probe.result store scope window = .error (.timedOut limit) := by
  unfold late at h
  cases hlimit : scope.discovery.probeTimeout with
  | none => simp [hlimit] at h
  | some limit =>
    cases hset : probe.querySet scope window with
    | error failure => simp [hlimit, hset] at h
    | ok set =>
      have hlate : limit.nanoseconds < (store set).delay := by simpa [hlimit, hset] using h
      rw [probe.result_of_ok store scope window hset, hlimit]
      exact ⟨limit, if_pos hlate⟩

/-- A probe that is not late ends as if there were no limit. -/
theorem result_of_not_late (h : probe.late store scope window = false) :
    probe.result store scope window = (probe.run store scope window).value := by
  unfold late at h
  unfold result run runWithin
  cases hlimit : scope.discovery.probeTimeout with
  | none => rfl
  | some limit =>
    cases hset : probe.querySet scope window with
    | error failure => rfl
    | ok set =>
      have hlate : ¬ limit.nanoseconds < (store set).delay := by simpa [hlimit, hset] using h
      exact if_neg hlate

/-- A probe fails iff it ends in a failure. -/
theorem fails_eq : probe.fails store scope window = !(probe.result store scope window).isOk := by
  unfold fails
  cases hlate : probe.late store scope window with
  | true =>
    obtain ⟨limit, hresult⟩ := probe.result_of_late store scope window hlate
    rw [hresult]
    rfl
  | false => rw [probe.result_of_not_late store scope window hlate, Bool.false_or]

/-- A probe finds what it ends with. -/
theorem found_of_result_ok {values : Data.NameSet}
    (h : probe.result store scope window = .ok values) :
    probe.found store scope window = values := by
  cases hlate : probe.late store scope window with
  | true =>
    obtain ⟨limit, hresult⟩ := probe.result_of_late store scope window hlate
    rw [hresult] at h
    cases h
  | false =>
    rw [probe.result_of_not_late store scope window hlate] at h
    simp [found, h, hlate]

/-- A probe that ends in a failure finds nothing. -/
theorem found_of_result_error {failure : Failure}
    (h : probe.result store scope window = .error failure) :
    probe.found store scope window = .empty := by
  unfold found
  cases hlate : probe.late store scope window with
  | true => cases (probe.run store scope window).value <;> rfl
  | false =>
    rw [← probe.result_of_not_late store scope window hlate, h]

/-! ### What a probe finds -/

/-- The values are those that a row gives to the tag, and are not empty. -/
theorem mem_values_iff {rows : List Row} {value : String} : value ∈ probe.values rows ↔
    ∃ row ∈ rows, row.get? probe.tag = some value ∧ value ≠ "" := by
  unfold values
  rw [Data.NameSet.mem_ofList, List.mem_filter, List.mem_filterMap]
  constructor
  · rintro ⟨⟨row, hrow, hvalue⟩, hne⟩
    exact ⟨row, hrow, hvalue, by simpa using hne⟩
  · rintro ⟨row, hrow, hvalue, hne⟩
    exact ⟨⟨row, hrow, hvalue⟩, by simpa using hne⟩

theorem outcome_eq_ok_iff {limit : Option Duration} {reply : Reply} {values : Data.NameSet} :
    probe.outcome limit reply = .ok values ↔
      reply.InTime limit ∧ ∃ rows, reply.answer = .ok rows ∧ probe.values rows = values := by
  have hanswer : reply.answer.map probe.values = .ok values ↔
      ∃ rows, reply.answer = .ok rows ∧ probe.values rows = values := by
    cases reply.answer <;> simp [Except.map]
  unfold outcome Reply.InTime
  cases limit with
  | none => simp [hanswer]
  | some span =>
    dsimp only
    rw [span.toNanos_eq]
    split
    · rename_i hlate
      simp [Nat.not_le.2 hlate]
    · rename_i hlate
      simp [Nat.not_lt.1 hlate, hanswer]

/-- **What a probe finds**: the values that the store's rows give to its tag, if
they arrive in time. -/
theorem mem_found_iff {set : QuerySet} (h : probe.querySet scope window = .ok set)
    {value : String} : value ∈ probe.found store scope window ↔
      (store set).InTime scope.discovery.probeTimeout ∧
        ∃ rows, (store set).answer = .ok rows ∧
          ∃ row ∈ rows, row.get? probe.tag = some value ∧ value ≠ "" := by
  have hends := probe.result_of_ok store scope window h
  constructor
  · intro hvalue
    cases hresult : probe.result store scope window with
    | error failure =>
      rw [probe.found_of_result_error store scope window hresult] at hvalue
      exact absurd hvalue (Data.NameSet.not_mem_empty value)
    | ok values =>
      rw [probe.found_of_result_ok store scope window hresult] at hvalue
      rw [hends] at hresult
      obtain ⟨htime, rows, hrows, rfl⟩ := probe.outcome_eq_ok_iff.1 hresult
      exact ⟨htime, rows, hrows, probe.mem_values_iff.1 hvalue⟩
  · rintro ⟨htime, rows, hrows, hvalue⟩
    have hresult := probe.outcome_eq_ok_iff.2 ⟨htime, rows, hrows, rfl⟩
    rw [probe.found_of_result_ok store scope window (hends.trans hresult)]
    exact probe.mem_values_iff.2 hvalue

/-! ### Stores that reply alike -/

/-- Two stores that reply alike to what is asked for a probe let it end alike. -/
theorem result_congr {store store' : Store}
    (h : ∀ set ∈ probe.sent scope window, store' set = store set) :
    probe.result store' scope window = probe.result store scope window := by
  cases hset : probe.querySet scope window with
  | error failure =>
    rw [probe.result_of_error store scope window hset,
      probe.result_of_error store' scope window hset]
  | ok set =>
    have hreply : store' set = store set := h set (by simp [sent, hset, Except.toOption])
    rw [probe.result_of_ok store scope window hset,
      probe.result_of_ok store' scope window hset, hreply]

theorem found_congr {store store' : Store}
    (h : ∀ set ∈ probe.sent scope window, store' set = store set) :
    probe.found store' scope window = probe.found store scope window := by
  have hresult := probe.result_congr scope window h
  cases hr : probe.result store scope window with
  | ok values =>
    rw [probe.found_of_result_ok store scope window hr,
      probe.found_of_result_ok store' scope window (hresult.trans hr)]
  | error failure =>
    rw [probe.found_of_result_error store scope window hr,
      probe.found_of_result_error store' scope window (hresult.trans hr)]

end Probe

namespace Discovery
variable (store : Store) (scope : Scope) (window : Window) (probes : List Probe)

/-- An outcome is that of the probe with its index. -/
def Reports (outcome : Outcome) : Prop :=
  ∃ probe, probes[outcome.1]? = some probe ∧ outcome.2 = probe.result store scope window

/-- **Each place holds what its probe finds**, if it has been settled, and
nothing as long as it has not. -/
def Settled (done : List Nat) (found : List Data.NameSet) : Prop :=
  ∀ index, found[index]? = probes[index]?.map fun probe =>
    if index ∈ done then probe.found store scope window else .empty

/-- What is counted for a probe. -/
def failures (probe : Probe) : List Count :=
  if probe.fails store scope window then [.failedProbe probe.metric] else []

variable {store scope window probes}

theorem settled_start :
    Settled store scope window probes [] (List.replicate probes.length .empty) := by
  intro index
  rw [List.getElem?_replicate]
  by_cases hindex : index < probes.length
  · rw [if_pos hindex, List.getElem?_eq_getElem hindex]
    rfl
  · rw [if_neg hindex, List.getElem?_eq_none (Nat.le_of_not_lt hindex)]
    rfl

/-- A place is filled with what its probe finds. -/
theorem Settled.set {done : List Nat} {found : List Data.NameSet} {place : Nat} {probe : Probe}
    (h : Settled store scope window probes done found) (hprobe : probes[place]? = some probe) :
    Settled store scope window probes (done ++ [place])
      (found.set place (probe.found store scope window)) := by
  intro index
  simp only [List.mem_append, List.mem_singleton]
  by_cases hindex : index = place
  · subst hindex
    have hlt : index < found.length := by
      by_contra hout
      have hplace := h index
      rw [hprobe, List.getElem?_eq_none (Nat.le_of_not_lt hout)] at hplace
      cases hplace
    rw [List.getElem?_set_self hlt, hprobe, Option.map_some, if_pos (Or.inr rfl)]
  · rw [List.getElem?_set_ne (Ne.symm hindex), h index]
    simp only [hindex, or_false]

/-- A place may stay as it is if its probe finds nothing. -/
theorem Settled.keep {done : List Nat} {found : List Data.NameSet} {place : Nat} {probe : Probe}
    (h : Settled store scope window probes done found) (hprobe : probes[place]? = some probe)
    (hnothing : probe.found store scope window = .empty) :
    Settled store scope window probes (done ++ [place]) found := by
  intro index
  simp only [List.mem_append, List.mem_singleton]
  by_cases hindex : index = place
  · subst hindex
    rw [h index, hprobe, Option.map_some, Option.map_some, if_pos (Or.inr rfl), hnothing, ite_self]
  · rw [h index]
    simp only [hindex, or_false]

/-- Settling one outcome settles its place and leaves the others alone. -/
theorem Settled.settleOne {done : List Nat} {found : List Data.NameSet} {outcome : Outcome}
    (h : Settled store scope window probes done found)
    (hreports : Reports store scope window probes outcome) :
    Settled store scope window probes (done ++ [outcome.1])
      (settleOne probes found outcome).value := by
  obtain ⟨place, ended⟩ := outcome
  obtain ⟨probe, hprobe, rfl⟩ := hreports
  dsimp only at hprobe
  unfold Discovery.settleOne
  simp only [hprobe]
  cases hresult : probe.result store scope window with
  | ok values =>
    rw [← probe.found_of_result_ok store scope window hresult]
    exact h.set hprobe
  | error failure => exact h.keep hprobe (probe.found_of_result_error store scope window hresult)

theorem Settled.foldlM {outcomes : List Outcome} {done : List Nat} {found : List Data.NameSet}
    (h : Settled store scope window probes done found)
    (hreports : ∀ outcome ∈ outcomes, Reports store scope window probes outcome) :
    Settled store scope window probes (done ++ outcomes.map Prod.fst)
      (outcomes.foldlM (Discovery.settleOne probes) found).value := by
  induction outcomes generalizing done found with
  | nil => simpa using h
  | cons outcome outcomes ih =>
    have hone := h.settleOne (hreports outcome (List.mem_cons_self ..))
    have hrest := ih hone fun other hother => hreports other (List.mem_cons_of_mem _ hother)
    rw [List.append_assoc] at hrest
    exact hrest

theorem settled_settle {outcomes : List Outcome}
    (hreports : ∀ outcome ∈ outcomes, Reports store scope window probes outcome) :
    Settled store scope window probes (outcomes.map Prod.fst) (settle probes outcomes).value :=
  settled_start.foldlM hreports

/-- Once all have been settled, the values stand in the order of the probes. -/
theorem Settled.eq_map {done : List Nat} {found : List Data.NameSet}
    (h : Settled store scope window probes done found)
    (hall : done.Perm (List.range probes.length)) :
    found = probes.map fun probe => probe.found store scope window := by
  refine List.ext_getElem? fun index => ?_
  rw [h index, List.getElem?_map]
  by_cases hindex : index < probes.length
  · have hdone : index ∈ done := hall.mem_iff.2 (List.mem_range.2 hindex)
    simp only [hdone, if_true]
  · rw [List.getElem?_eq_none (Nat.le_of_not_lt hindex)]
    rfl

/-! ### What is counted -/

theorem counted_settleOne (found : List Data.NameSet) {outcome : Outcome}
    (hreports : Reports store scope window probes outcome) :
    (settleOne probes found outcome).trace.counted =
      probes[outcome.1]?.toList.flatMap (failures store scope window) := by
  obtain ⟨place, ended⟩ := outcome
  obtain ⟨probe, hprobe, rfl⟩ := hreports
  dsimp only at hprobe
  unfold settleOne
  simp only [hprobe, Option.toList_some, List.flatMap_singleton, failures, Probe.fails_eq]
  cases hresult : probe.result store scope window with
  | error failure => simp [Except.isOk, Except.toBool]
  | ok values => simp [Except.isOk, Except.toBool]

theorem counted_settle {outcomes : List Outcome}
    (hreports : ∀ outcome ∈ outcomes, Reports store scope window probes outcome) :
    (settle probes outcomes).trace.counted = (outcomes.map Prod.fst).flatMap fun index =>
      probes[index]?.toList.flatMap (failures store scope window) := by
  unfold settle
  -- what is counted does not depend on the values found so far
  generalize List.replicate probes.length Data.NameSet.empty = found
  induction outcomes generalizing found with
  | nil => rfl
  | cons outcome outcomes ih =>
    have hone := counted_settleOne found (hreports outcome (List.mem_cons_self ..))
    have hrest := ih fun other hother => hreports other (List.mem_cons_of_mem _ hother)
    rw [List.foldlM_cons, Run.trace_bind, Trace.counted_append, hone, hrest, List.map_cons,
      List.flatMap_cons]

/-- Going through the indices of a list is going through the list. -/
theorem flatMap_range_getElem? {α β : Type} (f : α → List β) (list : List α) :
    (List.range list.length).flatMap (fun index => list[index]?.toList.flatMap f) =
      list.flatMap f := by
  induction list with
  | nil => rfl
  | cons a list ih =>
    rw [List.length_cons, List.range_succ_eq_map, List.flatMap_cons, List.flatMap_map,
      List.flatMap_cons, ← ih]
    simp

/-! ### Any order of endings -/

theorem getElem?_runAll (index : Nat) :
    (runAll store scope window probes).value[index]? =
      probes[index]?.map fun probe => (index, probe.result store scope window) := by
  unfold runAll
  rw [Run.value_mapM, List.getElem?_map, List.getElem?_zipIdx, Option.map_map, Nat.zero_add]
  rfl

theorem reports_inOrder (ended : List Nat) :
    ∀ outcome ∈ inOrder ended (runAll store scope window probes).value,
      Reports store scope window probes outcome := by
  intro outcome houtcome
  obtain ⟨index, -, hindex⟩ := List.mem_filterMap.1 houtcome
  rw [getElem?_runAll] at hindex
  obtain ⟨probe, hprobe, rfl⟩ := Option.map_eq_some_iff.1 hindex
  exact ⟨probe, hprobe, rfl⟩

/-- What is settled is what reports, ending by ending. -/
theorem inOrder_runAll {outcomes : List Outcome}
    (hreports : ∀ outcome ∈ outcomes, Reports store scope window probes outcome) :
    inOrder (outcomes.map Prod.fst) (runAll store scope window probes).value = outcomes := by
  unfold inOrder
  induction outcomes with
  | nil => rfl
  | cons outcome outcomes ih =>
    obtain ⟨probe, hprobe, hresult⟩ := hreports outcome (List.mem_cons_self ..)
    have hhead : (runAll store scope window probes).value[outcome.1]? = some outcome := by
      rw [getElem?_runAll, hprobe, Option.map_some, ← hresult]
    rw [List.map_cons, List.filterMap_cons_some hhead,
      ih fun other hother => hreports other (List.mem_cons_of_mem _ hother)]

theorem map_fst_inOrder {ended : List Nat} (h : ∀ index ∈ ended, index < probes.length) :
    (inOrder ended (runAll store scope window probes).value).map Prod.fst = ended := by
  unfold inOrder
  induction ended with
  | nil => rfl
  | cons index ended ih =>
    have hlt := h index (List.mem_cons_self ..)
    have hhead : (runAll store scope window probes).value[index]? =
        some (index, probes[index].result store scope window) := by
      rw [getElem?_runAll, List.getElem?_eq_getElem hlt, Option.map_some]
    rw [List.filterMap_cons_some hhead, List.map_cons,
      ih fun other hother => h other (List.mem_cons_of_mem _ hother)]

/-- Asking counts nothing. -/
theorem counted_runAll : (runAll store scope window probes).trace.counted = [] := by
  unfold runAll
  rw [Run.counted_mapM]
  simp [Probe.counted_runWithin]

theorem sent_settle (outcomes : List Outcome) : (settle probes outcomes).trace.sent = [] := by
  unfold settle
  generalize List.replicate probes.length Data.NameSet.empty = found
  induction outcomes generalizing found with
  | nil => rfl
  | cons outcome outcomes ih =>
    have hone : (settleOne probes found outcome).trace.sent = [] := by
      unfold settleOne
      split <;> rfl
    rw [List.foldlM_cons, Run.trace_bind, Trace.sent_append, hone, ih, List.nil_append]

/-- Each probe asks once, in order. -/
theorem fetchEnding_sent (ended : List Nat) :
    (fetchEnding ended store scope window probes).trace.sent =
      probes.flatMap fun probe => probe.sent scope window := by
  have hall : (runAll store scope window probes).trace.sent =
      probes.flatMap fun probe => probe.sent scope window := by
    unfold runAll
    rw [Run.sent_mapM]
    simp only [Run.trace_bind, Run.trace_pure, Trace.sent_append, Trace.sent_empty,
      List.append_nil, Probe.sent_runWithin]
    conv_rhs => rw [← List.zipIdx_map_fst 0 probes, List.flatMap_map]
  unfold fetchEnding
  rw [Run.sent_inSpan, Run.trace_bind, Trace.sent_append, hall, sent_settle, List.append_nil]

theorem sent_of_in_order (h : 0 ≤ window.start ∧ window.start ≤ window.stop) :
    (probes.flatMap fun probe => probe.sent scope window) =
      probes.map fun probe => probe.asks scope window := by
  simp only [Probe.sent_of_in_order _ _ _ h, ← List.map_eq_flatMap]

variable {ended : List Nat} (hall : ended.Perm (List.range probes.length))
include hall

/-- **The values stand in the order of the probes**, whichever ended first. -/
theorem fetchEnding_value :
    (fetchEnding ended store scope window probes).value =
      probes.map fun probe => probe.found store scope window := by
  have hlt : ∀ index ∈ ended, index < probes.length := fun index hindex =>
    List.mem_range.1 (hall.mem_iff.1 hindex)
  have hsettled : Settled store scope window probes
      ((inOrder ended (runAll store scope window probes).value).map Prod.fst)
      (settle probes (inOrder ended (runAll store scope window probes).value)).value :=
    settled_settle (reports_inOrder ended)
  rw [map_fst_inOrder hlt] at hsettled
  exact hsettled.eq_map hall

/-- **Each failure is counted once**, whichever came first. -/
theorem fetchEnding_counted :
    (fetchEnding ended store scope window probes).trace.counted.Perm
      (probes.flatMap (failures store scope window)) := by
  have hlt : ∀ index ∈ ended, index < probes.length := fun index hindex =>
    List.mem_range.1 (hall.mem_iff.1 hindex)
  unfold fetchEnding
  -- the endings are the indices in another order, and the indices stand for the probes
  rw [Run.counted_inSpan, Run.trace_bind, Trace.counted_append, counted_runAll, List.nil_append,
    counted_settle (reports_inOrder ended), map_fst_inOrder hlt,
    ← flatMap_range_getElem? (failures store scope window) probes]
  exact hall.flatMap_right _

omit hall

/-- The failures of a metric. -/
theorem count_failures (metric : String) :
    (probes.flatMap (failures store scope window)).count (.failedProbe metric) =
      probes.countP fun probe =>
        decide (probe.metric = metric) && probe.fails store scope window := by
  induction probes with
  | nil => rfl
  | cons probe probes ih =>
    have hone : (failures store scope window probe).count (.failedProbe metric) =
        if (decide (probe.metric = metric) && probe.fails store scope window) = true
          then 1 else 0 := by
      unfold failures
      cases probe.fails store scope window <;> simp [List.count_singleton]
    rw [List.flatMap_cons, List.count_append, ih, hone, List.countP_cons, Nat.add_comm]

/-- They are found under the text of the counter as well. -/
theorem count_series_failures (metric : String) :
    ((probes.flatMap (failures store scope window)).map Count.series).count
        ("apm_metrics_option_probe_failures_total\x7bmetric_field=" ++ metric ++ "\x7d") =
      probes.countP fun probe =>
        decide (probe.metric = metric) && probe.fails store scope window :=
  (List.count_map_of_injective _ _ Count.series_injective (.failedProbe metric)).trans
    (count_failures metric)

/-! ### All values -/

theorem mem_union {found : List Data.NameSet} {value : String} :
    value ∈ union found ↔ ∃ names ∈ found, value ∈ names := by
  have hfold (names : Data.NameSet) : value ∈ found.foldl .union names ↔
      value ∈ names ∨ ∃ others ∈ found, value ∈ others := by
    induction found generalizing names with
    | nil => simp
    | cons head found ih => simp [ih, or_assoc]
  simp [union, hfold]

theorem fetch_value : (fetch store scope window probes).value =
    probes.map fun probe => probe.found store scope window :=
  fetchEnding_value (.refl _)

/-- **What is found by any of the probes** is found by one of them alone. -/
theorem mem_fetchUnion {value : String} : value ∈ (fetchUnion store scope window probes).value ↔
    ∃ probe ∈ probes, value ∈ probe.found store scope window := by
  unfold fetchUnion
  rw [Run.value_bind, Run.value_pure, mem_union, fetch_value]
  simp only [List.mem_map, exists_exists_and_eq_and]

theorem fetchUnion_sent : (fetchUnion store scope window probes).trace.sent =
    probes.flatMap fun probe => probe.sent scope window := by
  unfold fetchUnion
  rw [Run.trace_bind_pure]
  exact fetchEnding_sent _

end Discovery
end RpcMetrics
