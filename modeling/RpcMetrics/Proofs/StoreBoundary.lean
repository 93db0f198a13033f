import Mathlib
import RpcMetrics.Proofs.CalculationRuns
import RpcMetrics.Proofs.ProbeOutcomes
import RpcMetrics.Proofs.SubQueryAlignment
import RpcMetrics.Session.Basic

/-! # What reaches the store

Four ways lead from a session to its store: a calculation, a ranking, a probe
that is told its window, and probes over a resolved window.  Each ends in a draft
that is finished before it is sent, so what is sent has passed every check.

A store that is handed a query set may rely on two things.  The set **fits
together** for the application it is asked about (`QuerySet.Admitted`), whoever
asks.  And it **stays within the clock** (`QuerySet.Within`), unless its window
was told and not resolved.  Both are shown of one step (`answer_admitted`,
`answer_within`) and then of any run, at the clock that was in force when the
step was taken (`store_boundary`). -/
namespace RpcMetrics

/-- A query set fits together and asks for series of one table, at an instant. -/
structure QuerySet.Admitted (scope : Scope) (set : QuerySet) : Prop where
  sound : set.Sound
  instant : set.instant = true
  table : ∀ query ∈ set.queries, query.table = scope.table

/-- The window of a query set lies between the earliest moment that may be asked
for and the clock, in the store's units. -/
structure QuerySet.Within (rules : WindowRules) (clock : Int64) (set : QuerySet) : Prop where
  earliest_le_start :
    WindowRules.clamp (1000 * (clock.toInt - rules.maxSpan.wholeSeconds)) ≤ set.start.toInt
  stop_le_now : set.stop.toInt ≤ WindowRules.clamp (1000 * clock.toInt)

/-- A resolved window stays within the clock. -/
theorem QuerySet.within_of_resolved {scope : Scope} {clock : Int64} {start stop : Option Int64}
    {set : QuerySet} (hstart : set.start = (scope.window clock start stop).start)
    (hstop : set.stop = (scope.window clock start stop).stop) :
    set.Within scope.query.rules clock := by
  constructor
  · rw [hstart]
    exact scope.query.rules.earliest_le_resolve clock start stop
  · rw [hstop]
    exact scope.query.rules.resolve_le_now clock start stop

/-! ### Probes and calculations -/

theorem Probe.admitted_of_sent {probe : Probe} {scope : Scope} {window : Window}
    {set : QuerySet} (h : set ∈ probe.sent scope window) : set.Admitted scope := by
  obtain ⟨hwindow, rfl⟩ := (probe.mem_sent_iff scope window).1 h
  refine ⟨probe.asks_sound scope window hwindow, rfl, fun query hquery => ?_⟩
  rw [List.mem_singleton.1 hquery]
  rfl

theorem Probe.within_of_sent {probe : Probe} {scope : Scope} {clock : Int64}
    {start stop : Option Int64} {set : QuerySet}
    (h : set ∈ probe.sent scope (scope.window clock start stop)) :
    set.Within scope.query.rules clock := by
  obtain ⟨-, rfl⟩ := (probe.mem_sent_iff scope _).1 h
  exact QuerySet.within_of_resolved rfl rfl

namespace Discovery
variable {store : Store} {scope : Scope} {window : Window} {probes : List Probe}
variable {set : QuerySet}

theorem sent_fetch (h : set ∈ (fetch store scope window probes).trace.sent) :
    ∃ probe ∈ probes, set ∈ probe.sent scope window := by
  unfold fetch at h
  rw [fetchEnding_sent] at h
  exact List.mem_flatMap.1 h

theorem sent_fetchUnion (h : set ∈ (fetchUnion store scope window probes).trace.sent) :
    ∃ probe ∈ probes, set ∈ probe.sent scope window := by
  rw [fetchUnion_sent] at h
  exact List.mem_flatMap.1 h

end Discovery

namespace Group
variable {group : Group} {store : Store} {clock : Int64} {params : Params} {set : QuerySet}

theorem admitted_of_querySet {calculation : Calculation}
    (h : group.querySet clock calculation params = .ok set) : set.Admitted group.scope := by
  obtain ⟨inner, transforms, -, hsound, rfl⟩ := group.eq_composed_of_querySet h
  refine ⟨hsound, rfl, fun query hquery => ?_⟩
  obtain ⟨part, -, rfl⟩ := List.mem_map.1 hquery
  rfl

theorem within_of_querySet {calculation : Calculation}
    (h : group.querySet clock calculation params = .ok set) :
    set.Within group.scope.query.rules clock := by
  obtain ⟨inner, transforms, -, -, rfl⟩ := group.eq_composed_of_querySet h
  exact QuerySet.within_of_resolved rfl rfl

/-- A calculation hands the store its query set, if it has one. -/
theorem sent_handle {calculation : Calculation}
    (h : set ∈ (group.handle store clock calculation params).trace.sent) :
    group.querySet clock calculation params = .ok set := by
  rw [handle_sent] at h
  exact toOption_eq_some_iff.1 (Option.mem_toList.1 h)

theorem sent_handleNamed {calculation : String}
    (h : set ∈ (group.handleNamed store clock calculation params).trace.sent) :
    ∃ named, group.querySet clock named params = .ok set := by
  unfold handleNamed at h
  cases hname : Calculation.parse calculation with
  | error failure => simp [hname] at h
  | ok named =>
    rw [hname] at h
    exact ⟨named, sent_handle h⟩

/-- The settings of a server are found out by probes alone. -/
theorem sent_serverProfile {server : String} {start stop : Option Int64}
    (h : set ∈ (group.serverProfile store clock server start stop).trace.sent) :
    ∃ probe : Probe, set ∈ probe.sent group.scope (group.scope.window clock start stop) := by
  unfold serverProfile at h
  simp only [Run.trace_bind, Run.trace_log, Run.trace_pure, Trace.sent_append, Trace.sent_empty,
    List.append_nil] at h
  obtain ⟨probe, -, hsent⟩ := Discovery.sent_fetchUnion h
  exact ⟨probe, hsent⟩

end Group

namespace Session

/-! ### One step -/

/-- **What a step may send**: the query set of a calculation, or what a probe
asks over the window that it is told or that is resolved for it. -/
inductive Sends (session : Session) : Step → QuerySet → Prop
  /-- A calculation is built at the clock of the session. -/
  | calculation {step : Step} {calculation : Calculation} {params : Params} {set : QuerySet}
      (built : session.group.querySet session.now calculation params = .ok set) :
      Sends session step set
  /-- A probe asks over a resolved window. -/
  | resolved {step : Step} {probe : Probe} {start stop : Option Int64} {set : QuerySet}
      (sent : set ∈ probe.sent session.group.scope
        (session.group.scope.window session.now start stop)) : Sends session step set
  /-- A probe asks over the window it is told. -/
  | told {probe : Probe} {window : Window} {set : QuerySet}
      (sent : set ∈ probe.sent session.group.scope window) :
      Sends session (.probe probe window) set

variable (session : Session)

theorem answer_sends {step : Step} {set : QuerySet}
    (h : set ∈ (session.answer step).trace.sent) : session.Sends step set := by
  cases step with
  -- setting, looking and building send nothing
  | setNow | setStore | describe | window | querySet => cases h
  | handle calculation params =>
    rw [answer, Run.trace_bind_pure] at h
    exact .calculation (Group.sent_handle h)
  | handleNamed calculation params =>
    rw [answer, Run.trace_bind_pure] at h
    obtain ⟨named, hbuilt⟩ := Group.sent_handleNamed h
    exact .calculation hbuilt
  | serverList start stop =>
    rw [answer, Run.trace_bind_pure] at h
    obtain ⟨probe, -, hsent⟩ := Discovery.sent_fetchUnion h
    exact .resolved hsent
  | serverProfile server start stop =>
    rw [answer, Run.trace_bind_pure] at h
    obtain ⟨probe, hsent⟩ := Group.sent_serverProfile h
    exact .resolved hsent
  | probe probe window =>
    rw [answer, Run.trace_bind_pure, Probe.run, Probe.sent_runWithin] at h
    exact .told h
  | fetch probes start stop =>
    rw [answer, Run.trace_bind_pure] at h
    obtain ⟨probe, -, hsent⟩ := Discovery.sent_fetch h
    exact .resolved hsent
  | fetchUnion probes start stop =>
    rw [answer, Run.trace_bind_pure] at h
    obtain ⟨probe, -, hsent⟩ := Discovery.sent_fetchUnion h
    exact .resolved hsent

/-- **Whatever a step sends fits together.** -/
theorem answer_admitted {step : Step} {set : QuerySet}
    (h : set ∈ (session.answer step).trace.sent) : set.Admitted session.group.scope := by
  cases session.answer_sends h with
  | calculation hbuilt => exact Group.admitted_of_querySet hbuilt
  | resolved hsent => exact Probe.admitted_of_sent hsent
  | told hsent => exact Probe.admitted_of_sent hsent

/-- **Whatever a step sends stays within the clock**, unless its window is told. -/
theorem answer_within {step : Step} {set : QuerySet}
    (h : set ∈ (session.answer step).trace.sent)
    (hstep : ∀ probe window, step ≠ .probe probe window) :
    set.Within session.group.scope.query.rules session.now := by
  cases session.answer_sends h with
  | calculation hbuilt => exact Group.within_of_querySet hbuilt
  | resolved hsent => exact Probe.within_of_sent hsent
  | told _ => exact absurd rfl (hstep _ _)

/-! ### Runs -/

/-- The session after some steps. -/
def after (steps : List Step) : Session := steps.foldl next session

/-- What a step sets the clock to. -/
def Step.clock? : Step → Option Int64
  | setNow now => some now
  | _ => none

/-- The clock after some steps: what it was last set to. -/
def clock (steps : List Step) : Int64 := (steps.filterMap Step.clock?).getLastD session.now

/-- Each step is answered by the session that the steps before it leave. -/
theorem getElem?_run (steps : List Step) (index : Nat) :
    (session.run steps)[index]? =
      steps[index]?.map (session.after (steps.take index)).answer := by
  induction steps generalizing session index with
  | nil => rfl
  | cons step steps ih =>
    cases index with
    | zero => rfl
    | succ index => exact ih (session.next step) index

/-- No step changes the group. -/
theorem after_group (steps : List Step) : (session.after steps).group = session.group := by
  induction steps generalizing session with
  | nil => rfl
  | cons step steps ih =>
    have hnext : (session.next step).group = session.group := by cases step <;> rfl
    exact (ih (session.next step)).trans hnext

theorem after_now (steps : List Step) : (session.after steps).now = session.clock steps := by
  induction steps generalizing session with
  | nil => rfl
  | cons step steps ih =>
    have hrest := ih (session.next step)
    unfold clock at hrest ⊢
    -- a step that sets the clock is the last to have done so until another does
    cases step with
    | setNow now =>
      rw [List.filterMap_cons_some (rfl : Step.clock? (.setNow now) = some now),
        List.getLastD_cons]
      exact hrest
    | _ => exact hrest

/-- **The store's boundary.**  Every query set that the store receives in a run,
at whatever step, fits together; and unless the step was told its window, the
query set stays within the clock that was in force at that step. -/
theorem store_boundary {steps : List Step} {index : Nat} {step : Step} {run : Run Answer}
    {set : QuerySet} (hstep : steps[index]? = some step)
    (hrun : (session.run steps)[index]? = some run) (hsent : set ∈ run.trace.sent) :
    set.Admitted session.group.scope ∧
      ((∀ probe window, step ≠ .probe probe window) →
        set.Within session.group.scope.query.rules (session.clock (steps.take index))) := by
  rw [getElem?_run, hstep] at hrun
  obtain rfl := Option.some.inj hrun
  have hadmitted := answer_admitted _ hsent
  rw [after_group] at hadmitted
  refine ⟨hadmitted, fun htold => ?_⟩
  have hwithin := answer_within _ hsent htold
  rw [after_group, after_now] at hwithin
  exact hwithin

/-- Servers listed once the clock has been set: the window is that of the new
clock. -/
theorem store_boundary_serverList :
    let scope : Scope := ⟨"calls", {}, {}⟩
    let session : Session := ⟨⟨scope, {}⟩, fun _ => { answer := .ok [] }, 0⟩
    ∃ run set, (session.run [.setNow 1700000000, .serverList none none])[1]? = some run ∧
      set ∈ run.trace.sent ∧ set.start = 1699996400000 ∧ set.Admitted scope ∧
        set.Within scope.query.rules 1700000000 := by
  intro scope session
  let run := (session.next (.setNow 1700000000)).answer (.serverList none none)
  have hhead : run.trace.sent[0]?.map QuerySet.start = some 1699996400000 := by cbv
  obtain ⟨set, hset, hstart⟩ := Option.map_eq_some_iff.1 hhead
  have hsent := List.mem_of_getElem? hset
  have hstep : [Step.setNow 1700000000, .serverList none none][1]? =
    some (.serverList none none) := rfl
  obtain ⟨hadmitted, hwithin⟩ := session.store_boundary hstep rfl hsent
  exact ⟨run, set, rfl, hsent, hstart, hadmitted, hwithin (by simp)⟩

end Session
end RpcMetrics
