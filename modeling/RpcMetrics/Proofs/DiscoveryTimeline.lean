import Mathlib
import RpcMetrics.Discovery.Schedule
import RpcMetrics.Proofs.ProbeOutcomes

/-! # Discovery in time

`fetchEnding` takes the order in which the probes end as given.  Here the order
comes about: probes are started as there is room for them, the store's answers
arrive and deadlines pass while the clock goes on, and a probe that is due is
collected at some later moment, whichever of those that are due comes first.

A **timeline** is the state of such a run.  The clock of a probe is started with
the probe (`Probe.verdict`), so how long it has waited for room changes when it
ends and not how (`verdict_snd`).

**Any timeline can land** (`Reached.exists_lands`), any order that the room
allows comes about on some timeline (`exists_lands_of_schedule`), and **every
timeline that has landed delivers the same** (`schedule_independent`). -/
namespace RpcMetrics

/-- When a probe that is started at a moment is due, and how it ends then: with
the store's answer, or at its deadline if the answer would arrive later. -/
def Probe.verdict (probe : Probe) (store : Store) (scope : Scope) (window : Window)
    (since : Nat) : Nat × Except Failure Data.NameSet :=
  match probe.querySet scope window with
  | .error failure => (since, .error failure)
  | .ok set =>
    let arrival := since + (store set).delay
    let answer := (store set).answer.map probe.values
    match scope.discovery.probeTimeout with
    | none => (arrival, answer)
    | some limit =>
      let deadline := since + limit.nanoseconds
      if deadline < arrival then (deadline, .error (.timedOut limit)) else (arrival, answer)

/-- **How a probe ends does not depend on when it is started.** -/
theorem Probe.verdict_snd (probe : Probe) (store : Store) (scope : Scope) (window : Window)
    (since : Nat) :
    (probe.verdict store scope window since).2 = probe.result store scope window := by
  unfold verdict
  cases hset : probe.querySet scope window with
  | error failure => exact (probe.result_of_error store scope window hset).symm
  | ok set =>
    rw [probe.result_of_ok store scope window hset]
    unfold outcome
    cases scope.discovery.probeTimeout with
    | none => rfl
    | some limit =>
      dsimp only
      rw [limit.toNanos_eq]
      simp only [Nat.add_lt_add_iff_left]
      by_cases hlate : limit.nanoseconds < (store set).delay
      · rw [if_pos hlate, if_pos hlate]
      · rw [if_neg hlate, if_neg hlate]

namespace Discovery

/-- How far a discovery has come. -/
structure Timeline where
  clock : Nat
  /-- When each of the probes that have been started was started. -/
  starts : List Nat
  /-- Those that have been started and not yet collected, by their indices. -/
  waiting : List Nat
  /-- The outcomes that have been collected. -/
  collected : List Outcome
  /-- What the store has been handed. -/
  sent : List QuerySet

namespace Timeline

/-- Nothing has been started. -/
def start : Timeline := ⟨0, [], [], [], []⟩

/-- A timeline without its clock. -/
def flight (t : Timeline) : Flight := ⟨t.starts.length, t.waiting, t.collected.map Prod.fst⟩

section Steps
variable (store : Store) (scope : Scope) (window : Window) (probes : List Probe)

/-- **What may happen next.** -/
inductive Next : Timeline → Timeline → Prop
  /-- Time passes. -/
  | passes {t : Timeline} (later : Nat) (le : t.clock ≤ later) : Next t { t with clock := later }
  /-- While there is room, the next probe is started, and its clock with it. -/
  | starts {t : Timeline} {probe : Probe} (left : probes[t.starts.length]? = some probe)
      (fits : t.waiting.length < width scope.discovery) :
      Next t { t with
        starts := t.starts ++ [t.clock]
        waiting := t.waiting ++ [t.starts.length]
        sent := t.sent ++ probe.sent scope window }
  /-- Otherwise one that is due is collected, whichever it is. -/
  | ends {t : Timeline} {index since : Nat} {probe : Probe} (waits : index ∈ t.waiting)
      (is : probes[index]? = some probe) (started : t.starts[index]? = some since)
      (due : (probe.verdict store scope window since).1 ≤ t.clock)
      (full : t.starts.length = probes.length ∨ t.waiting.length = width scope.discovery) :
      Next t { t with
        waiting := t.waiting.erase index
        collected := t.collected ++ [(index, (probe.verdict store scope window since).2)] }

/-- A timeline that comes about. -/
abbrev Reached (t : Timeline) : Prop :=
  Relation.ReflTransGen (Next store scope window probes) start t

/-- A timeline that has come to its end: every probe has been started, and none
is waited for. -/
structure Lands (t : Timeline) : Prop where
  reached : Reached store scope window probes t
  all_started : t.starts.length = probes.length
  none_waits : t.waiting = []

/-- What is known of a timeline on its way: outcomes are those of the probes
they are collected for, and the store has been handed what the started probes
ask, in order. -/
structure Kept (t : Timeline) : Prop where
  reports : ∀ outcome ∈ t.collected, Reports store scope window probes outcome
  sent : t.sent = (probes.take t.starts.length).flatMap fun probe => probe.sent scope window

end Steps

variable {store : Store} {scope : Scope} {window : Window} {probes : List Probe}
variable {t t' : Timeline}

/-! ### What a step keeps -/

theorem kept_start : Kept store scope window probes start :=
  ⟨by simp [start], by simp [start]⟩

theorem Next.kept (hnext : Next store scope window probes t t')
    (h : Kept store scope window probes t) : Kept store scope window probes t' := by
  obtain ⟨hreports, hsent⟩ := h
  cases hnext with
  | passes later hle => exact ⟨hreports, hsent⟩
  | @starts probe hleft hfits =>
    refine ⟨hreports, ?_⟩
    obtain ⟨hlt, rfl⟩ := List.getElem?_eq_some_iff.1 hleft
    simp only [List.length_append, List.length_singleton]
    rw [hsent, List.take_succ_eq_append_getElem hlt, List.flatMap_append, List.flatMap_singleton]
  | @ends index since probe hwaits hprobe hstarted hdue hfull =>
    refine ⟨fun outcome houtcome => ?_, hsent⟩
    rcases List.mem_append.1 houtcome with hold | hnew
    · exact hreports outcome hold
    · -- it was collected as of its start, which makes no difference to how it ended
      obtain rfl := List.mem_singleton.1 hnew
      exact ⟨probe, hprobe, probe.verdict_snd store scope window since⟩

theorem Reached.kept (h : Reached store scope window probes t) :
    Kept store scope window probes t := by
  induction h with
  | refl => exact kept_start
  | tail _ hnext ih => exact hnext.kept ih

/-- A step of a timeline is a step of the flight, or time passes. -/
theorem Next.flight (h : Next store scope window probes t t') :
    t'.flight = t.flight ∨
      Flight.Next (width scope.discovery) probes.length t.flight t'.flight := by
  cases h with
  | passes later hle => exact Or.inl rfl
  | @starts probe hleft hfits =>
    have hnext : Flight.Next (width scope.discovery) probes.length t.flight
        ⟨t.starts.length + 1, t.waiting ++ [t.starts.length], t.collected.map Prod.fst⟩ :=
      .starts (List.getElem?_eq_some_iff.1 hleft).1 hfits
    refine Or.inr ?_
    simpa [Timeline.flight] using hnext
  | @ends index since probe hwaits hprobe hstarted hdue hfull =>
    have hnext : Flight.Next (width scope.discovery) probes.length t.flight
        ⟨t.starts.length, t.waiting.erase index, t.collected.map Prod.fst ++ [index]⟩ :=
      .ends index hwaits hfull
    refine Or.inr ?_
    simpa [Timeline.flight] using hnext

theorem Reached.flight (h : Reached store scope window probes t) :
    Flight.Reaches (width scope.discovery) probes.length .start t.flight := by
  induction h with
  | refl => exact .refl _
  | tail _ hnext ih =>
    rcases hnext.flight with heq | hflight
    · exact heq ▸ ih
    · exact ih.append (.step hflight (.refl _))

theorem Reached.sound (h : Reached store scope window probes t) :
    t.flight.Sound (width scope.discovery) probes.length :=
  h.flight.sound Flight.sound_start

/-- The probes end in an order that the room allows. -/
theorem Lands.schedule (h : Lands store scope window probes t) :
    Schedule (width scope.discovery) probes.length (t.collected.map Prod.fst) := by
  have hflight := h.reached.flight
  rw [Timeline.flight, h.all_started, h.none_waits] at hflight
  exact hflight

/-! ### Every order comes about -/

/-- Whatever the flight may do next, the timeline can do: time passes until the
probe that is to end is due. -/
theorem Reached.exists_of_next (h : Reached store scope window probes t) {flight : Flight}
    (hnext : Flight.Next (width scope.discovery) probes.length t.flight flight) :
    ∃ t', Relation.ReflTransGen (Next store scope window probes) t t' ∧ t'.flight = flight := by
  have hsound := h.sound
  unfold Timeline.flight at hnext
  cases hnext with
  | starts hleft hfits =>
    refine ⟨_, .single (.starts (List.getElem?_eq_getElem hleft) hfits), ?_⟩
    simp [Timeline.flight]
  | ends index hwaits hfull =>
    have hindex : index < t.starts.length :=
      List.mem_range.1 (hsound.perm.mem_iff.1 (List.mem_append_right _ hwaits))
    have hlt : index < probes.length := Nat.lt_of_lt_of_le hindex hsound.started_le
    -- it may be due already, or time has to pass until it is
    let moment := max t.clock (probes[index].verdict store scope window t.starts[index]).1
    refine ⟨_, .head (.passes moment (Nat.le_max_left ..)) (.single (.ends hwaits
      (List.getElem?_eq_getElem hlt) (List.getElem?_eq_getElem hindex) (Nat.le_max_right ..)
      hfull)), ?_⟩
    simp [Timeline.flight]

theorem Reached.exists_of_reaches (h : Reached store scope window probes t) {flight : Flight}
    (hreaches : Flight.Reaches (width scope.discovery) probes.length t.flight flight) :
    ∃ t', Relation.ReflTransGen (Next store scope window probes) t t' ∧ t'.flight = flight := by
  -- the flight is given step by step, and the timeline follows
  generalize hfirst : t.flight = first at hreaches
  induction hreaches generalizing t with
  | refl => exact ⟨t, .refl, hfirst⟩
  | step hnext _ ih =>
    obtain ⟨t₁, hsteps, hsecond⟩ := h.exists_of_next (hfirst ▸ hnext)
    obtain ⟨t₂, hrest, hlast⟩ := ih (h.trans hsteps) hsecond
    exact ⟨t₂, hsteps.trans hrest, hlast⟩

theorem lands_of_flight {ended : List Nat} (h : Reached store scope window probes t)
    (hflight : t.flight = ⟨probes.length, [], ended⟩) :
    Lands store scope window probes t ∧ t.collected.map Prod.fst = ended := by
  obtain ⟨clock, starts, waiting, collected, sent⟩ := t
  obtain ⟨hstarted, hwaiting, hended⟩ := Flight.mk.inj hflight
  exact ⟨⟨h, hstarted, hwaiting⟩, hended⟩

/-- **Every order that the room allows comes about**, whatever the store. -/
theorem exists_lands_of_schedule {ended : List Nat}
    (h : Schedule (width scope.discovery) probes.length ended) :
    ∃ t, Lands store scope window probes t ∧ t.collected.map Prod.fst = ended := by
  have hstart : Reached store scope window probes start := .refl
  obtain ⟨t, hsteps, hflight⟩ := hstart.exists_of_reaches h
  exact ⟨t, lands_of_flight hsteps hflight⟩

/-- **Nothing is stuck**: a timeline that is on its way can land. -/
theorem Reached.exists_lands (h : Reached store scope window probes t) :
    ∃ t', Relation.ReflTransGen (Next store scope window probes) t t' ∧
      Lands store scope window probes t' := by
  -- there is room for a probe whatever the settings say, so some flight goes on to the end
  obtain ⟨ended, hreaches⟩ := h.sound.exists_reaches (width_pos scope.discovery)
  obtain ⟨t', hsteps, hflight⟩ := h.exists_of_reaches hreaches
  exact ⟨t', hsteps, (lands_of_flight (h.trans hsteps) hflight).1⟩

/-! ### What has landed -/

/-- **What a discovery delivers on a timeline that has landed**, which is what
`fetchEnding` and `fetch` compute. -/
structure Delivers (store : Store) (scope : Scope) (window : Window) (probes : List Probe)
    (t : Timeline) : Prop where
  /-- Each probe asks the store once. -/
  sent : t.sent = probes.flatMap fun probe => probe.sent scope window
  /-- Each probe ends once. -/
  ended : (t.collected.map Prod.fst).Perm (List.range probes.length)
  /-- There is a place for each probe. -/
  length : (settle probes t.collected).value.length = probes.length
  /-- It holds what the probe finds when it is run alone, or nothing if the
  probe fails. -/
  entry : ∀ (index : Nat) (probe : Probe), probes[index]? = some probe →
    (settle probes t.collected).value[index]? = some (probe.found store scope window)
  /-- Each failure is counted once, for the metric of its probe. -/
  counted : ∀ metric,
    (settle probes t.collected).trace.counted.count (.failedProbe metric) =
      probes.countP fun probe =>
        decide (probe.metric = metric) && probe.fails store scope window
  /-- That is what is read off the counter of the metric by its text. -/
  counted_series : ∀ metric,
    ((settle probes t.collected).trace.counted.map Count.series).count
        ("apm_metrics_option_probe_failures_total\x7bmetric_field=" ++ metric ++ "\x7d") =
      probes.countP fun probe =>
        decide (probe.metric = metric) && probe.fails store scope window
  /-- Given the order of the endings, `fetchEnding` does the same. -/
  fetchEnding_eq :
    (fetchEnding (t.collected.map Prod.fst) store scope window probes).value =
        (settle probes t.collected).value ∧
      (fetchEnding (t.collected.map Prod.fst) store scope window probes).trace.counted =
        (settle probes t.collected).trace.counted ∧
      (fetchEnding (t.collected.map Prod.fst) store scope window probes).trace.sent = t.sent
  /-- So does `fetch`, up to the order of what is counted. -/
  fetch_eq :
    (fetch store scope window probes).value = (settle probes t.collected).value ∧
      (fetch store scope window probes).trace.counted.Perm
        (settle probes t.collected).trace.counted ∧
      (fetch store scope window probes).trace.sent = t.sent

theorem Lands.fetchEnding_eq (h : Lands store scope window probes t) :
    (fetchEnding (t.collected.map Prod.fst) store scope window probes).value =
        (settle probes t.collected).value ∧
      (fetchEnding (t.collected.map Prod.fst) store scope window probes).trace.counted =
        (settle probes t.collected).trace.counted ∧
      (fetchEnding (t.collected.map Prod.fst) store scope window probes).trace.sent = t.sent := by
  obtain ⟨hreports, hsent⟩ := h.reached.kept
  rw [h.all_started, List.take_length] at hsent
  refine ⟨?_, ?_, (fetchEnding_sent _).trans hsent.symm⟩
  · unfold fetchEnding
    rw [Run.value_inSpan, Run.value_bind, inOrder_runAll hreports]
  · unfold fetchEnding
    rw [Run.counted_inSpan, Run.trace_bind, Trace.counted_append, counted_runAll,
      inOrder_runAll hreports, List.nil_append]

/-- The values stand in the order of the probes. -/
theorem Lands.value_settle (h : Lands store scope window probes t) :
    (settle probes t.collected).value =
      probes.map fun probe => probe.found store scope window := by
  rw [← h.fetchEnding_eq.1]
  exact fetchEnding_value h.schedule.perm_range

/-- Each failure is counted once. -/
theorem Lands.counted_perm (h : Lands store scope window probes t) :
    (settle probes t.collected).trace.counted.Perm
      (probes.flatMap (failures store scope window)) := by
  rw [← h.fetchEnding_eq.2.1]
  exact fetchEnding_counted h.schedule.perm_range

theorem Lands.delivers (h : Lands store scope window probes t) :
    Delivers store scope window probes t := by
  obtain ⟨-, -, hsent⟩ := h.fetchEnding_eq
  have hended := h.schedule.perm_range
  refine ⟨?_, hended, ?_, ?_, ?_, ?_, h.fetchEnding_eq, ?_, ?_, ?_⟩
  · rw [← hsent, fetchEnding_sent]
  · rw [h.value_settle, List.length_map]
  · intro index probe hprobe
    rw [h.value_settle, List.getElem?_map, hprobe, Option.map_some]
  · intro metric
    rw [h.counted_perm.count_eq, count_failures]
  · intro metric
    rw [(h.counted_perm.map Count.series).count_eq, count_series_failures]
  · rw [h.value_settle]
    exact fetch_value
  · exact (fetchEnding_counted (.refl _)).trans h.counted_perm.symm
  · rw [← hsent, fetchEnding_sent]
    exact fetchEnding_sent _

/-- A probe finds the same on any two timelines, if the stores reply to it alike. -/
theorem Lands.entry_congr {store' : Store} {probes' : List Probe} {t' : Timeline}
    (h : Lands store scope window probes t) (h' : Lands store' scope window probes' t')
    {index : Nat} (hsame : probes'[index]? = probes[index]?)
    (hreplies : ∀ probe : Probe, probes[index]? = some probe →
      ∀ set ∈ probe.sent scope window, store' set = store set) :
    (settle probes' t'.collected).value[index]? =
      (settle probes t.collected).value[index]? := by
  rw [h.value_settle, h'.value_settle, List.getElem?_map, List.getElem?_map, hsame]
  cases hprobe : probes[index]? with
  | none => rw [Option.map_none, Option.map_none]
  | some probe =>
    rw [Option.map_some, Option.map_some,
      probe.found_congr scope window (hreplies probe hprobe)]

/-- **Discovery is independent of scheduling, and failures are isolated.**  For
any store, window, settings and list of probes:

* a timeline that is on its way can land;
* the probes may end in any order that the room allows;
* in whatever order they ended, what is delivered is the same, and is fixed
  place by place by what each probe finds alone;
* with another store, or other probes around it, a probe for which the store
  replies as before is given what it was given before. -/
theorem schedule_independent (store : Store) (scope : Scope) (window : Window)
    (probes : List Probe) :
    (∀ t, Reached store scope window probes t →
      ∃ t', Relation.ReflTransGen (Next store scope window probes) t t' ∧
        Lands store scope window probes t') ∧
    (∀ ended, Schedule (width scope.discovery) probes.length ended →
      ∃ t, Lands store scope window probes t ∧ t.collected.map Prod.fst = ended) ∧
    (∀ t, Lands store scope window probes t → Delivers store scope window probes t) ∧
    ∀ t, Lands store scope window probes t →
      ∀ store' probes' t', Lands store' scope window probes' t' →
        ∀ index : Nat, probes'[index]? = probes[index]? →
          (∀ probe : Probe, probes[index]? = some probe →
            ∀ set ∈ probe.sent scope window, store' set = store set) →
          (settle probes' t'.collected).value[index]? =
            (settle probes t.collected).value[index]? := by
  refine ⟨fun t h => h.exists_lands, fun ended h => exists_lands_of_schedule h,
    fun t h => h.delivers, ?_⟩
  intro t h store' probes' t' h' index hsame hreplies
  exact h.entry_congr h' hsame hreplies

/-- Of two probes the first hangs.  The second ends before it, and still stands
in the second place; the first is counted. -/
theorem schedule_independent_hung :
    let scope : Scope := ⟨"calls", {}, {}⟩
    let store : Store := fun set =>
      if set.queries.any fun query => query.groupBy == ["caller_server"] then
        { answer := .ok [], delay := 30000000000 }
      else { answer := .ok [⟨.ofList [("callee_server", "svcB")], 1⟩] }
    let probes : List Probe := [⟨"rpc_client_handled_total", "caller_server", .empty⟩,
      ⟨"rpc_server_handled_total", "callee_server", .empty⟩]
    ∃ t, Lands store scope ⟨0, 3600000⟩ probes t ∧ t.collected.map Prod.fst = [1, 0] ∧
      (settle probes t.collected).value = [.empty, .ofList ["svcB"]] ∧
      ((settle probes t.collected).trace.counted.map Count.series).count
        "apm_metrics_option_probe_failures_total\x7bmetric_field=rpc_client_handled_total\x7d" =
          1 := by
  intro scope store probes
  obtain ⟨-, hall, hdelivers, -⟩ := schedule_independent store scope ⟨0, 3600000⟩ probes
  have hschedule : Schedule (width scope.discovery) probes.length [1, 0] := by
    refine .step (.starts (by decide) (by decide)) ?_
    refine .step (.starts (by decide) (by decide)) ?_
    refine .step (.ends 1 (by decide) (Or.inl rfl)) ?_
    exact .step (.ends 0 (by decide) (Or.inl rfl)) (.refl _)
  obtain ⟨t, hlands, hended⟩ := hall [1, 0] hschedule
  have hset (probe : Probe) : probe.querySet scope ⟨0, 3600000⟩ =
      .ok (probe.asks scope ⟨0, 3600000⟩) := by
    rw [Probe.querySet_eq]
    rfl
  have hlate : Probe.result ⟨"rpc_client_handled_total", "caller_server", .empty⟩ store scope
      ⟨0, 3600000⟩ = .error (.timedOut ⟨10, 0⟩) :=
    (Probe.result_of_ok _ _ _ _ (hset _)).trans (by cbv)
  have hfails : Probe.fails ⟨"rpc_client_handled_total", "caller_server", .empty⟩ store scope
      ⟨0, 3600000⟩ = true := by
    rw [Probe.fails_eq, hlate]
    rfl
  have hfound : Probe.found ⟨"rpc_server_handled_total", "callee_server", .empty⟩ store scope
      ⟨0, 3600000⟩ = .ofList ["svcB"] := by
    apply Probe.found_of_result_ok
    rw [Probe.result_of_ok _ _ _ _ (hset _)]
    cbv
  have hlanded := hdelivers t hlands
  refine ⟨t, hlands, hended, ?_, ?_⟩
  · obtain ⟨first, second, hvalue⟩ := List.length_eq_two.1 hlanded.length
    have hfirst := hlanded.entry 0 _ rfl
    have hsecond := hlanded.entry 1 _ rfl
    rw [hvalue, List.getElem?_cons_zero, Probe.found_of_result_error _ _ _ _ hlate] at hfirst
    rw [hvalue, List.getElem?_cons_succ, List.getElem?_cons_zero, hfound] at hsecond
    rw [hvalue, Option.some.inj hfirst, Option.some.inj hsecond]
  · refine (hlanded.counted_series "rpc_client_handled_total").trans ?_
    rw [List.countP_cons_of_pos (by rw [hfails]; rfl)]
    rfl

end Timeline
end Discovery
end RpcMetrics
