import Mathlib
import RpcMetrics.Proofs.DiscoveryTimeline

/-! # What a discovery sends

The probes of a discovery share a window, and the window is all that the query set
of a probe can be refused for, whatever the metric, the tag and the filter are
(`Probe.querySet_eq_error_iff`).  So the probes are refused together or not at all,
and **discovery is all or nothing** (`Discovery.fetch_all_or_nothing`).  If the
window is in order, the store is handed what each probe asks, one query set after
the other in the order of the probes.  Otherwise it is handed nothing, every place
stays empty, and each probe is counted as a failure. -/
namespace RpcMetrics

namespace Probe
variable {probe : Probe} {store : Store} {scope : Scope} {window : Window}

theorem querySet_eq_error_iff {failure : Failure} :
    probe.querySet scope window = .error failure ↔
      ∃ fault, QuerySetDraft.checkWindow window = .error fault ∧
        failure = .validation fault := by
  rw [querySet_eq]
  cases QuerySetDraft.checkWindow window with
  | ok _ => simp
  | error fault => simp [eq_comm]

section Refused
variable (h : ¬ (0 ≤ window.start ∧ window.start ≤ window.stop))
include h

theorem exists_error_of_refused (probe : Probe) (scope : Scope) :
    ∃ failure, probe.querySet scope window = .error failure := by
  cases hset : probe.querySet scope window with
  | ok set => exact absurd ((probe.querySet_eq_ok_iff scope window).1 hset).1 h
  | error failure => exact ⟨failure, rfl⟩

theorem sent_of_refused : probe.sent scope window = [] := by
  obtain ⟨failure, hset⟩ := exists_error_of_refused h probe scope
  rw [sent, hset]
  rfl

theorem fails_of_refused : probe.fails store scope window = true := by
  obtain ⟨failure, hset⟩ := exists_error_of_refused h probe scope
  rw [probe.fails_eq, probe.result_of_error store scope window hset]
  rfl

theorem found_of_refused : probe.found store scope window = .empty := by
  obtain ⟨failure, hset⟩ := exists_error_of_refused h probe scope
  exact probe.found_of_result_error store scope window
    (probe.result_of_error store scope window hset)

end Refused
end Probe

namespace Discovery
variable {store : Store} {scope : Scope} {window : Window} {probes : List Probe}

section Refused
variable (h : ¬ (0 ≤ window.start ∧ window.start ≤ window.stop))
include h

theorem sent_of_refused : (probes.flatMap fun probe => probe.sent scope window) = [] := by
  rw [List.flatMap_eq_nil_iff]
  intro probe _
  exact probe.sent_of_refused h

theorem found_of_refused : (probes.map fun probe => probe.found store scope window) =
    List.replicate probes.length .empty := by
  rw [List.map_eq_replicate_iff]
  intro probe _
  exact probe.found_of_refused h

/-- Each probe is counted, for its metric. -/
theorem failures_of_refused : probes.flatMap (failures store scope window) =
    probes.map fun probe => .failedProbe probe.metric := by
  rw [List.map_eq_flatMap]
  refine List.flatMap_congr fun probe _ => ?_
  rw [failures, if_pos (probe.fails_of_refused h)]

end Refused

/-- **Discovery is all or nothing.**  Building the query set of a probe fails for the
window only, and the probes share the window that the request resolves to.

* If the window is in order, each probe that has been started has been handed to the
  store, in the order of the probes, and in the end all of them have.
* Otherwise nothing is handed to the store at any time.  In the end every place is
  empty, and every probe has been counted as a failure once. -/
theorem fetch_all_or_nothing (store : Store) (scope : Scope) (now : Int64)
    (start stop : Option Int64) (probes : List Probe) :
    let window := scope.window now start stop
    let asked := probes.map fun probe => probe.asks scope window
    let failed := probes.map fun probe => Count.failedProbe probe.metric
    let series := probes.map fun probe =>
      "apm_metrics_option_probe_failures_total\x7bmetric_field=" ++ probe.metric ++ "\x7d"
    (∀ probe : Probe, ∀ failure, probe.querySet scope window = .error failure ↔
      ∃ fault, QuerySetDraft.checkWindow window = .error fault ∧
        failure = .validation fault) ∧
    ((0 ≤ window.start ∧ window.start ≤ window.stop) →
      (∀ t, Timeline.Reached store scope window probes t →
        t.sent = asked.take t.starts.length) ∧
      (∀ t, Timeline.Lands store scope window probes t → t.sent = asked) ∧
      (fetch store scope window probes).trace.sent = asked) ∧
    (¬ (0 ≤ window.start ∧ window.start ≤ window.stop) →
      (∀ t, Timeline.Reached store scope window probes t → t.sent = []) ∧
      (∀ t, Timeline.Lands store scope window probes t →
        (settle probes t.collected).value = List.replicate probes.length .empty ∧
        (settle probes t.collected).trace.counted.Perm failed ∧
        ((settle probes t.collected).trace.counted.map Count.series).Perm series) ∧
      (fetch store scope window probes).trace.sent = [] ∧
      (fetch store scope window probes).value = List.replicate probes.length .empty ∧
      (fetch store scope window probes).trace.counted.Perm failed ∧
      ((fetch store scope window probes).trace.counted.map Count.series).Perm series) := by
  intro window asked failed series
  refine ⟨fun probe failure => Probe.querySet_eq_error_iff, fun hwindow => ?_,
    fun hwindow => ?_⟩
  · refine ⟨fun t ht => ?_, fun t ht => ?_, ?_⟩
    · rw [ht.kept.sent, sent_of_in_order hwindow, List.map_take]
    · rw [ht.delivers.sent, sent_of_in_order hwindow]
    · exact (fetchEnding_sent _).trans (sent_of_in_order hwindow)
  · have hfailed : probes.flatMap (failures store scope window) = failed :=
      failures_of_refused hwindow
    have hseries : failed.map Count.series = series := List.map_map
    have hfetched : (fetch store scope window probes).trace.counted.Perm failed := by
      rw [← hfailed]
      exact fetchEnding_counted (.refl _)
    have hlanded : ∀ t, Timeline.Lands store scope window probes t →
        (settle probes t.collected).trace.counted.Perm failed := by
      intro t ht
      rw [← hfailed]
      exact ht.counted_perm
    rw [← hseries]
    refine ⟨fun t ht => ?_, fun t ht => ⟨?_, hlanded t ht, (hlanded t ht).map _⟩, ?_, ?_,
      hfetched, hfetched.map _⟩
    · rw [ht.kept.sent, sent_of_refused hwindow]
    · rw [ht.value_settle, found_of_refused hwindow]
    · exact (fetchEnding_sent _).trans (sent_of_refused hwindow)
    · exact fetch_value.trans (found_of_refused hwindow)

/-- Two probes, of which one has no metric and no tag.  Up to now both are asked;
up to a moment before the start neither is. -/
theorem fetch_all_or_nothing_inverted :
    let scope : Scope := ⟨"calls", {}, {}⟩
    let store : Store := fun _ => { answer := .ok [] }
    let probes : List Probe := [⟨"", "", .empty⟩, ⟨"rpc_client_handled_total", "env", .empty⟩]
    let window (stop : Option Int64) := scope.window 1700000000 (some 1699999000) stop
    (fetch store scope (window none) probes).trace.sent =
        probes.map (fun probe => probe.asks scope (window none)) ∧
      (fetch store scope (window (some 1699998000)) probes).trace.sent = [] ∧
      ∃ t, Timeline.Lands store scope (window (some 1699998000)) probes t ∧ t.sent = [] ∧
        (settle probes t.collected).value = [.empty, .empty] ∧
        (settle probes t.collected).trace.counted.length = 2 ∧
        "apm_metrics_option_probe_failures_total\x7bmetric_field=rpc_client_handled_total\x7d" ∈
          (settle probes t.collected).trace.counted.map Count.series := by
  intro scope store probes window
  have hearly : 0 ≤ (window none).start ∧ (window none).start ≤ (window none).stop := by decide
  have hlate : ¬ (0 ≤ (window (some 1699998000)).start ∧
      (window (some 1699998000)).start ≤ (window (some 1699998000)).stop) := by decide
  obtain ⟨-, hasked, -⟩ :=
    fetch_all_or_nothing store scope 1700000000 (some 1699999000) none probes
  obtain ⟨-, -, hrefused⟩ :=
    fetch_all_or_nothing store scope 1700000000 (some 1699999000) (some 1699998000) probes
  obtain ⟨hsilent, hlands, hsent, -⟩ := hrefused hlate
  have hstart : Timeline.Reached store scope (window (some 1699998000)) probes .start := .refl
  obtain ⟨t, -, ht⟩ := hstart.exists_lands
  obtain ⟨hvalue, hcounted, hseries⟩ := hlands t ht
  refine ⟨(hasked hearly).2.2, hsent, t, ht, hsilent t ht.reached, hvalue, hcounted.length_eq, ?_⟩
  exact hseries.mem_iff.2 (List.mem_cons_of_mem _ List.mem_cons_self)

end Discovery
end RpcMetrics
