import Mathlib
import RpcMetrics.Group
import RpcMetrics.Proofs.ByteOrder
import RpcMetrics.Proofs.DiscoveryTimeline
import RpcMetrics.Proofs.TemporalityDetection

/-! # What a discovery finds

A discovery collects the values that the store's rows give to the tags of its
probes.  Some of what the store says is no value: a row may lack the tag or give it
the empty value, an answer may be an error, or come too late to be heard.  What
remains is *told* (`Discovery.Told`).

**A discovery finds what is told, and nothing else** (`Discovery.mem_fetchUnion_iff`).
Whether something is told has nothing to do with the order of the probes, with how
often one of them is listed, or with which of them ends first.

Two requests are discoveries.  The list of servers is what the probes at both ends
of a call are told, in the order of the bytes.  The temporality of a server is read
off what the probes for its libraries are told: its counters are those of each
interval if there is a library, and cumulative if there is none, be it that the rows
name none or that the probes fail. -/
namespace RpcMetrics

/-- The store answers what the probe asks in time, with these rows. -/
def Probe.Answered (probe : Probe) (store : Store) (scope : Scope) (window : Window)
    (rows : List Row) : Prop :=
  (0 ≤ window.start ∧ window.start ≤ window.stop) ∧
    (store (probe.asks scope window)).InTime scope.discovery.probeTimeout ∧
    (store (probe.asks scope window)).answer = .ok rows

theorem Probe.mem_found_iff_answered {probe : Probe} {store : Store} {scope : Scope}
    {window : Window} {value : String} : value ∈ probe.found store scope window ↔
      value ≠ "" ∧ ∃ rows, probe.Answered store scope window rows ∧
        ∃ row ∈ rows, row.get? probe.tag = some value := by
  cases hset : probe.querySet scope window with
  | error failure =>
    have hwindow : ¬ (0 ≤ window.start ∧ window.start ≤ window.stop) := by
      intro h
      rw [(probe.querySet_eq_ok_iff scope window).2 ⟨h, rfl⟩] at hset
      cases hset
    rw [probe.found_of_result_error _ _ _ (probe.result_of_error store scope window hset)]
    refine iff_of_false (Data.NameSet.not_mem_empty value) ?_
    rintro ⟨-, rows, ⟨h, -⟩, -⟩
    exact hwindow h
  | ok set =>
    obtain ⟨hwindow, rfl⟩ := (probe.querySet_eq_ok_iff scope window).1 hset
    rw [probe.mem_found_iff store scope window hset]
    constructor
    · rintro ⟨htime, rows, hrows, row, hrow, hvalue, hne⟩
      exact ⟨hne, rows, ⟨hwindow, htime, hrows⟩, row, hrow, hvalue⟩
    · rintro ⟨hne, rows, ⟨-, htime, hrows⟩, row, hrow, hvalue⟩
      exact ⟨htime, rows, hrows, row, hrow, hvalue, hne⟩

namespace Discovery

/-- One of the probes is answered with a row that gives the value to its tag.  The
empty value is none. -/
def Told (store : Store) (scope : Scope) (window : Window) (probes : List Probe)
    (value : String) : Prop :=
  value ≠ "" ∧ ∃ probe ∈ probes, ∃ rows, probe.Answered store scope window rows ∧
    ∃ row ∈ rows, row.get? probe.tag = some value

variable {store : Store} {scope : Scope} {window : Window} {probes probes' : List Probe}

theorem mem_fetchUnion_iff {value : String} :
    value ∈ (fetchUnion store scope window probes).value ↔
      Told store scope window probes value := by
  rw [mem_fetchUnion]
  constructor
  · rintro ⟨probe, hprobe, hvalue⟩
    obtain ⟨hne, htold⟩ := Probe.mem_found_iff_answered.1 hvalue
    exact ⟨hne, probe, hprobe, htold⟩
  · rintro ⟨hne, probe, hprobe, htold⟩
    exact ⟨probe, hprobe, Probe.mem_found_iff_answered.2 ⟨hne, htold⟩⟩

theorem told_congr (h : ∀ probe, probe ∈ probes ↔ probe ∈ probes') {value : String} :
    Told store scope window probes value ↔ Told store scope window probes' value := by
  unfold Told
  simp only [h]

theorem fetchUnion_congr (h : ∀ probe, probe ∈ probes ↔ probe ∈ probes') :
    (fetchUnion store scope window probes).value =
      (fetchUnion store scope window probes').value := by
  refine Data.NameSet.ext fun value => ?_
  rw [mem_fetchUnion_iff, mem_fetchUnion_iff]
  exact told_congr h

/-- What has been found once all probes have ended, in whatever order. -/
theorem Timeline.Lands.union_eq {t : Timeline} (h : Lands store scope window probes t) :
    union (settle probes t.collected).value = (fetchUnion store scope window probes).value := by
  rw [h.value_settle, ← fetch_value]
  rfl

end Discovery

/-- The members of a set are listed in the order of their bytes. -/
theorem Data.NameSet.pairwise_bytes (names : Data.NameSet) :
    names.toList.Pairwise fun first second => Text.bytes first < Text.bytes second :=
  names.ascending.imp Text.bytes_lt_iff.2

namespace Group
variable {store : Store}

/-- The probes that find out the names of servers, by the tag that names them at
either end of calls. -/
def serverProbes : List Probe :=
  [⟨"rpc_client_handled_total", "caller_server", ⟨[]⟩⟩,
    ⟨"rpc_server_handled_total", "callee_server", ⟨[]⟩⟩]

/-- The probes that find out the libraries of a server, at either end of its calls. -/
def libraryProbes (server : String) : List Probe :=
  [⟨"rpc_client_handled_total", "sdk_name", ⟨[⟨"caller_server", .eq, [server]⟩]⟩⟩,
    ⟨"rpc_server_handled_total", "sdk_name", ⟨[⟨"callee_server", .eq, [server]⟩]⟩⟩]

theorem mem_serverList {group : Group} {now : Int64} {start stop : Option Int64}
    {name : String} : name ∈ (group.serverList store now start stop).value ↔
      Discovery.Told store group.scope (group.scope.window now start stop) serverProbes name :=
  Discovery.mem_fetchUnion_iff

theorem sdkProbes_eq (server : String) : sdkProbes server = libraryProbes server := rfl

theorem temporality_serverProfile (group : Group) (now : Int64) (server : String)
    (start stop : Option Int64) :
    (group.serverProfile store now server start stop).value.temporality =
      temporalityOf (Discovery.fetchUnion store group.scope (group.scope.window now start stop)
        (libraryProbes server)).value := by
  rw [← sdkProbes_eq]
  rfl

theorem temporalityOf_eq_delta_iff {names : Data.NameSet} :
    temporalityOf names = .delta ↔ ∃ name, name ∈ names := by
  have hcumulative : temporalityOf names = .delta ↔ temporalityOf names ≠ .cumulative := by
    cases temporalityOf names <;> simp
  rw [hcumulative, Ne, temporalityOf_eq_cumulative_iff, not_forall]
  simp only [not_not]

end Group
end RpcMetrics
