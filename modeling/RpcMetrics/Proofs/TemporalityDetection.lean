import Mathlib
import RpcMetrics.Proofs.CommandRefusals
import RpcMetrics.Proofs.CalculationRuns
import RpcMetrics.Proofs.ProbeOutcomes
import RpcMetrics.Proofs.SubQueryAlignment

/-! # How a temporality is found out

Cumulative counters have to be read by their increase, the others must not be.
Which of the two a server reports is said by the request, found out by two probes,
or assumed, in this order.

Two kinds of query sets are told apart: one **detects** (`QuerySet.Detects`) if it
counts the series of a metric for each library, the other **calculates**
(`QuerySet.Calculates`); none does both.  Once the words of a request have been
read, its calculation sends what choosing the temporality sends, and then at most
one query set (`calculate_asks`), which begins with the increase iff the
temporality that was chosen is cumulative (`Group.startsWithIncrease_iff`).

**The choice is the store's**, where a server is named and no temporality
(`DetectionDrives`): the calculation comes after the two probes, and reads
increases iff neither of them was told a library (`temporality_drives`).
-/
namespace RpcMetrics

/-! ### Two kinds of query sets -/

/-- **A query set detects**: it counts the series of a metric of one server, which
a tag names, for each library. -/
structure QuerySet.Detects (metric tag server : String) (set : QuerySet) : Prop where
  query : ∃ query, set.queries = [query] ∧ query.method = .count ∧ query.metric = metric ∧
    query.filter.conditions = [⟨tag, .eq, [server]⟩] ∧ query.groupBy = ["sdk_name"] ∧
    query.transforms = []
  transforms : set.transforms = []

/-- **A query set calculates**: a group hands it out for a calculation. -/
def QuerySet.Calculates (set : QuerySet) : Prop :=
  ∃ (group : Group) (now : Int64) (calculation : Calculation) (params : Params),
    group.querySet now calculation params = .ok set

/-- A sub-query begins with the increase of its counters. -/
def Query.StartsWithIncrease (query : Query) : Prop :=
  ∃ window, query.transforms.head? = some (.increase window)

namespace Group
variable {group : Group} {now : Int64} {calculation : Calculation} {params : Params}
variable {set : QuerySet}

/-- A sub-query of a calculation is that of a part. -/
theorem exists_part_of_mem_queries (h : group.querySet now calculation params = .ok set)
    {query : Query} (hquery : query ∈ set.queries) :
    ∃ (inner : Calculation) (part : Part), part ∈ inner.parts ∧
      query = group.partQuery (group.scope.window now params.start params.stop) part := by
  obtain ⟨inner, transforms, -, -, rfl⟩ := group.eq_composed_of_querySet h
  obtain ⟨part, hpart, rfl⟩ := List.mem_map.1 hquery
  exact ⟨inner, part, hpart, rfl⟩

/-- **Increases are read iff counters are cumulative.**  What a part adds is not
an increase. -/
theorem startsWithIncrease_iff (h : group.querySet now calculation params = .ok set)
    {query : Query} (hquery : query ∈ set.queries) :
    query.StartsWithIncrease ↔ group.options.temporality = .cumulative := by
  obtain ⟨inner, part, hpart, rfl⟩ := exists_part_of_mem_queries h hquery
  obtain ⟨-, -, htransforms⟩ := Calculation.part_adds hpart
  have hquery : (group.partQuery (group.scope.window now params.start params.stop)
      part).transforms = group.windowed (group.scope.window now params.start params.stop) ++
        part.transforms := rfl
  unfold Query.StartsWithIncrease
  rw [hquery, htransforms, windowed]
  cases group.options.temporality with
  | cumulative => simp
  | delta => cases inner.quantile? <;> simp

/-- The conditions of the group are on every sub-query. -/
theorem mem_conditions_of_mem_queries (h : group.querySet now calculation params = .ok set)
    {query : Query} (hquery : query ∈ set.queries) {condition : Condition}
    (hcondition : condition ∈ group.options.filter.conditions) :
    condition ∈ query.filter.conditions := by
  obtain ⟨inner, part, -, rfl⟩ := exists_part_of_mem_queries h hquery
  exact List.mem_append_left _ hcondition

/-- There is a window for a query set. -/
theorem window_of_querySet (h : group.querySet now calculation params = .ok set) :
    let window := group.scope.window now params.start params.stop
    0 ≤ window.start ∧ window.start ≤ window.stop := by
  obtain ⟨inner, transforms, -, hsound, rfl⟩ := group.eq_composed_of_querySet h
  exact ⟨hsound.start_nonneg, hsound.start_le_stop⟩

end Group

/-- **No query set does both**: a probe counts, and a calculation sums. -/
theorem QuerySet.Calculates.not_detects {set : QuerySet} (h : set.Calculates)
    {metric tag server : String} : ¬ set.Detects metric tag server := by
  rintro ⟨⟨query, hqueries, hmethod, -⟩, -⟩
  obtain ⟨group, now, calculation, params, hset⟩ := h
  have hquery : query ∈ set.queries := by
    rw [hqueries]
    exact List.mem_singleton_self query
  obtain ⟨inner, part, -, rfl⟩ := Group.exists_part_of_mem_queries hset hquery
  -- the sub-query of a part sums
  cases hmethod

/-! ### The probes -/

/-- **A reply tells a library**: it comes in time, and one of its rows names a
library. -/
def Reply.TellsLibrary (reply : Reply) (settings : DiscoverySettings) : Prop :=
  reply.InTime settings.probeTimeout ∧ ∃ rows, reply.answer = .ok rows ∧
    ∃ row ∈ rows, ∃ name, row.get? "sdk_name" = some name ∧ name ≠ ""

namespace Group
variable {store : Store} {scope : Scope} {window : Window} {server : String}

/-- The tag that names a server is called after the end of calls it stands at. -/
theorem serverTag_eq (role : Role) : role.serverTag = role.name ++ "_server" := by
  cases role <;> rfl

/-- The query set of a probe for libraries detects. -/
theorem sdkProbe_detects (role : Role) :
    ((sdkProbe server role).asks scope window).Detects (role.field .handledTotal) role.serverTag
      server := by
  constructor
  · exact ⟨_, rfl, rfl, rfl, rfl, rfl, rfl⟩
  · rfl

/-- The probes that find out the temporality of a server. -/
def sdkProbes (server : String) : List Probe := [sdkProbe server .caller, sdkProbe server .callee]

theorem sent_sdkProbes (hwindow : 0 ≤ window.start ∧ window.start ≤ window.stop) :
    (sdkProbes server).flatMap (fun probe => probe.sent scope window) =
      [(sdkProbe server .caller).asks scope window,
        (sdkProbe server .callee).asks scope window] := by
  rw [Discovery.sent_of_in_order hwindow]
  rfl

theorem detects_of_mem_sent {set : QuerySet}
    (h : set ∈ (sdkProbes server).flatMap fun probe => probe.sent scope window) :
    ∃ metric tag, set.Detects metric tag server := by
  obtain ⟨probe, hprobe, hset⟩ := List.mem_flatMap.1 h
  obtain ⟨-, rfl⟩ := (probe.mem_sent_iff scope window).1 hset
  rcases List.mem_pair.1 hprobe with rfl | rfl <;> exact ⟨_, _, sdkProbe_detects _⟩

/-- **A probe finds a library iff it is told one.** -/
theorem sdkProbe_found_iff (hwindow : 0 ≤ window.start ∧ window.start ≤ window.stop)
    (role : Role) : (∃ name, name ∈ (sdkProbe server role).found store scope window) ↔
      (store ((sdkProbe server role).asks scope window)).TellsLibrary scope.discovery := by
  have hset : (sdkProbe server role).querySet scope window =
      .ok ((sdkProbe server role).asks scope window) :=
    (Probe.querySet_eq_ok_iff ..).2 ⟨hwindow, rfl⟩
  simp only [Probe.mem_found_iff _ _ _ _ hset]
  constructor
  · rintro ⟨name, htime, rows, hrows, row, hrow, hname, hne⟩
    exact ⟨htime, rows, hrows, row, hrow, name, hname, hne⟩
  · rintro ⟨htime, rows, hrows, row, hrow, name, hname, hne⟩
    exact ⟨name, htime, rows, hrows, row, hrow, hname, hne⟩

theorem temporalityOf_eq_cumulative_iff {names : Data.NameSet} :
    temporalityOf names = .cumulative ↔ ∀ name, name ∉ names := by
  rw [← Data.NameSet.isEmpty_iff, temporalityOf]
  cases names.isEmpty <;> simp

/-- **Counters are taken to be cumulative iff neither probe is told a library.** -/
theorem temporalityOf_fetched (hwindow : 0 ≤ window.start ∧ window.start ≤ window.stop) :
    temporalityOf (Discovery.fetchUnion store scope window (sdkProbes server)).value = .cumulative ↔
      ¬ (store ((sdkProbe server .caller).asks scope window)).TellsLibrary scope.discovery ∧
        ¬ (store ((sdkProbe server .callee).asks scope window)).TellsLibrary scope.discovery := by
  rw [temporalityOf_eq_cumulative_iff, ← sdkProbe_found_iff hwindow, ← sdkProbe_found_iff hwindow]
  simp only [Discovery.mem_fetchUnion, sdkProbes, List.exists_mem_cons_iff, List.not_mem_nil,
    false_and, exists_false, or_false, not_or, forall_and, not_exists]

end Group

namespace Cli
variable {context : Context} {request : Request}

/-! ### What a calculation sends -/

/-- The group that a request asks for, once its words have been read. -/
def askedGroup (request : Request) (scope : Scope) (filter : Filter) (role : Role)
    (temporality : Temporality) : Group where
  scope := scope
  options := {
    groupBy := request.groupBy
    filter := withServer filter role request.server
    role := role
    temporality := temporality }

/-- **The words of a request have been read** and its group can be opened: sent
is what choosing the temporality sends, and then at most one query set, built in
the group with that temporality. -/
structure Asks (context : Context) (request : Request) (sent : List QuerySet) (scope : Scope)
    (role : Role) (built : List QuerySet) : Prop where
  limits : scope.discovery = context.settings.discovery
  opens : ∀ options, Action.result (openGroup context options) = .ok ⟨scope, options⟩
  named : role.name = request.role
  sends : sent = Action.sent (chooseTemporality context request) ++ built
  single : built.length ≤ 1
  builds : ∀ set ∈ built, ∃ temporality filter calculation params,
    Action.result (chooseTemporality context request) = .ok temporality ∧
      params.start = context.app.start ∧ params.stop = context.app.stop ∧
      (askedGroup request scope filter role temporality).querySet context.now calculation params =
        .ok set

/-- **What a calculation sends**: nothing, or what choosing the temporality sends
and then what it builds. -/
theorem calculate_asks (context : Context) (request : Request) :
    Action.sent (calculate context request) = [] ∨ ∃ scope role built,
      Asks context request (Action.sent (calculate context request)) scope role built := by
  unfold calculate
  -- reading a word hands over nothing, so the words are passed one by one
  rcases Action.sent_bind_of_silent (Action.sent_check _) _ with h | ⟨calculation, -, h⟩ <;>
    rw [h]
  · exact Or.inl rfl
  rcases Action.sent_bind_of_silent (Action.sent_check _) _ with h | ⟨role, hrole, h⟩ <;> rw [h]
  · exact Or.inl rfl
  rcases Action.sent_bind_of_silent (Action.sent_check _) _ with h | ⟨ranked, -, h⟩ <;> rw [h]
  · exact Or.inl rfl
  rcases Action.sent_bind_of_silent (sent_readFilters _) _ with h | ⟨filter, -, h⟩ <;> rw [h]
  · exact Or.inl rfl
  rcases openGroup_cases context with hclosed | ⟨scope, hdiscovery, hopen⟩
  · exact Or.inl (refuses_of_no_group hclosed _ _).silent
  clear h
  right
  have hrole : role.name = request.role :=
    Role.parse_eq_ok_iff.1 (Action.result_check_eq_ok_iff.1 hrole)
  rw [Action.sent_bind]
  cases hchosen : Action.result (chooseTemporality context request) with
  | error fault => exact ⟨scope, role, [], hdiscovery, hopen, hrole, rfl, Nat.zero_le 1, nofun⟩
  | ok temporality =>
    let params : Params := ⟨context.app.start, context.app.stop, ranked, request.limit⟩
    let group := askedGroup request scope filter role temporality
    have hhandled : (group.handle context.store context.now calculation params).trace.sent =
        (group.querySet context.now calculation params).toOption.toList := Group.handle_sent
    refine ⟨scope, role, (group.querySet context.now calculation params).toOption.toList,
      hdiscovery, hopen, hrole, ?_, ?_, fun set hset => ?_⟩
    · dsimp only
      rw [Action.sent_bind_of_ok (hopen _), sent_openGroup, List.nil_append,
        Action.sent_lift_bind, Action.sent_lift_bind, Action.sent_check, List.append_nil,
        ← hhandled]
      rfl
    · exact Option.length_toList_le
    · have hbuilt : group.querySet context.now calculation params = .ok set :=
        toOption_eq_some_iff.1 (Option.mem_toList.1 hset)
      exact ⟨temporality, filter, calculation, params, hchosen, rfl, rfl, hbuilt⟩

/-! ### How the temporality is chosen -/

section Choice
variable {scope : Scope} (server : String)

/-- **A server is looked for by two probes**, over the window of the request. -/
theorem detect_of_open
    (hopen : ∀ options, Action.result (openGroup context options) = .ok ⟨scope, options⟩) :
    let window := scope.window context.now context.app.start context.app.stop
    let fetched := Discovery.fetchUnion context.store scope window (Group.sdkProbes server)
    Action.sent (detect context server) =
        (Group.sdkProbes server).flatMap (fun probe => probe.sent scope window) ∧
      Action.result (detect context server) = .ok ⟨Group.temporalityOf fetched.value⟩ := by
  intro window fetched
  have hfetched : fetched.trace.sent =
      (Group.sdkProbes server).flatMap fun probe => probe.sent scope window :=
    Discovery.fetchUnion_sent
  unfold detect
  constructor
  · rw [Action.sent_bind_of_ok (hopen _), sent_openGroup, List.nil_append, Action.sent_lift,
      ← hfetched, Group.serverProfile, Run.trace_bind, Trace.sent_append]
    exact List.append_nil _
  · rw [Action.result_bind, hopen]
    rfl

/-- Where a server is named and no temporality, the temporality is what the
probes find out. -/
theorem chooseTemporality_of_server
    (hopen : ∀ options, Action.result (openGroup context options) = .ok ⟨scope, options⟩)
    (hnone : request.temporality = none) (hserver : request.server = some server) :
    let window := scope.window context.now context.app.start context.app.stop
    let fetched := Discovery.fetchUnion context.store scope window (Group.sdkProbes server)
    Action.sent (chooseTemporality context request) =
        (Group.sdkProbes server).flatMap (fun probe => probe.sent scope window) ∧
      Action.result (chooseTemporality context request) =
        .ok (Group.temporalityOf fetched.value) := by
  obtain ⟨hsent, hresult⟩ := detect_of_open server hopen
  unfold chooseTemporality
  rw [hnone, hserver]
  dsimp only
  constructor
  · rw [Action.sent_bind_of_ok hresult, hsent, Action.sent_lift_bind]
    exact List.append_nil _
  · rw [Action.result_bind, hresult]
    rfl

theorem chooseTemporality_of_neither (hnone : request.temporality = none)
    (hserver : request.server = none) :
    Action.sent (chooseTemporality context request) = [] ∧
      Action.result (chooseTemporality context request) = .ok .cumulative := by
  unfold chooseTemporality
  rw [hnone, hserver]
  exact ⟨rfl, rfl⟩

end Choice

/-! ### Which query sets are sent -/

/-- The answer to a probe comes in time, and a row of it names a library. -/
def Context.Tells (context : Context) (set : QuerySet) : Prop :=
  (context.store set).TellsLibrary context.settings.discovery

/-- A reply at once is in time, so a library that its rows name is told. -/
theorem Context.tells_of_names {context : Context} {set : QuerySet} {name : String}
    (hdelay : (context.store set).delay = 0)
    (hnames : ((context.store set).answer.toOption.map fun rows =>
      rows.map fun row => row.get? "sdk_name") = some [some name])
    (hne : name ≠ "") : context.Tells set := by
  obtain ⟨rows, hrows, hrow⟩ := Option.map_eq_some_iff.1 hnames
  have hname : some name ∈ rows.map fun row => row.get? "sdk_name" := by
    rw [hrow]
    exact List.mem_singleton_self _
  obtain ⟨row, hrow, hname⟩ := List.mem_map.1 hname
  refine ⟨fun span _ => ?_, rows, toOption_eq_some_iff.1 hrows, row, hrow, name, hname, hne⟩
  rw [hdelay]
  exact Nat.zero_le _

/-- **The choice of a temporality shows in what is sent**, in each of the three ways
in which it is made. -/
structure DetectionDrives (context : Context) (request : Request) (sent : List QuerySet) :
    Prop where
  /-- A temporality that is told is not looked for, whether a server is named or
  not. -/
  told : ∀ name, request.temporality = some name → sent.length ≤ 1 ∧ ∀ set ∈ sent,
    set.Calculates ∧ ∀ metric tag server, ¬ set.Detects metric tag server
  /-- A calculation about a server comes after two probes for its libraries, and
  reads increases iff neither is told one. -/
  detected : ∀ server, request.temporality = none → request.server = some server →
    ∀ set ∈ sent, set.Calculates → ∃ (caller callee : QuerySet) (role : Role),
      sent = [caller, callee, set] ∧
      caller.Detects "rpc_client_handled_total" "caller_server" server ∧
      callee.Detects "rpc_server_handled_total" "callee_server" server ∧
      role.name = request.role ∧ ∀ query ∈ set.queries,
        ⟨request.role ++ "_server", .eq, [server]⟩ ∈ query.filter.conditions ∧
          (query.StartsWithIncrease ↔ ¬ context.Tells caller ∧ ¬ context.Tells callee)
  /-- Without either, counters are taken to be cumulative. -/
  assumed : request.temporality = none → request.server = none → sent.length ≤ 1 ∧
    ∀ set ∈ sent, set.Calculates ∧ ∀ query ∈ set.queries, query.StartsWithIncrease

namespace Asks
variable {sent : List QuerySet} {scope : Scope} {role : Role} {built : List QuerySet}

theorem calculates (h : Asks context request sent scope role built) :
    ∀ set ∈ built, set.Calculates := by
  intro set hset
  obtain ⟨temporality, filter, calculation, params, -, -, -, hbuilt⟩ := h.builds set hset
  exact ⟨_, _, _, _, hbuilt⟩

/-- Only what is built is sent if choosing the temporality sends nothing. -/
theorem sent_eq_built (h : Asks context request sent scope role built)
    (hsilent : Action.sent (chooseTemporality context request) = []) : sent = built := by
  rw [h.sends, hsilent, List.nil_append]

/-- Of what is sent, a query set that calculates has been built, and nothing else
has. -/
theorem built_of_calculates {server : String} {window : Window} {set : QuerySet}
    (h : Asks context request sent scope role built)
    (hprobes : Action.sent (chooseTemporality context request) =
      (Group.sdkProbes server).flatMap fun probe => probe.sent scope window)
    (hset : set ∈ sent) (hcalculates : set.Calculates) : built = [set] := by
  have hmem : set ∈ built := by
    rw [h.sends, hprobes, List.mem_append] at hset
    refine hset.resolve_left fun hprobe => ?_
    obtain ⟨metric, tag, hdetects⟩ := Group.detects_of_mem_sent hprobe
    exact hcalculates.not_detects hdetects
  obtain ⟨only, hone⟩ :=
    List.length_eq_one_iff.1 (Nat.le_antisymm h.single (List.length_pos_of_mem hmem))
  rw [hone] at hmem ⊢
  rw [List.mem_singleton.1 hmem]

/-- **The temporality is chosen in one of three ways.** -/
theorem drives (h : Asks context request sent scope role built) :
    DetectionDrives context request sent := by
  constructor
  case told =>
    intro name htold
    rw [h.sent_eq_built (sent_chooseTemporality_of_told htold)]
    refine ⟨h.single, fun set hset => ⟨h.calculates set hset, ?_⟩⟩
    exact fun _ _ _ => (h.calculates set hset).not_detects
  case assumed =>
    intro hnone hserver
    obtain ⟨hsilent, hchosen⟩ := chooseTemporality_of_neither hnone hserver
    rw [h.sent_eq_built hsilent]
    refine ⟨h.single, fun set hset => ⟨h.calculates set hset, fun query hquery => ?_⟩⟩
    obtain ⟨temporality, filter, calculation, params, hresult, -, -, hbuilt⟩ := h.builds set hset
    rw [Group.startsWithIncrease_iff hbuilt hquery]
    exact (Except.ok.inj (hchosen.symm.trans hresult)).symm
  case detected =>
    intro server hnone hserver set hset hcalculates
    obtain ⟨hprobes, hchosen⟩ := chooseTemporality_of_server server h.opens hnone hserver
    have hbuilt : built = [set] := h.built_of_calculates hprobes hset hcalculates
    obtain ⟨temporality, filter, calculation, params, hresult, hstart, hstop, hquerySet⟩ :=
      h.builds set (hbuilt ▸ List.mem_singleton_self set)
    -- the calculation has a window, which is that of the probes
    let window := scope.window context.now context.app.start context.app.stop
    have hwindow : 0 ≤ window.start ∧ window.start ≤ window.stop := by
      have hparams := Group.window_of_querySet hquerySet
      rw [hstart, hstop] at hparams
      exact hparams
    refine ⟨(Group.sdkProbe server .caller).asks scope window,
      (Group.sdkProbe server .callee).asks scope window, role, ?_, Group.sdkProbe_detects .caller,
      Group.sdkProbe_detects .callee, h.named, fun query hquery => ⟨?_, ?_⟩⟩
    · rw [h.sends, hprobes, hbuilt, Group.sent_sdkProbes hwindow]
      rfl
    · refine Group.mem_conditions_of_mem_queries hquerySet hquery ?_
      show _ ∈ (withServer filter role request.server).conditions
      rw [hserver, ← h.named, ← Group.serverTag_eq]
      exact List.mem_append_right _ (List.mem_singleton_self _)
    · rw [Group.startsWithIncrease_iff hquerySet hquery]
      show temporality = .cumulative ↔ _
      rw [← Except.ok.inj (hchosen.symm.trans hresult), Group.temporalityOf_fetched hwindow,
        h.limits]
      rfl

end Asks

theorem calculate_drives (context : Context) (request : Request) :
    DetectionDrives context request (Action.sent (calculate context request)) := by
  rcases calculate_asks context request with hsilent | ⟨scope, role, built, h⟩
  · rw [hsilent]
    exact ⟨fun _ _ => ⟨Nat.zero_le 1, nofun⟩, fun _ _ _ => nofun,
      fun _ _ => ⟨Nat.zero_le 1, nofun⟩⟩
  · exact h.drives

/-- Writing the result of a calculation sends nothing more. -/
theorem sent_perform_calculate (context : Context) (format : OutputFormat) (request : Request) :
    Action.sent (perform context format (.calculate request)) =
      Action.sent (calculate context request) := by
  unfold perform
  rw [Action.sent_bind]
  cases Action.result (calculate context request) <;> exact List.append_nil _

end Cli
end RpcMetrics
