import Mathlib
import RpcMetrics.Proofs.CommandActions
import RpcMetrics.Proofs.VocabularyNames

/-! # What a command refuses

A calculation is asked for in words, any of which may be wrong (`Misworded`).
The words are read one after the other, and in the middle of it, where a server
is named without a temporality, two probes are sent.  So it has to be shown of
every wrong word that it is met before: as a word that is read before
(`readFilters_refuses`), or in the group through which the probes themselves are
sent (`openGroup_refuses`).

**A wrong word is refused** (`run_refuses`), whatever the other words are.
-/
namespace RpcMetrics

/-! ### Conditions -/

namespace Cli

/-- What stands before the first equals sign is the key. -/
theorem readFilter_split {key value : String} (h : '=' ∉ key.toList) :
    readFilter (key ++ "=" ++ value) = .ok (key, value) := by
  have hkey : ∀ c ∈ key.toList, (c != '=') = true := by
    rintro c hc
    exact bne_iff_ne.2 fun heq => h (heq ▸ hc)
  have htext : (key ++ "=" ++ value).toList = key.toList ++ '=' :: value.toList := by simp
  rw [readFilter, htext, List.dropWhile_append_of_pos hkey, List.takeWhile_append_of_pos hkey]
  simp

theorem readFilter_of_unsigned {spec : String} (h : '=' ∉ spec.toList) :
    readFilter spec = .error (.malformedFilter spec) := by
  have hdrop : spec.toList.dropWhile (· != '=') = [] := by
    rw [List.dropWhile_eq_nil_iff]
    rintro c hc
    exact bne_iff_ne.2 fun heq => h (heq ▸ hc)
  rw [readFilter, hdrop]

/-- **A text that is no condition**: it has no equals sign, or what stands on the
two sides of the first one does not make a condition. -/
inductive NoCondition (spec : String) : Prop
  | unsigned (h : '=' ∉ spec.toList)
  | rejected {key value : String} {failure : Failure} (split : spec = key ++ "=" ++ value)
      (first : '=' ∉ key.toList) (h : Filter.ofSpecs [(key, .string value)] = .error failure)

end Cli

namespace Filter

/-- A condition on a text is rejected for its key only. -/
theorem readSpec_string (key value : String) : readSpec (key, .string value) =
    (readKey key).map fun read => ⟨read.1, read.2, [value]⟩ := by
  unfold readSpec
  cases readKey key <;> rfl

theorem readKey_of_rejected {key value : String} {failure : Failure}
    (h : ofSpecs [(key, .string value)] = .error failure) : readKey key = .error failure := by
  unfold ofSpecs at h
  rw [List.mapM_cons, List.mapM_nil, readSpec_string] at h
  cases hkey : readKey key with
  | error other =>
    rw [hkey] at h
    exact congrArg _ (Except.error.inj h)
  | ok read =>
    rw [hkey] at h
    cases h

/-- Conditions are rejected together if one key is rejected. -/
theorem ofSpecs_of_rejected {specs : List Spec} {key value : String} {failure : Failure}
    (hspec : (key, .string value) ∈ specs) (hkey : readKey key = .error failure) :
    ∃ failure, ofSpecs specs = .error failure := by
  cases hall : ofSpecs specs with
  | error failure => exact ⟨failure, rfl⟩
  | ok filter =>
    obtain ⟨conditions, hconditions, -⟩ := bind_eq_ok_iff.1 hall
    obtain ⟨condition, -, hread⟩ := exists_of_mapM_eq_ok hconditions _ hspec
    rw [readSpec_string, hkey] at hread
    cases hread

end Filter

namespace Cli

theorem sent_readFilters (specs : List String) : Action.sent (readFilters specs) = [] := by
  unfold readFilters
  cases specs.mapM readFilter with
  | error fault => rfl
  | ok entries => exact Action.sent_check _

/-- **Conditions are refused if one of them is none.**  Another with the same key
does not make up for it. -/
theorem readFilters_refuses {specs : List String} {spec : String} (hspec : spec ∈ specs)
    (h : NoCondition spec) : Refuses (readFilters specs) := by
  unfold readFilters
  cases hentries : specs.mapM readFilter with
  | error fault => exact ⟨⟨fault, rfl⟩, rfl⟩
  | ok entries =>
    obtain ⟨entry, hentry, hread⟩ := exists_of_mapM_eq_ok hentries spec hspec
    cases h with
    | unsigned hunsigned =>
      rw [readFilter_of_unsigned hunsigned] at hread
      cases hread
    | @rejected key value failure hspec hfirst hrejected =>
      rw [hspec, readFilter_split hfirst] at hread
      obtain rfl := Except.ok.inj hread
      -- the value under the key may be another one, but the key is there
      have hfiled : ((Data.Dictionary.ofList entries).get? key).isSome := by
        rw [Data.Dictionary.get?_ofList, List.lookup_isSome_iff]
        exact ⟨(key, value), List.mem_reverse.2 hentry, beq_self_eq_true key⟩
      obtain ⟨last, hlast⟩ := Option.isSome_iff_exists.1 hfiled
      have hlisted : (key, Json.string last) ∈ (Data.Dictionary.ofList entries).entries.map
          fun entry => (entry.1, Json.string entry.2) :=
        List.mem_map.2 ⟨(key, last), Data.Dictionary.mem_entries_of_get? hlast, rfl⟩
      have hkey : Filter.readKey key = .error failure := Filter.readKey_of_rejected hrejected
      obtain ⟨other, hother⟩ := Filter.ofSpecs_of_rejected hlisted hkey
      exact refuses_check hother

/-! ### Words -/

/-- **A request is misworded**: one of its words names nothing, or is no
condition. -/
inductive Misworded (app : Application) (request : Request) : Prop
  | calculation (unknown : ∀ c : Calculation, c.name ≠ request.calculation)
  | role (unknown : ∀ r : Role, r.name ≠ request.role)
  | ranked {name : String} (given : request.ranked = some name)
      (unknown : ∀ c : Calculation, c.name ≠ name)
  | temporality {name : String} (given : request.temporality = some name)
      (unknown : ∀ t : Temporality, t.name ≠ name)
  | filter {spec : String} (given : spec ∈ request.filters) (none : NoCondition spec)
  | group (unknown : ∀ k : GroupKind, k.name ≠ app.group)
  | app (unnamed : app.name = "")

variable {context : Context} {request : Request}

/-- **There is no group** of a kind that there is not, or of an application
without a name. -/
theorem openGroup_refuses (options : GroupOptions)
    (h : (∀ k : GroupKind, k.name ≠ context.app.group) ∨ context.app.name = "") :
    Refuses (openGroup context options) := by
  rcases h with hkind | happ
  · exact openGroup_of_no_kind options (GroupKind.parse_of_unknown hkind)
  · have htable : context.settings.table.resolve context.app.business context.app.name =
        .error (.invalidArgument .emptyApp) := by
      rw [happ]
      rfl
    exact openGroup_of_no_table options htable

/-- Nothing is asked where the temporality is told. -/
theorem sent_chooseTemporality_of_told {name : String} (h : request.temporality = some name) :
    Action.sent (chooseTemporality context request) = [] := by
  unfold chooseTemporality
  rw [h]
  exact Action.sent_check _

/-- **Without a group nothing is asked**: the probes that find out a temporality
are sent through a group as well. -/
theorem refuses_of_no_group {α : Type} (hgroup : ∀ options, Refuses (openGroup context options))
    (options : Temporality → GroupOptions) (next : Temporality → Group → Action α) :
    Refuses (chooseTemporality context request >>= fun temporality =>
      openGroup context (options temporality) >>= next temporality) := by
  refine refuses_bind ?_ fun temporality _ => (hgroup _).bind _
  cases htold : request.temporality with
  | some name => exact sent_chooseTemporality_of_told htold
  | none =>
    unfold chooseTemporality
    rw [htold]
    cases request.server with
    | none => rfl
    | some server =>
      have hdetect : Refuses (detect context server) := (hgroup {}).bind _
      exact (hdetect.bind _).silent

/-- **A misworded request is refused**, whichever word is wrong and whatever the
others are. -/
theorem calculate_refuses (h : Misworded context.app request) :
    Refuses (calculate context request) := by
  unfold calculate
  -- the words are read in turn, and each that has been read is right
  refine refuses_bind (Action.sent_check _) fun calculation hcalculation => ?_
  refine refuses_bind (Action.sent_check _) fun role hrole => ?_
  refine refuses_bind (Action.sent_check _) fun ranked hranked => ?_
  refine refuses_bind (sent_readFilters _) fun filter hfilter => ?_
  rw [Action.result_check_eq_ok_iff] at hcalculation hrole hranked
  cases h with
  | calculation hunknown => exact absurd (Calculation.parse_eq_ok_iff.1 hcalculation) (hunknown _)
  | role hunknown => exact absurd (Role.parse_eq_ok_iff.1 hrole) (hunknown _)
  | ranked hgiven hunknown =>
    rw [hgiven] at hranked
    rw [Option.mapM_some, Calculation.parse_of_unknown hunknown] at hranked
    cases hranked
  | filter hgiven hnone =>
    obtain ⟨⟨fault, hfault⟩, -⟩ := readFilters_refuses hgiven hnone
    rw [hfault] at hfilter
    cases hfilter
  | temporality hgiven hunknown =>
    have hchoose : Refuses (chooseTemporality context request) := by
      unfold chooseTemporality
      rw [hgiven]
      exact refuses_check (Temporality.parse_of_unknown hunknown)
    exact hchoose.bind _
  | group hunknown =>
    exact refuses_of_no_group (fun options => openGroup_refuses options (Or.inl hunknown)) _ _
  | app hunnamed =>
    exact refuses_of_no_group (fun options => openGroup_refuses options (Or.inr hunnamed)) _ _

/-! ### Runs of the program -/

/-- **A wrong word never reaches the store.**  Whatever else the command line,
the settings and the store are like, a calculation that is asked for in a wrong
word ends in failure, and the store is handed nothing, not even the probes for a
temporality. -/
theorem run_refuses (machine : Machine) {args : List String} {arguments : Arguments}
    {request : Request}
    (hread : Arguments.read (machine.environment.get? configVariable) args = .ok arguments)
    (hcommand : arguments.command = .calculate request)
    (h : Misworded arguments.app request) :
    (run machine args).trace.sent = [] ∧
      (∃ fault, (run machine args).value.result = .error fault) ∧
      (run machine args).value.exitCode ≠ 0 := by
  have hends : (run machine args).trace.sent = [] ∧
      ∃ fault, (run machine args).value.result = .error fault := by
    rw [run_of_read hread]
    cases hload : Settings.load (configFile machine arguments.config) machine.variables with
    | error failure =>
      obtain ⟨hsent, hresult⟩ := runArguments_of_unloaded hload
      exact ⟨hsent, _, hresult⟩
    | ok settings =>
      obtain ⟨hsent, hresult⟩ := runArguments_of_loaded hload
      rw [hsent, hresult, hcommand]
      have hrefuses : Refuses (calculate ⟨settings, Http.store settings.store machine.wire,
        machine.now, arguments.app⟩ request) := calculate_refuses h
      obtain ⟨hfails, hsilent⟩ := hrefuses.bind fun rows =>
        pure (rowsOutput rows arguments.format)
      exact ⟨hsilent, hfails⟩
  obtain ⟨hsent, fault, hfault⟩ := hends
  refine ⟨hsent, ⟨fault, hfault⟩, ?_⟩
  unfold Outcome.exitCode
  rw [hfault]
  cases fault <;> simp [Fault.exitCode]

/-- A server is named, so a temporality would be found out; but one of the two
conditions ends in no operator.  With the operator put right, two probes and the
calculation are sent. -/
theorem run_refuses_operator :
    let machine : Machine := ⟨.empty, none, fun _ => none, fun _ => none, 1700000000⟩
    let args (condition : String) := ["calc", "--biz-id", "2", "--app", "demo",
      "--calculation", "success_rate", "--server", "svcA", "--filter", condition,
      "--filter", "zone=y"]
    (∃ arguments request, Arguments.read none (args "region__is=x") = .ok arguments ∧
      arguments.command = .calculate request ∧ request.server = some "svcA" ∧
      request.temporality = none ∧ Misworded arguments.app request ∧
      (run machine (args "region__is=x")).trace.sent = [] ∧
      (run machine (args "region__is=x")).value.exitCode ≠ 0) ∧
    (run machine (args "region__neq=x")).trace.sent.length = 3 := by
  intro machine args
  refine ⟨?_, by decide +kernel⟩
  let app : Application := ⟨2, "demo", "trpc", none, none⟩
  let request : Request := {
    calculation := "success_rate", role := "caller", temporality := none, server := some "svcA",
    ranked := none, limit := none, groupBy := [], filters := ["region__is=x", "zone=y"] }
  have hread : Arguments.read none (args "region__is=x") =
      .ok ⟨none, false, .text, app, .calculate request⟩ := by
    cbv
  have hrejected : Filter.ofSpecs [("region__is", .string "x")] =
      .error (.invalidArgument (.unknownOperator "region__is")) := by
    cbv
  have hnone : NoCondition "region__is=x" := .rejected rfl (by decide) hrejected
  have hmisworded : Misworded app request := .filter (List.mem_cons_self ..) hnone
  obtain ⟨hsent, -, hexit⟩ := run_refuses machine hread rfl hmisworded
  exact ⟨_, _, hread, rfl, rfl, rfl, hmisworded, hsent, hexit⟩

end Cli
end RpcMetrics
