import Mathlib
import RpcMetrics.Cli.Program
import RpcMetrics.Proofs.DraftChecks

/-! # What actions send

A command is an action: it goes on until a fault, and what it has handed the
store by then stays handed over.  What an action sends is what its parts send, as
far as they are reached (`Action.sent_bind`).

An action **refuses** (`Refuses`) if it ends in a fault and has handed over
nothing.  It does so if its first part does (`Refuses.bind`), or if a later one
does and those before hand over nothing (`refuses_bind`).

Opening a group hands over nothing, and whether it can be opened does not depend
on its options (`openGroup_cases`).  **A run of the program sends what its command
sends**, once the settings are loaded (`runArguments_of_loaded`).
-/
namespace RpcMetrics

/-! ### Actions -/

namespace Cli
namespace Action
variable {α β : Type}

/-- What an action hands the store. -/
def sent (action : Action α) : List QuerySet := action.run.trace.sent

/-- What an action comes to. -/
def result (action : Action α) : Except Fault α := action.run.value

/-- One action after the other. -/
theorem result_bind (first : Action α) (next : α → Action β) :
    result (first >>= next) = result first >>= fun a => result (next a) := by
  unfold result
  rw [ExceptT.run_bind, Run.value_bind]
  cases first.run.value <;> rfl

/-- The second action adds to what has been handed over, if it is reached. -/
theorem sent_bind (first : Action α) (next : α → Action β) :
    sent (first >>= next) = sent first ++
      match result first with
      | .ok a => sent (next a)
      | .error _ => [] := by
  unfold sent result
  rw [ExceptT.run_bind, Run.trace_bind, Trace.sent_append]
  cases first.run.value <;> rfl

theorem sent_bind_of_ok {first : Action α} {next : α → Action β} {a : α}
    (h : result first = .ok a) : sent (first >>= next) = sent first ++ sent (next a) := by
  rw [sent_bind, h]

/-- After an action that hands over nothing, only the next one counts. -/
theorem sent_bind_of_silent {first : Action α} (hsilent : sent first = [])
    (next : α → Action β) : sent (first >>= next) = [] ∨
      ∃ a, result first = .ok a ∧ sent (first >>= next) = sent (next a) := by
  cases hresult : result first with
  | error fault =>
    left
    rw [sent_bind, hresult, hsilent]
    rfl
  | ok a =>
    right
    exact ⟨a, rfl, by rw [sent_bind_of_ok hresult, hsilent, List.nil_append]⟩

/-- A run is an action without a fault. -/
theorem sent_lift (run : Run α) : sent (liftM run) = run.trace.sent :=
  congrArg Trace.sent (Run.trace_map Except.ok run)

theorem sent_lift_bind (run : Run α) (next : α → Action β) :
    sent ((liftM run : Action α) >>= next) = run.trace.sent ++ sent (next run.value) := by
  have hresult : result (liftM run : Action α) = .ok run.value := rfl
  rw [sent_bind_of_ok hresult, sent_lift]

@[simp] theorem sent_check (checked : Except Failure α) : sent (check checked) = [] := by
  cases checked <;> rfl

theorem result_check (checked : Except Failure α) :
    result (check checked) = checked.mapError .failed := by
  cases checked <;> rfl

theorem result_check_eq_ok_iff {checked : Except Failure α} {a : α} :
    result (check checked) = .ok a ↔ checked = .ok a := by
  rw [result_check]
  cases checked <;> simp [Except.mapError]

end Action

/-- **An action refuses**: it ends in a fault, and has handed the store nothing. -/
structure Refuses {α : Type} (action : Action α) : Prop where
  fails : ∃ fault, Action.result action = .error fault
  silent : Action.sent action = []

section Refuses
variable {α β : Type}

/-- Nothing comes after a refusal. -/
theorem Refuses.bind {first : Action α} (h : Refuses first) (next : α → Action β) :
    Refuses (first >>= next) := by
  obtain ⟨⟨fault, hfault⟩, hsilent⟩ := h
  constructor
  · exact ⟨fault, by rw [Action.result_bind, hfault]; rfl⟩
  · rw [Action.sent_bind, hfault, hsilent]
    rfl

/-- A refusal may come after an action that hands over nothing. -/
theorem refuses_bind {first : Action α} {next : α → Action β} (hsilent : Action.sent first = [])
    (h : ∀ a, Action.result first = .ok a → Refuses (next a)) : Refuses (first >>= next) := by
  cases hresult : Action.result first with
  | error fault =>
    have hfirst : Refuses first := ⟨⟨fault, hresult⟩, hsilent⟩
    exact hfirst.bind next
  | ok a =>
    obtain ⟨⟨fault, hfault⟩, hnext⟩ := h a hresult
    constructor
    · exact ⟨fault, by rw [Action.result_bind, hresult]; exact hfault⟩
    · rw [Action.sent_bind_of_ok hresult, hsilent, hnext]
      rfl

theorem refuses_check {checked : Except Failure α} {failure : Failure}
    (h : checked = .error failure) : Refuses (check checked) := by
  rw [h]
  exact ⟨⟨_, rfl⟩, rfl⟩

end Refuses

/-! ### Groups -/

section Groups
variable {context : Context} (options : GroupOptions)

/-- The table of an application that has one. -/
theorem openScope_of_ok {table : String}
    (h : context.settings.table.resolve context.app.business context.app.name = .ok table) :
    Action.sent (openScope context) = [] ∧ Action.result (openScope context) =
      .ok ⟨table, context.settings.query, context.settings.discovery⟩ := by
  simp only [openScope, h]
  -- an override is logged, which makes no difference
  split
  · exact ⟨rfl, rfl⟩
  · exact ⟨rfl, rfl⟩

theorem openScope_of_error {failure : Failure}
    (h : context.settings.table.resolve context.app.business context.app.name =
      .error failure) : Refuses (openScope context) := by
  simp only [openScope, h]
  exact ⟨⟨_, rfl⟩, rfl⟩

theorem sent_openScope : Action.sent (openScope context) = [] := by
  cases h : context.settings.table.resolve context.app.business context.app.name with
  | error failure => exact (openScope_of_error h).silent
  | ok table => exact (openScope_of_ok h).1

/-- A group is opened by finding its table. -/
theorem openGroup_eq (context : Context) : openGroup context options =
    (check (GroupKind.parse context.app.group) >>= fun _ => openScope context >>= fun scope =>
      pure ⟨scope, options⟩) := by
  unfold openGroup
  congr 1

/-- Nothing is handed over to open a group. -/
@[simp] theorem sent_openGroup : Action.sent (openGroup context options) = [] := by
  rw [openGroup_eq, Action.sent_bind, Action.sent_check]
  cases Action.result (check (GroupKind.parse context.app.group)) with
  | error fault => rfl
  | ok kind =>
    dsimp only
    rw [Action.sent_bind, sent_openScope]
    cases Action.result (openScope context) <;> rfl

theorem openGroup_of_no_kind {failure : Failure}
    (h : GroupKind.parse context.app.group = .error failure) :
    Refuses (openGroup context options) := by
  rw [openGroup_eq]
  exact (refuses_check h).bind _

theorem openGroup_of_no_table {failure : Failure}
    (h : context.settings.table.resolve context.app.business context.app.name =
      .error failure) : Refuses (openGroup context options) := by
  rw [openGroup_eq]
  exact refuses_bind (Action.sent_check _) fun _ _ => (openScope_of_error h).bind _

/-- A group can be opened whatever its options are, or never. -/
theorem openGroup_cases (context : Context) : (∀ options, Refuses (openGroup context options)) ∨
    ∃ scope : Scope, scope.discovery = context.settings.discovery ∧
      ∀ options, Action.result (openGroup context options) = .ok ⟨scope, options⟩ := by
  cases hkind : GroupKind.parse context.app.group with
  | error failure => exact Or.inl fun options => openGroup_of_no_kind options hkind
  | ok kind =>
    cases htable : context.settings.table.resolve context.app.business context.app.name with
    | error failure => exact Or.inl fun options => openGroup_of_no_table options htable
    | ok table =>
      refine Or.inr ⟨⟨table, context.settings.query, context.settings.discovery⟩, rfl,
        fun options => ?_⟩
      rw [openGroup_eq, Action.result_bind, Action.result_check_eq_ok_iff.2 hkind]
      show Action.result (openScope context >>= _) = _
      rw [Action.result_bind, (openScope_of_ok htable).2]
      rfl

end Groups

/-! ### Runs of the program -/

theorem run_of_read {machine : Machine} {args : List String} {arguments : Arguments}
    (h : Arguments.read (machine.environment.get? configVariable) args = .ok arguments) :
    run machine args = runArguments machine arguments := by
  unfold run
  rw [h]

/-- A run whose settings are loaded does what its command does, with the store
behind the wire. -/
theorem runArguments_of_loaded {machine : Machine} {arguments : Arguments} {settings : Settings}
    (h : Settings.load (configFile machine arguments.config) machine.variables = .ok settings) :
    let performed := perform ⟨settings, Http.store settings.store machine.wire, machine.now,
      arguments.app⟩ arguments.format arguments.command
    (runArguments machine arguments).trace.sent = Action.sent performed ∧
      (runArguments machine arguments).value.result = Action.result performed := by
  intro performed
  simp only [runArguments, h]
  exact ⟨List.append_nil _, rfl⟩

/-- A run whose settings cannot be loaded asks nothing. -/
theorem runArguments_of_unloaded {machine : Machine} {arguments : Arguments} {failure : Failure}
    (h : Settings.load (configFile machine arguments.config) machine.variables =
      .error failure) :
    (runArguments machine arguments).trace.sent = [] ∧
      (runArguments machine arguments).value.result = .error (.unconfigured failure) := by
  simp only [runArguments, h]
  exact ⟨rfl, rfl⟩

end Cli
end RpcMetrics
