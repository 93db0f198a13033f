import RpcMetrics.Catalog
import RpcMetrics.Log.Record
import RpcMetrics.Query.Row
import RpcMetrics.Query.Model

/-!
# Runs

A run is a result together with what was done on the way: the query sets handed to the store, the
counters that moved and the records that were logged, each in order.  Runs in sequence do what the
first does and then what the second does, so that the effects of a run can be read off its parts.
-/
namespace RpcMetrics

/-- A counter that moves by one. -/
inductive Count where
  /-- A query set was built to run this calculation. -/
  | query (calculation : Calculation)
  /-- A probe of this metric failed. -/
  | failedProbe (metric : String)
  deriving DecidableEq, Repr

/-- The counter with its label. -/
def Count.series : Count → String
  | query calculation =>
    "apm_metrics_queries_total\x7bcalculation=" ++ calculation.name ++ "\x7d"
  | failedProbe metric =>
    "apm_metrics_option_probe_failures_total\x7bmetric_field=" ++ metric ++ "\x7d"

/-- What was done on the way. -/
structure Trace where
  /-- The query sets handed to the store. -/
  sent : List QuerySet
  counted : List Count
  logged : List Log.Record

namespace Trace

/-- Nothing was done. -/
def empty : Trace := ⟨[], [], []⟩

/-- One thing after the other. -/
def append (first second : Trace) : Trace :=
  ⟨first.sent ++ second.sent, first.counted ++ second.counted, first.logged ++ second.logged⟩

instance : Append Trace := ⟨append⟩

@[simp] theorem sent_empty : empty.sent = [] := rfl

@[simp] theorem counted_empty : empty.counted = [] := rfl

@[simp] theorem logged_empty : empty.logged = [] := rfl

@[simp] theorem sent_append (first second : Trace) :
    (first ++ second).sent = first.sent ++ second.sent := rfl

@[simp] theorem counted_append (first second : Trace) :
    (first ++ second).counted = first.counted ++ second.counted := rfl

@[simp] theorem logged_append (first second : Trace) :
    (first ++ second).logged = first.logged ++ second.logged := rfl

theorem append_empty (trace : Trace) : trace ++ empty = trace := by
  show append _ _ = _
  simp only [append, empty, List.append_nil]

theorem append_assoc (first second third : Trace) :
    first ++ second ++ third = first ++ (second ++ third) := by
  show append (append _ _) _ = append _ (append _ _)
  simp only [append, List.append_assoc]

end Trace

/-- A result with what was done on the way. -/
structure Run (α : Type) where
  value : α
  trace : Trace

namespace Run

instance : Monad Run where
  pure value := ⟨value, .empty⟩
  bind first next := ⟨(next first.value).value, first.trace ++ (next first.value).trace⟩

/-- Counts. -/
def count (counter : Count) : Run Unit := ⟨(), ⟨[], [counter], []⟩⟩

/-- Logs an event. -/
def log (event : Log.Event) : Run Unit := ⟨(), ⟨[], [], [.reported event []]⟩⟩

/-- A run in a span, which is logged first. -/
def inSpan {α : Type} (span : Log.Span) (run : Run α) : Run α :=
  ⟨run.value, { run.trace with
    logged := .opened span :: run.trace.logged.map (Log.Record.within span) }⟩

@[simp] theorem value_pure {α : Type} (a : α) : (pure a : Run α).value = a := rfl

@[simp] theorem trace_pure {α : Type} (a : α) : (pure a : Run α).trace = .empty := rfl

@[simp] theorem value_bind {α β : Type} (first : Run α) (next : α → Run β) :
    (first >>= next).value = (next first.value).value := rfl

@[simp] theorem trace_bind {α β : Type} (first : Run α) (next : α → Run β) :
    (first >>= next).trace = first.trace ++ (next first.value).trace := rfl

@[simp] theorem value_map {α β : Type} (f : α → β) (run : Run α) :
    (f <$> run).value = f run.value := rfl

@[simp] theorem trace_map {α β : Type} (f : α → β) (run : Run α) :
    (f <$> run).trace = run.trace := Trace.append_empty run.trace

theorem trace_bind_pure {α β : Type} (run : Run α) (f : α → β) :
    (run >>= fun a => pure (f a)).trace = run.trace := Trace.append_empty run.trace

instance : LawfulMonad Run := LawfulMonad.mk' Run
  (fun {_} run => congrArg (Run.mk run.value) (Trace.append_empty run.trace))
  (fun _ _ => rfl)
  (fun {_ _ _} _ _ _ => congrArg (Run.mk _) (Trace.append_assoc ..))

@[simp] theorem trace_count (counter : Count) : (count counter).trace = ⟨[], [counter], []⟩ := rfl

@[simp] theorem trace_log (event : Log.Event) :
    (log event).trace = ⟨[], [], [.reported event []]⟩ := rfl

@[simp] theorem value_inSpan {α : Type} (span : Log.Span) (run : Run α) :
    (inSpan span run).value = run.value := rfl

@[simp] theorem sent_inSpan {α : Type} (span : Log.Span) (run : Run α) :
    (inSpan span run).trace.sent = run.trace.sent := rfl

@[simp] theorem counted_inSpan {α : Type} (span : Log.Span) (run : Run α) :
    (inSpan span run).trace.counted = run.trace.counted := rfl

@[simp] theorem logged_inSpan {α : Type} (span : Log.Span) (run : Run α) :
    (inSpan span run).trace.logged
      = .opened span :: run.trace.logged.map (Log.Record.within span) := rfl

/-! ### Runs one after the other -/

variable {α β : Type} (f : α → Run β) (list : List α)

theorem value_mapM : (list.mapM f).value = list.map fun a => (f a).value := by
  induction list with
  | nil => rfl
  | cons a list ih =>
    rw [List.mapM_cons, List.map_cons, ← ih]
    rfl

theorem sent_mapM : (list.mapM f).trace.sent = list.flatMap fun a => (f a).trace.sent := by
  induction list with
  | nil => rfl
  | cons a list ih =>
    rw [List.mapM_cons, List.flatMap_cons, ← ih]
    simp

theorem counted_mapM :
    (list.mapM f).trace.counted = list.flatMap fun a => (f a).trace.counted := by
  induction list with
  | nil => rfl
  | cons a list ih =>
    rw [List.mapM_cons, List.flatMap_cons, ← ih]
    simp

end Run

/-! ### The store -/

/-- What the store does with a query set. -/
structure Reply where
  answer : Except Failure (List Row)
  /-- How long the answer takes, in nanoseconds. -/
  delay : Nat := 0
  logged : List Log.Event := []

/-- A store answers every query set. -/
abbrev Store := QuerySet → Reply

/-- Hands a query set to the store. -/
def Store.ask (store : Store) (set : QuerySet) : Run Reply :=
  ⟨store set, ⟨[set], [], (store set).logged.map fun event => .reported event []⟩⟩

@[simp] theorem Store.value_ask (store : Store) (set : QuerySet) :
    (store.ask set).value = store set := rfl

@[simp] theorem Store.sent_ask (store : Store) (set : QuerySet) :
    (store.ask set).trace.sent = [set] := rfl

@[simp] theorem Store.counted_ask (store : Store) (set : QuerySet) :
    (store.ask set).trace.counted = [] := rfl

end RpcMetrics
