import RpcMetrics.Proofs.CalculationParts
import RpcMetrics.Proofs.VocabularyNames

/-! # What running a calculation does

A calculation can fail at three points: its name may be none, its query set may
be refused, and the store may fail.  Up to the second nothing has happened
(`Run.Idle`); after it exactly two things have, whatever the store replies: the
store has been handed the query set and the calculation has been counted.

The steps are taken one by one (`handle_of_refused`, `handle_of_built`), and
**what a name comes to** (`handleNamed_effects`) is read off them.  Building the
query set without running it gives the very set that is handed over.
-/
namespace RpcMetrics

/-- Neither has the store been asked nor has a counter moved. -/
structure Run.Idle {α : Type} (run : Run α) : Prop where
  sent : run.trace.sent = []
  counted : run.trace.counted = []

/-- The store has been asked for one query set, on behalf of a calculation, and
the result is its answer. -/
structure Run.Asks (run : Run (Except Failure (List Row))) (store : Store)
    (calculation : Calculation) (set : QuerySet) : Prop where
  sent : run.trace.sent = [set]
  counted : run.trace.counted = [.query calculation]
  answered : run.value = (store set).answer

namespace Group
variable {group : Group} {store : Store} {now : Int64} {calculation : Calculation}
variable {params : Params}

/-- A query set that is refused leaves nothing behind. -/
theorem handle_of_refused {failure : Failure}
    (h : group.querySet now calculation params = .error failure) :
    (group.handle store now calculation params).value = .error failure ∧
      (group.handle store now calculation params).Idle := by
  unfold handle
  rw [h]
  exact ⟨rfl, rfl, rfl⟩

/-- **A query set that is built is handed to the store**, and counted before the
answer is known. -/
theorem handle_of_built {set : QuerySet}
    (h : group.querySet now calculation params = .ok set) :
    (group.handle store now calculation params).Asks store calculation set := by
  unfold handle
  rw [h]
  cases hanswer : (store set).answer with
  | error failure =>
    constructor <;> simp [hanswer]
  | ok rows =>
    constructor <;> simp [hanswer]

/-- What is handed over is the query set, if there is one. -/
theorem handle_sent : (group.handle store now calculation params).trace.sent =
    (group.querySet now calculation params).toOption.toList := by
  cases h : group.querySet now calculation params with
  | error failure => exact (handle_of_refused h).2.sent
  | ok set => exact (handle_of_built h).sent

/-- **What the name of a calculation comes to.**  A text that names none, and a
calculation whose query set is refused, fail without an effect.  Otherwise the
store receives the query set and nothing else, the calculation that was asked
for is counted, under its own name and once, and the store's answer is given as
it is, be it rows or a failure. -/
theorem handleNamed_effects (group : Group) (store : Store) (now : Int64) (name : String)
    (params : Params) :
    let run := group.handleNamed store now name params
    ((∀ c : Calculation, c.name ≠ name) →
      run.value = .error (.invalidArgument (.unknownCalculation name)) ∧ run.Idle) ∧
    ∀ c : Calculation, c.name = name →
      (∀ failure, group.querySet now c params = .error failure →
        run.value = .error failure ∧ run.Idle) ∧
      ∀ set, group.querySet now c params = .ok set →
        run.Asks store c set ∧
          run.trace.counted.map Count.series =
            ["apm_metrics_queries_total\x7bcalculation=" ++ name ++ "\x7d"] := by
  intro run
  constructor
  · intro hnone
    have hrun : run = pure (.error (.invalidArgument (.unknownCalculation name))) := by
      simp only [run, handleNamed, Calculation.parse_of_unknown hnone]
    rw [hrun]
    exact ⟨rfl, rfl, rfl⟩
  · intro c hname
    have hrun : run = group.handle store now c params := by
      simp only [run, handleNamed, Calculation.parse_eq_ok_iff.2 hname]
    rw [hrun]
    refine ⟨fun failure h => handle_of_refused h, fun set h => ?_⟩
    have hasks : (group.handle store now c params).Asks store c set := handle_of_built h
    refine ⟨hasks, ?_⟩
    rw [hasks.counted, ← hname]
    rfl

/-- A ranking whose store fails is counted all the same, and as a ranking. -/
theorem handleNamed_effects_unavailable :
    let group : Group := ⟨⟨"calls", {}, {}⟩, {}⟩
    let store : Store := fun _ => { answer := .error (.store "unavailable") }
    let params : Params := { ranked := some .successRate, limit := some 5 }
    let run := group.handleNamed store 1700000000 "top_n" params
    ∃ set, group.querySet 1700000000 .topN params = .ok set ∧ run.trace.sent = [set] ∧
      run.trace.counted.map Count.series =
        ["apm_metrics_queries_total\x7bcalculation=top_n\x7d"] ∧
      run.value = .error (.store "unavailable") := by
  intro group store params run
  have hwindow : 0 ≤ (group.scope.window 1700000000 params.start params.stop).start ∧
      (group.scope.window 1700000000 params.start params.stop).start ≤
        (group.scope.window 1700000000 params.start params.stop).stop := by
    decide
  have hset := group.querySet_of_window 1700000000
    (.ranked rfl rfl rfl rfl (by decide) : Composes .topN params .successRate [.top 5]) hwindow
  obtain ⟨-, hnamed⟩ := handleNamed_effects group store 1700000000 "top_n" params
  obtain ⟨hasks, hseries⟩ := (hnamed .topN rfl).2 _ hset
  exact ⟨_, hset, hasks.sent, hseries, hasks.answered⟩

end Group
end RpcMetrics
