import Mathlib
import RpcMetrics.Proofs.DraftChecks
import RpcMetrics.Proofs.WindowBounds

/-! # The window of a request as a formula

A request is resolved in numbers of 64 bits, which are held at the bounds of
their range wherever they would outgrow it.  Here the same window is written in
whole numbers: from `firstSecond` to `lastSecond`, in milliseconds, clamped once
at the end.

Clamping can bring together what was apart, so a window that ends before it
starts might come out in order, and one of whole seconds might lose some of its
milliseconds.  Neither happens while the milliseconds of the clock can be held.
A window never stops after the clock, so its stop is not clamped from above; and
a start that is clamped there is still more than the stop.  Then **a window is in
order iff its seconds are** (`resolve_exact`), and **one in order is whole
seconds long, all of which the interval covers** (`interval_exact`).
-/
namespace RpcMetrics

/-! ### Windows of finished drafts -/

namespace QuerySetDraft

/-- **A draft that is finished over one window is refused over another for that
window only.** -/
theorem build_over {draft : QuerySetDraft} {set : QuerySet} (h : draft.build = .ok set)
    (window : Window) : { draft with window }.build =
      match checkWindow window with
      | .ok () => .ok { set with start := window.start, stop := window.stop }
      | .error fault => .error (.validation fault) := by
  obtain ⟨hg, hs⟩ := build_eq_ok_iff.1 h
  cases hw : checkWindow window with
  | error fault => exact build_of_refused hw
  | ok _ =>
    obtain ⟨hstart, hstop⟩ := checkWindow_eq_ok_iff.1 hw
    refine build_of_sound ⟨rfl, rfl, hg.queries, hg.expression, hg.transforms, hg.instant,
      hg.limit⟩ ⟨hstart, hstop, hs.queries_ne_nil, hs.label_ne_empty, hs.labels_nodup,
      hs.expression_resolves⟩

theorem exists_build_over_iff {draft : QuerySetDraft} {set : QuerySet}
    (h : draft.build = .ok set) {window : Window} :
    (∃ set, { draft with window }.build = .ok set) ↔
      0 ≤ window.start.toInt ∧ window.start.toInt ≤ window.stop.toInt := by
  have horder : checkWindow window = .ok () ↔
      0 ≤ window.start.toInt ∧ window.start.toInt ≤ window.stop.toInt := by
    rw [checkWindow_eq_ok_iff, Int64.le_iff_toInt_le, Int64.le_iff_toInt_le, Int64.toInt_zero]
  rw [build_over h, ← horder]
  cases checkWindow window with
  | ok _ => simp
  | error fault => simp

end QuerySetDraft

/-! ### Seconds in whole numbers -/

/-- A window that ends before it starts has no length. -/
theorem Window.seconds_of_inverted {window : Window} (h : window.stop < window.start) :
    window.seconds = 0 := by
  have hspan : 0 ≤ -min (window.stop.toInt - window.start.toInt) Decimal.maxSigned := by
    rw [Int64.lt_iff_toInt_lt] at h
    omega
  -- division truncates, so it commutes with the sign
  have hquotient := Int.tdiv_nonneg hspan (show 0 ≤ unitsPerSecond by decide)
  rw [Int.neg_tdiv] at hquotient
  have hzero : (window.seconds.toNat : Int) = 0 := by
    rw [window.toNat_seconds]
    exact Int.max_eq_left (by omega)
  exact UInt64.toNat_inj.1 (Int.ofNat_inj.1 hzero)

namespace WindowRules

/-- The second that a bound asks for.  A bound of zero asks for none, and leaves
the matter as a missing one does. -/
def asked (bound : Option Int64) (otherwise : Int) : Int :=
  match bound with
  | none => otherwise
  | some moment => if moment = 0 then otherwise else moment.toInt

variable (rules : WindowRules) (now : Int64) (start stop : Option Int64)

/-- The first second of a window: what is asked for, unless it is too far back. -/
def firstSecond : Int :=
  max (now.toInt - rules.maxSpan.wholeSeconds)
    (asked start (now.toInt - rules.defaultSpan.wholeSeconds))

/-- The last second of a window: what is asked for, unless it is yet to come. -/
def lastSecond : Int := min now.toInt (asked stop now.toInt)

theorem getD_given (bound : Option Int64) (otherwise : Int) :
    ((given bound).map Int64.toInt).getD otherwise = asked bound otherwise := by
  cases bound with
  | none => rfl
  | some moment => by_cases h : moment = 0 <;> simp [given, asked, Option.filter_some, h]

theorem toInt_resolve_start : (rules.resolve now start stop).start.toInt =
    clamp (1000 * rules.firstSecond now start) := by
  rw [resolve_start, toInt_saturate_eq_clamp, Int.mul_comm, earliest, wantedStart, getD_given]
  rfl

theorem toInt_resolve_stop : (rules.resolve now start stop).stop.toInt =
    clamp (1000 * lastSecond now stop) := by
  rw [resolve_stop, toInt_saturate_eq_clamp, Int.mul_comm, wantedStop, getD_given]
  rfl

/-! ### Windows before a clock in range -/

section Clock
variable {now} (hnow : now.toInt ≤ 0x7FFFFFFFFFFFFFFF / 1000)
include hnow

/-- **A window is in order iff its seconds are.**  The stop is never clamped from
above, so a start that is clamped stays after it. -/
theorem resolve_in_order_iff :
    (0 ≤ (rules.resolve now start stop).start.toInt ∧
      (rules.resolve now start stop).start.toInt ≤ (rules.resolve now start stop).stop.toInt) ↔
    0 ≤ rules.firstSecond now start ∧ rules.firstSecond now start ≤ lastSecond now stop := by
  have hlast : lastSecond now stop ≤ now.toInt := Int.min_le_left ..
  rw [toInt_resolve_start, toInt_resolve_stop]
  simp only [clamp] at hnow ⊢
  omega

/-- A window in order is not clamped at all. -/
theorem resolve_of_in_order (hfirst : 0 ≤ rules.firstSecond now start)
    (hlast : rules.firstSecond now start ≤ lastSecond now stop) :
    (rules.resolve now start stop).start.toInt = 1000 * rules.firstSecond now start ∧
      (rules.resolve now start stop).stop.toInt = 1000 * lastSecond now stop := by
  have hclock : lastSecond now stop ≤ now.toInt := Int.min_le_left ..
  rw [toInt_resolve_start, toInt_resolve_stop]
  simp only [clamp] at hnow ⊢
  omega

end Clock

/-- **The window of a request is the formula, clamped once.**  While the
milliseconds of the clock can be held, a draft that can be finished over some
window can be finished over this one iff its seconds are in order. -/
theorem resolve_exact :
    let window := rules.resolve now start stop
    let first := rules.firstSecond now start
    let last := lastSecond now stop
    window.start.toInt = clamp (1000 * first) ∧ window.stop.toInt = clamp (1000 * last) ∧
      (now.toInt ≤ 0x7FFFFFFFFFFFFFFF / 1000 →
        ((0 ≤ window.start.toInt ∧ window.start.toInt ≤ window.stop.toInt) ↔
          0 ≤ first ∧ first ≤ last) ∧
        ∀ draft : QuerySetDraft, (∃ set, draft.build = .ok set) →
          ((∃ set, { draft with window }.build = .ok set) ↔ 0 ≤ first ∧ first ≤ last)) := by
  intro window first last
  refine ⟨rules.toInt_resolve_start now start stop, rules.toInt_resolve_stop now start stop, ?_⟩
  intro hnow
  have horder := rules.resolve_in_order_iff start stop hnow
  refine ⟨horder, ?_⟩
  rintro draft ⟨set, hset⟩
  rw [QuerySetDraft.exists_build_over_iff hset, horder]

/-- The last clock whose milliseconds can be held.  A start one second later is
clamped to less than a second after the stop, which is not clamped; still no
query set is finished over that window. -/
theorem resolve_exact_lastClock :
    let rules : WindowRules := ⟨.ofSeconds 3600, .ofSeconds 2592000, .ofSeconds 60⟩
    let now : Int64 := 9223372036854775
    let draft : QuerySetDraft :=
      { window := ⟨0, 0⟩, queries := [{ table := "calls", metric := some ("total", .sum) }] }
    let resolved (start : Int64) := rules.resolve now (some start) none
    (resolved 9223372036854776).start.toInt = 9223372036854775807 ∧
      (resolved 9223372036854776).stop.toInt = 9223372036854775000 ∧
      (∃ set, { draft with window := resolved 9223372036854775 }.build = .ok set) ∧
      ¬ ∃ set, { draft with window := resolved 9223372036854776 }.build = .ok set := by
  intro rules now draft resolved
  have hexact (start : Int64) := rules.resolve_exact now (some start) none
  have hnow : now.toInt ≤ 0x7FFFFFFFFFFFFFFF / 1000 := by decide
  have hdraft : ∃ set, draft.build = .ok set := ⟨_, by cbv⟩
  obtain ⟨hstart, hstop, haccepts⟩ := hexact 9223372036854776
  refine ⟨hstart.trans (by decide), hstop.trans (by decide), ?_, ?_⟩
  · exact (((hexact 9223372036854775).2.2 hnow).2 draft hdraft).2 (by decide)
  · rw [(haccepts hnow).2 draft hdraft]
    decide

/-! ### Intervals -/

/-- **A window in order is a whole number of seconds long**, and has them all. -/
theorem exists_length {now : Int64} (hnow : now.toInt ≤ 0x7FFFFFFFFFFFFFFF / 1000)
    (horder : 0 ≤ (rules.resolve now start stop).start.toInt ∧
      (rules.resolve now start stop).start.toInt ≤ (rules.resolve now start stop).stop.toInt) :
    ∃ length : Nat, (rules.resolve now start stop).stop.toInt -
        (rules.resolve now start stop).start.toInt = 1000 * length ∧
      (rules.resolve now start stop).seconds.toNat = length := by
  obtain ⟨hfirst, hlast⟩ := (rules.resolve_in_order_iff start stop hnow).1 horder
  obtain ⟨hstart, hstop⟩ := rules.resolve_of_in_order start stop hnow hfirst hlast
  -- the length in seconds is that between the two seconds, whichever they are
  have hspan : (rules.resolve now start stop).stop.toInt -
      (rules.resolve now start stop).start.toInt =
        1000 * (lastSecond now stop - rules.firstSecond now start) := by
    rw [hstart, hstop, Int.mul_sub]
  have hseconds := Window.toNat_seconds_of_ordered
    (Int64.le_iff_toInt_le.2 horder.1) (Int64.le_iff_toInt_le.2 horder.2)
  rw [hspan, unitsPerSecond, Int.mul_ediv_cancel_left _ (by decide)] at hseconds
  exact ⟨_, by rw [hspan, hseconds], rfl⟩

/-- **The interval covers the window**, however it comes about.  While the
milliseconds of the clock can be held, a window in order is a whole number of
seconds long, and the interval is this number unless the shortest step is
longer.  The length of any window at all is what the formula says, so one that
ends before it starts has none, and no interval is below the shortest step. -/
theorem interval_exact :
    (∀ (now : Int64) (start stop : Option Int64), now.toInt ≤ 0x7FFFFFFFFFFFFFFF / 1000 →
      let window := rules.resolve now start stop
      0 ≤ window.start.toInt → window.start.toInt ≤ window.stop.toInt →
        ∃ length : Nat, window.stop.toInt - window.start.toInt = 1000 * length ∧
          (rules.interval window).toNat = max length rules.minInterval.seconds.toNat ∧
          window.stop.toInt - window.start.toInt ≤ 1000 * (rules.interval window).toNat) ∧
    ∀ window : Window,
      (window.seconds.toNat : Int) =
        max 0 ((min (window.stop.toInt - window.start.toInt) 0x7FFFFFFFFFFFFFFF).tdiv 1000) ∧
      (window.stop < window.start → window.seconds = 0) ∧
      (rules.interval window).toNat =
        max window.seconds.toNat rules.minInterval.seconds.toNat := by
  constructor
  · intro now start stop hnow window hstart hstop
    obtain ⟨length, hspan, hseconds⟩ := rules.exists_length start stop hnow ⟨hstart, hstop⟩
    have hinterval : (rules.interval window).toNat =
        max length rules.minInterval.seconds.toNat := by
      rw [interval, toNat_max, hseconds]
    refine ⟨length, hspan, hinterval, ?_⟩
    rw [hspan, hinterval]
    omega
  · intro window
    exact ⟨window.toNat_seconds, Window.seconds_of_inverted, toNat_max ..⟩

/-- Ten seconds before the clock are covered by the shortest step, and an hour by
itself. -/
theorem interval_exact_hour :
    let rules : WindowRules := ⟨.ofSeconds 3600, .ofSeconds 2592000, .ofSeconds 60⟩
    let resolved (start : Option Int64) := rules.resolve 1700000000 start none
    (rules.interval (resolved (some 1699999990))).toNat = 60 ∧
      (rules.interval (resolved none)).toNat = 3600 ∧
      (resolved none).stop.toInt - (resolved none).start.toInt = 3600000 := by
  intro rules resolved
  have hexact (start : Option Int64) := (rules.interval_exact).1 1700000000 start none (by decide)
  obtain ⟨short, hshort, hstep, -⟩ := hexact (some 1699999990) (by decide) (by decide)
  obtain ⟨long, hlong, hwhole, -⟩ := hexact none (by decide) (by decide)
  have hten : (resolved (some 1699999990)).stop.toInt - (resolved (some 1699999990)).start.toInt =
      10000 := by decide
  have hspan : (resolved none).stop.toInt - (resolved none).start.toInt = 3600000 := by decide
  have hmin : rules.minInterval.seconds.toNat = 60 := rfl
  refine ⟨?_, ?_, hspan⟩
  · rw [hten] at hshort
    rw [hstep, hmin]
    omega
  · rw [hspan] at hlong
    rw [hwhole, hmin]
    omega

end WindowRules
end RpcMetrics
