import RpcMetrics.Window

/-! # Windows stay within the clock

`WindowRules.resolve` saturates three times on the way from seconds to the
store's units: when a span is taken from the clock, and when each bound is
scaled.  Saturation is monotone and is undone by nothing that follows, so one
saturation at the end gives the same window (`resolve_start`, `resolve_stop`):
the start is the later of the earliest moment allowed and the moment asked for,
the stop the earlier of the clock and the moment asked for, in whole numbers
without a bound.  Both limits of a window are read off these two
(`earliest_le_resolve`, `resolve_le_now`).
-/
namespace RpcMetrics

/-- The whole seconds of a span, up to the greatest signed number of 64 bits. -/
def Duration.wholeSeconds (d : Duration) : Int := min (d.seconds.toNat : Int) 0x7FFFFFFFFFFFFFFF

/-- The nearest whole number among the signed ones of 64 bits. -/
def WindowRules.clamp (n : Int) : Int := max (-0x8000000000000000) (min 0x7FFFFFFFFFFFFFFF n)

/-! ### Saturation -/

/-- **What is saturated is the nearest number that can be held.** -/
theorem toInt_saturate_eq_clamp (n : Int) : (saturate n).toInt = WindowRules.clamp n :=
  toInt_saturate n

theorem saturate_mono {m n : Int} (h : m ≤ n) : saturate m ≤ saturate n := by
  rw [Int64.le_iff_toInt_le, toInt_saturate, toInt_saturate]
  omega

theorem toInt_max (a b : Int64) : (max a b).toInt = max a.toInt b.toInt := by
  have hmax : max a b = if a ≤ b then b else a := rfl
  rw [hmax]
  split
  · rename_i h
    exact (Int.max_eq_right (Int64.le_iff_toInt_le.1 h)).symm
  · rename_i h
    have hlt := Int64.lt_iff_toInt_lt.1 (Int64.not_le.1 h)
    exact (Int.max_eq_left (Int.le_of_lt hlt)).symm

theorem toInt_min (a b : Int64) : (min a b).toInt = min a.toInt b.toInt := by
  have hmin : min a b = if a ≤ b then a else b := rfl
  rw [hmin]
  split
  · rename_i h
    exact (Int.min_eq_left (Int64.le_iff_toInt_le.1 h)).symm
  · rename_i h
    have hlt := Int64.lt_iff_toInt_lt.1 (Int64.not_le.1 h)
    exact (Int.min_eq_right (Int.le_of_lt hlt)).symm

theorem saturate_max (m n : Int) : max (saturate m) (saturate n) = saturate (max m n) := by
  apply Int64.toInt_inj.1
  rw [toInt_max, toInt_saturate, toInt_saturate, toInt_saturate]
  omega

theorem saturate_min (m n : Int) : min (saturate m) (saturate n) = saturate (min m n) := by
  apply Int64.toInt_inj.1
  rw [toInt_min, toInt_saturate, toInt_saturate, toInt_saturate]
  omega

/-- **A number that is saturated before it is scaled need not be**: what lies
beyond the range of the seconds lies beyond the range of the units as well. -/
theorem toUnits_saturate (n : Int) :
    WindowRules.toUnits (saturate n) = saturate (n * unitsPerSecond) := by
  apply Int64.toInt_inj.1
  rw [WindowRules.toUnits, toInt_saturate, toInt_saturate, toInt_saturate]
  simp only [Decimal.minSigned, Decimal.maxSigned, unitsPerSecond]
  omega

/-- A span counts with its whole seconds, as far as signed numbers reach. -/
theorem toInt_signedSeconds (d : Duration) : d.signedSeconds.toInt = d.wholeSeconds := by
  rw [Duration.signedSeconds, toInt_saturate_eq_clamp]
  simp only [WindowRules.clamp, Duration.wholeSeconds]
  omega

namespace WindowRules
variable (rules : WindowRules) (now : Int64) (start stop : Option Int64)

/-! ### Windows in whole numbers -/

/-- The earliest second a window may start at, without a bound on numbers. -/
def earliest : Int := now.toInt - rules.maxSpan.wholeSeconds

/-- The second a window is asked to start at. -/
def wantedStart : Int :=
  ((given start).map Int64.toInt).getD (now.toInt - rules.defaultSpan.wholeSeconds)

/-- The second a window is asked to stop at. -/
def wantedStop : Int := ((given stop).map Int64.toInt).getD now.toInt

theorem before_maxSpan :
    before now rules.maxSpan.signedSeconds = saturate (rules.earliest now) := by
  rw [before, earliest, toInt_signedSeconds]

theorem given_start :
    (given start).getD (before now rules.defaultSpan.signedSeconds) =
      saturate (rules.wantedStart now start) := by
  rw [before, wantedStart, toInt_signedSeconds]
  cases given start with
  | none => rfl
  | some s => exact (saturate_toInt s).symm

theorem given_stop : (given stop).getD now = saturate (wantedStop now stop) := by
  rw [wantedStop]
  cases given stop with
  | none => exact (saturate_toInt now).symm
  | some s => exact (saturate_toInt s).symm

/-- **The start of a window, saturated once.** -/
theorem resolve_start : (rules.resolve now start stop).start =
    saturate (max (rules.earliest now) (rules.wantedStart now start) * unitsPerSecond) := by
  simp only [resolve]
  rw [before_maxSpan, given_start, saturate_max, toUnits_saturate]

/-- **The stop of a window, saturated once.** -/
theorem resolve_stop : (rules.resolve now start stop).stop =
    saturate (min now.toInt (wantedStop now stop) * unitsPerSecond) := by
  simp only [resolve]
  rw [given_stop, ← toUnits_saturate, ← saturate_min, saturate_toInt]

/-- No window starts before the earliest moment allowed. -/
theorem earliest_le_resolve :
    clamp (unitsPerSecond * rules.earliest now) ≤ (rules.resolve now start stop).start.toInt := by
  rw [resolve_start, Int.mul_comm, ← toInt_saturate_eq_clamp, ← Int64.le_iff_toInt_le]
  apply saturate_mono
  exact Int.mul_le_mul_of_nonneg_right (Int.le_max_left ..) (by decide)

/-- No window stops after the clock. -/
theorem resolve_le_now :
    (rules.resolve now start stop).stop.toInt ≤ clamp (unitsPerSecond * now.toInt) := by
  rw [resolve_stop, Int.mul_comm unitsPerSecond, ← toInt_saturate_eq_clamp,
    ← Int64.le_iff_toInt_le]
  apply saturate_mono
  exact Int.mul_le_mul_of_nonneg_right (Int.min_le_left ..) (by decide)

end WindowRules

/-! ### Lengths -/

theorem toNat_max (a b : UInt64) : (max a b).toNat = max a.toNat b.toNat := by
  have hmax : max a b = if a ≤ b then b else a := rfl
  rw [hmax]
  split
  · rename_i h
    exact (Nat.max_eq_right (UInt64.le_iff_toNat_le.1 h)).symm
  · rename_i h
    have hle : b.toNat ≤ a.toNat := by
      rw [UInt64.le_iff_toNat_le] at h
      omega
    exact (Nat.max_eq_left hle).symm

/-- **The length of any window**, however far apart its ends are: seconds that
have begun do not count, and a window that ends before it starts has none. -/
theorem Window.toNat_seconds (window : Window) : (window.seconds.toNat : Int) =
    max 0 ((min (window.stop.toInt - window.start.toInt) Decimal.maxSigned).tdiv
      unitsPerSecond) := by
  have hsign : Int.sign 1000 = 1 := rfl
  rw [seconds, UInt64.toNat_ofNat', toInt_saturate]
  simp only [Decimal.minSigned, Decimal.maxSigned, unitsPerSecond, Int.tdiv_eq_ediv, hsign]
  split <;> split <;> omega

/-- A window in order is as long as its ends are apart. -/
theorem Window.toNat_seconds_of_ordered {window : Window} (hstart : 0 ≤ window.start)
    (hstop : window.start ≤ window.stop) : (window.seconds.toNat : Int) =
    (window.stop.toInt - window.start.toInt) / unitsPerSecond := by
  rw [Int64.le_iff_toInt_le] at hstart hstop
  rw [Int64.toInt_zero] at hstart
  have hbound := window.stop.toInt_lt
  -- two moments after the epoch are never farther apart than numbers reach
  have hspan : min (window.stop.toInt - window.start.toInt) Decimal.maxSigned =
      window.stop.toInt - window.start.toInt := by
    simp only [Decimal.maxSigned]
    omega
  have hnonneg : 0 ≤ (window.stop.toInt - window.start.toInt) / unitsPerSecond := by
    simp only [unitsPerSecond]
    omega
  rw [toNat_seconds, hspan, Int.tdiv_eq_ediv_of_nonneg (by omega)]
  exact Int.max_eq_right hnonneg

/-- The interval of a window in order. -/
theorem WindowRules.toNat_interval (rules : WindowRules) {window : Window}
    (hstart : 0 ≤ window.start) (hstop : window.start ≤ window.stop) :
    ((rules.interval window).toNat : Int) =
      max ((window.stop.toInt - window.start.toInt) / unitsPerSecond)
        (rules.minInterval.seconds.toNat : Int) := by
  rw [interval, toNat_max, ← Window.toNat_seconds_of_ordered hstart hstop]
  omega

end RpcMetrics
