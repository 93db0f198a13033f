import Mathlib
import RpcMetrics.Json.Number

/-! # Doubles that are read are numbers

A double is unpacked into a mantissa and an exponent, computed with, and rounded and
packed again; it is a number unless the exponent leaves its range (`Bounded`).
Rounding shifts the mantissa until 53 bits are left, and once more if rounding up
carries, so the exponent of a result is known from the bits of the mantissa
(`bounded_round`).

A numeral is a whole number of 64 bits that is divided by powers of ten, or
multiplied by one and then checked.  All these powers are two or more
(`atLeastTwo_powerOfTen`), and by such a divisor a quotient stays in range
(`isFinite_div`).

**What a numeral is read as is a number** (`isFinite_of_toFloat`).
-/
namespace RpcMetrics
namespace Decimal
open Float.Model Float.Model.UnpackedFloat

/-! ### Packed doubles -/

/-- The exponent field of a double. -/
def exponentField (x : Float) : BitVec 11 :=
  @unpackExponent Format.binary64 x.toModel.toBits.toBitVec

theorem isFinite_iff (x : Float) : isFinite x = true ↔ exponentField x ≠ -1#11 := by
  have hexp : (exponentField x).toNat = x.toBits.toNat / leadingSignificand % 0x800 := by
    simp [exponentField, unpackExponent, Nat.shiftRight_eq_div_pow, leadingSignificand,
      Float.toBits]
  have hall : (-1#11).toNat = 2047 := by decide
  rw [Ne, ← BitVec.toNat_inj, hexp, hall, isFinite, Binary64.ofFloat, Binary64.ofBits]
  generalize x.toBits.toNat / leadingSignificand % 0x800 = biased
  generalize x.toBits.toNat % leadingSignificand = fraction
  by_cases hb : biased = 2047
  · by_cases hf : fraction = 0 <;> simp [hb, hf]
  · by_cases hz : biased = 0 <;> simp [hb, hz]

/-- Whether an unpacked float is a number that is not beyond all doubles. -/
def Bounded : UnpackedFloat → Prop
  | .zero _ => True
  | .finite _ m e _ => m < 2 ^ 53 ∧ e ≤ 971
  | _ => False

theorem isFinite_pack {u : UnpackedFloat} (h : Bounded u) :
    isFinite (.ofModel (.pack u)) = true := by
  rw [isFinite_iff]
  show @unpackExponent Format.binary64 (UnpackedFloat.pack Format.binary64 u) ≠ -1#11
  cases u with
  | infinity _ | notANumber => exact h.elim
  | zero sign =>
    rw [UnpackedFloat.pack, packedZero, unpackExponent_packComponents]
    decide
  | finite sign m e hm =>
    have he : e ≤ 971 := h.2
    have hbias : Format.binary64.exponentBias = 1023 := by decide
    rw [UnpackedFloat.pack]
    simp only [hbias]
    have hfits : ¬2 ^ 11 ≤ (e + (1023 : Nat) + (52 : Nat)).toNat + 1 := by omega
    rw [if_neg hfits]
    split
    · rw [unpackExponent_packComponents, Ne, ← BitVec.toNat_inj, BitVec.toNat_ofNat]
      have hall : (-1#11).toNat = 2047 := by decide
      rw [hall]
      omega
    · rw [unpackExponent_packComponents]
      decide

theorem bounded_unpack {x : Float} (h : isFinite x = true) : Bounded x.toModel.unpack := by
  have hexp := (isFinite_iff x).1 h
  unfold exponentField at hexp
  have hbias : Format.binary64.exponentBias = 1023 := by decide
  rw [Float.Model.unpack, UnpackedFloat.unpack]
  simp only [hbias]
  have hfraction := (@unpackMantissa Format.binary64 x.toModel.toBits.toBitVec).isLt
  have hwhole := (1#1 ++ @unpackMantissa Format.binary64 x.toModel.toBits.toBitVec).isLt
  generalize @unpackExponent Format.binary64 x.toModel.toBits.toBitVec = biased at hexp ⊢
  have hbiased : biased.toNat ≤ 2046 := by
    have hlt := biased.isLt
    have hne : biased.toNat ≠ (-1#11).toNat := mt BitVec.toNat_inj.1 hexp
    have hall : (-1#11).toNat = 2047 := by decide
    simp only [Format.binary64] at hlt
    omega
  rw [if_neg hexp]
  split
  · next hzero =>
    have hsmall : biased.toNat = 0 := by rw [hzero]; rfl
    split
    · trivial
    · exact ⟨Nat.lt_trans hfraction (by decide), by omega⟩
  · exact ⟨hwhole, by omega⟩

/-! ### Rounding -/

theorem shiftRight_mantissa (em : ExtendedMantissa) (count : Nat) :
    (em >>> count).mantissa = em.mantissa / 2 ^ count := by
  induction count with
  | zero => exact (Nat.div_one _).symm
  | succ count ih =>
    have hstep : (em >>> (count + 1)).mantissa = (em >>> count).mantissa / 2 := rfl
    rw [hstep, ih, Nat.div_div_eq_div_mul, Nat.pow_succ]

theorem mantissa_ofMantissaAndAccuracy (m : Nat) (accuracy : Accuracy) :
    (ExtendedMantissa.ofMantissaAndAccuracy m accuracy).mantissa = m := by
  rcases accuracy with _ | _ | _ | _ <;> rfl

theorem roundedMantissa_bounds (em : ExtendedMantissa) :
    em.mantissa ≤ em.roundedMantissa ∧ em.roundedMantissa ≤ em.mantissa + 1 := by
  rcases em with ⟨m, round, sticky⟩
  cases round <;> cases sticky <;>
    simp [ExtendedMantissa.roundedMantissa, ExtendedMantissa.accuracy, Accuracy.roundToNearestEven]
  omega

/-- By how much a mantissa is shifted. -/
def shiftCount (m : Nat) (e : Int) : Nat :=
  (max (totalExponent m e - 53) (-1074) - e).toNat

theorem shift_eq (m : Nat) (e : Int) (accuracy : Accuracy) :
    (shiftToTargetExponent Format.binary64 m e accuracy).1.mantissa = m / 2 ^ shiftCount m e ∧
    (shiftToTargetExponent Format.binary64 m e accuracy).2 = e + shiftCount m e := by
  have htarget : Format.binary64.targetExponent (totalExponent m e) =
      max (totalExponent m e - 53) (-1074) := rfl
  rw [shiftToTargetExponent, htarget, shiftToExponent]
  exact ⟨by rw [shiftRight_mantissa, mantissa_ofMantissaAndAccuracy]; rfl, rfl⟩

/-- A shifted mantissa has 53 bits at most. -/
theorem shifted_lt (m : Nat) (e : Int) : m / 2 ^ shiftCount m e < 2 ^ 53 := by
  have hcount : m.log2 + 1 ≤ 53 + shiftCount m e := by
    unfold shiftCount totalExponent
    omega
  rw [Nat.div_lt_iff_lt_mul (Nat.two_pow_pos _), ← Nat.pow_add]
  exact Nat.lt_of_lt_of_le Nat.lt_log2_self (Nat.pow_le_pow_right (by decide) hcount)

/-- What is left of a mantissa that has 53 bits, or one more by rounding up, is
shifted once at most. -/
theorem shiftCount_le_one {r : Nat} {k : Int} (hr : r ≤ 2 ^ 53) (hk : -1074 ≤ k) :
    shiftCount r k ≤ 1 := by
  have hlog : r.log2 ≤ 53 := by
    by_cases hzero : r = 0
    · rw [hzero, Nat.log2_zero]; omega
    · exact Nat.le_of_lt_succ ((Nat.log2_lt hzero).2 (Nat.lt_of_le_of_lt hr (by decide)))
  unfold shiftCount totalExponent
  omega

/-- **Rounding stays within the doubles** if the exponent that the mantissa is
shifted to leaves room for a carry. -/
theorem bounded_round (sign : Sign) {m : Nat} {e : Int} (accuracy : Accuracy)
    (h : e + shiftCount m e + 1 ≤ 971) :
    Bounded (roundWithAccuracy Format.binary64 sign m e accuracy) := by
  obtain ⟨hmantissa, hexponent⟩ := shift_eq m e accuracy
  generalize hfirst : shiftToTargetExponent Format.binary64 m e accuracy = first
    at hmantissa hexponent
  obtain ⟨-, hround⟩ := roundedMantissa_bounds first.1
  have hlt := shifted_lt m e
  have hlow : -1074 ≤ first.2 := by rw [hexponent]; unfold shiftCount; omega
  obtain ⟨hlastMantissa, hlastExponent⟩ := shift_eq first.1.roundedMantissa first.2 .exact
  have hcount : shiftCount first.1.roundedMantissa first.2 ≤ 1 :=
    shiftCount_le_one (by omega) hlow
  rw [roundWithAccuracy, hfirst]
  simp only
  split
  · trivial
  · exact ⟨hlastMantissa ▸ shifted_lt _ _, by omega⟩

theorem isFinite_neg {x : Float} (h : isFinite x = true) : isFinite (-x) = true := by
  refine isFinite_pack ?_
  have hx := bounded_unpack h
  cases hu : x.toModel.unpack with
  | zero _ => trivial
  | finite _ _ _ _ => rw [hu] at hx; exact hx
  | infinity _ | notANumber => rw [hu] at hx; exact hx.elim

theorem log2_le_of_lt {m k : Nat} (h : m < 2 ^ (k + 1)) : m.log2 ≤ k := by
  by_cases hm : m = 0
  · rw [hm, Nat.log2_zero]; exact Nat.zero_le k
  · exact Nat.le_of_lt_succ ((Nat.log2_lt hm).2 h)

theorem isFinite_toFloat (n : UInt64) : isFinite n.toFloat = true := by
  refine isFinite_pack ?_
  rw [UnpackedFloat.ofUInt64, UnpackedFloat.ofNat, UnpackedFloat.ofInt, UnpackedFloat.normalize]
  have hn := n.toNat_lt
  generalize n.toNat = n at hn
  -- a number of 64 bits is shifted until 53 are left, which scales it by no more than 11
  have hround : Bounded (UnpackedFloat.round Format.binary64 .positive n 0) := by
    rw [UnpackedFloat.round]
    generalize Format.binary64.targetExponent (totalExponent n 0) = target
    refine bounded_round _ _ ?_
    generalize (0 - target).toNat = shift
    have hlog : (n <<< shift).log2 ≤ 63 + shift := by
      refine log2_le_of_lt ?_
      rw [Nat.shiftLeft_eq, show 63 + shift + 1 = 64 + shift by omega, Nat.pow_add]
      exact Nat.mul_lt_mul_of_pos_right hn (Nat.two_pow_pos _)
    unfold shiftCount totalExponent
    omega
  split
  · next hneg => exact absurd (Int.compare_eq_lt.1 hneg) (by omega)
  · trivial
  · exact hround

/-- Whether a double is a number of two or more, apart from its sign. -/
def atLeastTwo (x : Float) : Bool :=
  match x.toModel.unpack with
  | .finite _ m e _ => decide (2 ≤ totalExponent m e)
  | _ => false

/-- The quotient of mantissas has the difference of their bits, or one more. -/
theorem log2_quotient_le {m₁ m₂ shift : Nat} (hm₂ : m₂ ≠ 0) (hq : m₁ <<< shift / m₂ ≠ 0) :
    (m₁ <<< shift / m₂).log2 + m₂.log2 ≤ m₁.log2 + shift := by
  have hbelow : 2 ^ (m₁ <<< shift / m₂).log2 * 2 ^ m₂.log2 ≤ m₁ <<< shift :=
    Nat.le_trans (Nat.mul_le_mul (Nat.log2_self_le hq) (Nat.log2_self_le hm₂))
      (Nat.div_mul_le_self _ _)
  have habove : m₁ <<< shift < 2 ^ (m₁.log2 + 1) * 2 ^ shift := by
    rw [Nat.shiftLeft_eq]
    exact Nat.mul_lt_mul_of_pos_right Nat.lt_log2_self (Nat.two_pow_pos _)
  rw [← Nat.pow_add] at hbelow habove
  have := (Nat.pow_lt_pow_iff_right (by decide)).1 (Nat.lt_of_le_of_lt hbelow habove)
  omega

/-- **A quotient by two or more stays within the doubles.** -/
theorem isFinite_div {x y : Float} (hx : isFinite x = true) (hy : atLeastTwo y = true) :
    isFinite (x / y) = true := by
  refine isFinite_pack ?_
  have hb := bounded_unpack hx
  rw [atLeastTwo] at hy
  split at hy
  case h_2 => cases hy
  case h_1 sign m₂ e₂ hm₂ hu =>
  have hlarge : 2 ≤ totalExponent m₂ e₂ := of_decide_eq_true hy
  rw [hu]
  cases hv : x.toModel.unpack with
  | infinity _ | notANumber => rw [hv] at hb; exact hb.elim
  | zero s => trivial
  | finite s m₁ e₁ hm₁ =>
    rw [hv] at hb
    obtain ⟨hm, he⟩ := hb
    rw [UnpackedFloat.div]
    refine bounded_round _ _ ?_
    have hlog : m₁.log2 ≤ 52 := log2_le_of_lt hm
    have htarget : Format.binary64.targetExponent (totalExponent m₁ e₁ - totalExponent m₂ e₂) =
        max (totalExponent m₁ e₁ - totalExponent m₂ e₂ - 53) (-1074) := rfl
    simp only [htarget]
    unfold totalExponent at hlarge ⊢
    generalize hmin : min (e₁ - e₂) (max (((m₁.log2 : Int) + 1 + e₁) -
      ((m₂.log2 : Int) + 1 + e₂) - 53) (-1074)) = target
    have hquotient : (m₁ <<< (e₁ - e₂ - target).toNat / m₂).log2 = 0 ∨
        (m₁ <<< (e₁ - e₂ - target).toNat / m₂).log2 + m₂.log2 ≤
          m₁.log2 + (e₁ - e₂ - target).toNat := by
      by_cases hq : m₁ <<< (e₁ - e₂ - target).toNat / m₂ = 0
      · exact .inl (by rw [hq, Nat.log2_zero])
      · exact .inr (log2_quotient_le (by omega) hq)
    unfold shiftCount totalExponent
    generalize (m₁ <<< (e₁ - e₂ - target).toNat / m₂).log2 = bits at hquotient ⊢
    omega

/-- A mantissa of 53 bits stays as it is, and a power of two that a carry has left is
halved. -/
theorem log2_shifted {r : Nat} {k : Int} (hlower : 2 ^ 52 ≤ r) (hupper : r ≤ 2 ^ 53)
    (hk : -1074 ≤ k) : (r / 2 ^ shiftCount r k).log2 = 52 := by
  by_cases hcarry : r = 2 ^ 53
  · have hone : shiftCount r k = 1 := by
      rw [hcarry]
      unfold shiftCount totalExponent
      rw [Nat.log2_two_pow]
      omega
    rw [hone, hcarry]
    decide
  · have hlog : r.log2 = 52 := by
      have hle : r.log2 ≤ 52 := log2_le_of_lt (by omega)
      have hge : 52 ≤ r.log2 := (Nat.le_log2 (by omega)).2 hlower
      omega
    have hzero : shiftCount r k = 0 := by
      unfold shiftCount totalExponent
      omega
    rw [hzero, Nat.pow_zero, Nat.div_one, hlog]

/-- **A number with more than 52 bits is rounded to 53** if it is normal. -/
theorem round_normal (sign : Sign) {m : Nat} {e : Int} (hm : 52 ≤ m.log2)
    (hnormal : -1021 ≤ totalExponent m e) :
    ∃ r k hr, roundWithAccuracy Format.binary64 sign m e .exact = .finite sign r k hr ∧
      r.log2 = 52 ∧ totalExponent m e - 53 ≤ k ∧ k ≤ totalExponent m e - 52 := by
  obtain ⟨hmantissa, hexponent⟩ := shift_eq m e .exact
  have hcount : shiftCount m e = m.log2 - 52 ∧ e + shiftCount m e = totalExponent m e - 53 := by
    unfold shiftCount
    unfold totalExponent at hnormal ⊢
    omega
  generalize hfirst : shiftToTargetExponent Format.binary64 m e .exact = first
    at hmantissa hexponent
  obtain ⟨hlow, hhigh⟩ := roundedMantissa_bounds first.1
  have hlt := shifted_lt m e
  have hge : 2 ^ 52 ≤ m / 2 ^ shiftCount m e := by
    rw [Nat.le_div_iff_mul_le (Nat.two_pow_pos _), ← Nat.pow_add, hcount.1,
      Nat.add_sub_cancel' hm]
    exact Nat.log2_self_le (by rintro rfl; simp at hm)
  have hlower : 2 ^ 52 ≤ first.1.roundedMantissa := by omega
  have hupper : first.1.roundedMantissa ≤ 2 ^ 53 := by omega
  obtain ⟨hlastMantissa, hlastExponent⟩ := shift_eq first.1.roundedMantissa first.2 .exact
  have hlast :
      (first.1.roundedMantissa / 2 ^ shiftCount first.1.roundedMantissa first.2).log2 = 52 :=
    log2_shifted hlower hupper (by omega)
  have hcarry : shiftCount first.1.roundedMantissa first.2 ≤ 1 :=
    shiftCount_le_one hupper (by omega)
  rw [roundWithAccuracy, hfirst]
  simp only
  rw [← hlastMantissa] at hlast
  split
  · next hzero => rw [hzero] at hlast; exact absurd hlast (by decide)
  · next hne => exact ⟨_, _, Nat.pos_of_ne_zero hne, rfl, hlast, by omega, by omega⟩

/-- A normal number is unpacked with its exponent. -/
theorem unpack_pack_normal (sign : Sign) {m : Nat} {e : Int} (hm : 0 < m) (hlog : m.log2 = 52)
    (hlow : -1074 ≤ e) (hhigh : e ≤ 971) :
    ∃ s r hr, (Float.Model.pack (.finite sign m e hm)).unpack = .finite s r e hr ∧ 52 ≤ r.log2 := by
  have hbias : Format.binary64.exponentBias = 1023 := by decide
  have hbits : UnpackedFloat.pack Format.binary64 (.finite sign m e hm) =
      packComponents Format.binary64 sign (BitVec.ofNat _ (e + 1075).toNat) (BitVec.ofNat _ m) := by
    rw [UnpackedFloat.pack]
    simp only [hbias]
    have hfits : ¬2 ^ 11 ≤ (e + (1023 : Nat) + (52 : Nat)).toNat + 1 := by omega
    have hbiased : (e + (1023 : Nat) + (52 : Nat)).toNat = (e + 1075).toNat := by omega
    rw [if_neg hfits, if_pos (by rw [hlog]; rfl), hbiased]
  have hfield : (BitVec.ofNat Format.binary64.exponentBits (e + 1075).toNat).toNat =
      (e + 1075).toNat := by
    rw [BitVec.toNat_ofNat]
    exact Nat.mod_eq_of_lt (show (e + 1075).toNat < 2 ^ 11 by omega)
  have hones : BitVec.ofNat Format.binary64.exponentBits (e + 1075).toNat ≠ -1#11 := by
    rw [Ne, ← BitVec.toNat_inj, hfield]
    have hall : (-1#11).toNat = 2047 := by decide
    omega
  have hzero : BitVec.ofNat Format.binary64.exponentBits (e + 1075).toNat ≠ 0#11 := by
    rw [Ne, ← BitVec.toNat_inj, hfield]
    have hnone : (0#11).toNat = 0 := by decide
    omega
  have hleading (fraction : BitVec 52) :
      0 < (1#1 ++ fraction).toNat ∧ 52 ≤ (1#1 ++ fraction).toNat.log2 := by
    have hge : 2 ^ 52 ≤ (1#1 ++ fraction).toNat := by
      rw [BitVec.toNat_append]
      exact Nat.left_le_or
    exact ⟨by omega, (Nat.le_log2 (by omega)).2 hge⟩
  show ∃ s r hr, UnpackedFloat.unpack Format.binary64
    (UnpackedFloat.pack Format.binary64 (.finite sign m e hm)) = .finite s r e hr ∧ 52 ≤ r.log2
  rw [hbits, UnpackedFloat.unpack]
  simp only [unpackExponent_packComponents, unpackMantissa_packComponents, hfield, hbias]
  rw [if_neg hones, if_neg hzero]
  have hexponent : ((e + 1075).toNat : Int) - ((1023 : Nat) + (52 : Nat)) = e := by omega
  simp only [hexponent]
  exact ⟨_, _, (hleading _).1, rfl, (hleading _).2⟩


end Decimal

namespace Json
open Float.Model Float.Model.UnpackedFloat Decimal

theorem atLeastTwo_powerOfTen {k : Nat} (hlow : 1 ≤ k) (hhigh : k ≤ greatestPower) :
    atLeastTwo (powerOfTen k) = true := by
  unfold greatestPower at hhigh
  by_cases hsmall : k ≤ 22
  · have htable : ∀ k < 23, 1 ≤ k → atLeastTwo (powerOfTen k) = true := by decide +kernel
    exact htable k (by omega) hlow
  by_cases hgreatest : k = 308
  · rw [hgreatest]
    decide +kernel
  have hlog : 56 ≤ (1 <<< 53 * 10 ^ k).log2 ∧ (1 <<< 53 * 10 ^ k).log2 ≤ 1075 := by
    constructor
    · have hten : 10 ^ 1 ≤ 10 ^ k := Nat.pow_le_pow_right (by decide) hlow
      rw [Nat.le_log2 (by omega)]
      omega
    · have hbound : 10 ^ k < 2 ^ 1020 :=
        Nat.lt_of_le_of_lt (Nat.pow_le_pow_right (by decide) (show k ≤ 307 by omega))
          (by decide +kernel)
      refine log2_le_of_lt (Nat.lt_of_lt_of_le (Nat.mul_lt_mul_of_pos_left hbound (by decide)) ?_)
      decide +kernel
  obtain ⟨r, e, hr, hround, hbits, he, he'⟩ := @round_normal (.positive * .positive)
    (1 <<< 53 * 10 ^ k) (-53 + 0) (by omega) (by unfold totalExponent; omega)
  have hpower : powerOfTen k = .ofModel (.pack (.finite (.positive * .positive) r e hr)) := by
    rw [← hround, powerOfTen, Float.ofScientific, dif_neg (by omega)]
    simp only [Bool.false_eq_true, if_false, Float.Model.ofScientific]
    have hrange : (2 : Int) ^ Format.binary64.exponentBits = 2048 := rfl
    have hhuge : ¬(Int.ofNat k > 2 ^ Format.binary64.exponentBits) := by
      rw [hrange, Int.ofNat_eq_natCast]; omega
    have htiny : ¬(Int.ofNat k < -((2 : Int) ^ Format.binary64.exponentBits + Nat.log2 1)) := by
      rw [hrange, Int.ofNat_eq_natCast]; omega
    rw [UnpackedFloat.ofScientific, dif_neg (by decide), if_neg hhuge, if_neg htiny,
      if_pos (show 0 ≤ Int.ofNat k from Int.natCast_nonneg k)]
    rfl
  unfold totalExponent at he he'
  obtain ⟨s, m, hm, hunpack, hm'⟩ :=
    @unpack_pack_normal (.positive * .positive) r e hr hbits (by omega) (by omega)
  rw [atLeastTwo, hpower, hunpack]
  refine decide_eq_true ?_
  unfold totalExponent
  omega

/-- **Scaling down stays within the doubles.** -/
theorem isFinite_scaleDown {x : Float} {exponent : Nat} (hx : isFinite x = true)
    (hexponent : 0 < exponent) : isFinite (scaleDown x exponent) = true := by
  fun_induction scaleDown x exponent with
  | case1 x exponent hle => exact isFinite_div hx (atLeastTwo_powerOfTen hexponent hle)
  | case2 x exponent hgt hzero => exact hx
  | case3 x exponent hgt hne ih =>
    refine ih (isFinite_div hx (atLeastTwo_powerOfTen (by decide) (Nat.le_refl _))) ?_
    omega

theorem isFinite_scaleUp {x y : Float} {exponent : Nat} (hx : isFinite x = true)
    (h : scaleUp x exponent = some y) : isFinite y = true := by
  unfold scaleUp at h
  dsimp only at h
  split at h
  · split at h
    · next hproduct => obtain rfl := Option.some.inj h; exact hproduct
    · cases h
  · split at h
    · obtain rfl := Option.some.inj h; exact hx
    · cases h

theorem isFinite_scaled {significand : Nat} {exponent : Int} {x : Float}
    (h : scaled significand exponent = some x) : isFinite x = true := by
  unfold scaled at h
  split at h
  · obtain rfl := Option.some.inj h
    exact isFinite_scaleDown (isFinite_toFloat _) (by omega)
  · exact isFinite_scaleUp (isFinite_toFloat _) h

/-- **A number that is read is a double.** -/
theorem isFinite_of_toFloat {n : Numeral} {x : Float} (h : n.toFloat = some x) :
    isFinite x = true := by
  have hmagnitude {y : Float} (h : n.magnitude = some y) : isFinite y = true := by
    unfold Numeral.magnitude at h
    dsimp only at h
    split at h
    · exact isFinite_scaled h
    · split at h
      · split at h
        · cases h
        · obtain rfl := Option.some.inj h; decide +kernel
      · split at h <;> exact isFinite_scaled h
  obtain ⟨y, hy, rfl⟩ := Option.map_eq_some_iff.1 h
  split
  · exact isFinite_neg (hmagnitude hy)
  · exact hmagnitude hy

end Json
end RpcMetrics
