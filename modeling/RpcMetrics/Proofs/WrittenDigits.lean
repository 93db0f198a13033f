import Mathlib.Data.List.Basic
import RpcMetrics.Decimal.Integer

/-! # Digits within a text

The digits of a whole number tell it, and they end where something else begins; so
does the number with its sign, if a mark that is no digit stands for the sign
(`signed_append_inj`).  Of the digits of a number other than zero the first is not
zero (`digitsOf_eq_cons`).
-/
namespace RpcMetrics
namespace Decimal

theorem digitsOf_injective {m n : Nat} (h : digitsOf m = digitsOf n) : m = n := by
  have hread := readDigits_digitsOf m
  rw [h, readDigits_digitsOf] at hread
  exact (Option.some.inj hread).symm

theorem isDigit_of_mem_digitsOf {n : Nat} {c : Char} (h : c ∈ digitsOf n) : c.isDigit = true :=
  Nat.isDigit_of_mem_toDigits (by decide) (by decide) h

theorem takeWhile_digitsOf_append {n : Nat} {c : Char} (hc : c.isDigit = false) (rest : List Char) :
    (digitsOf n ++ c :: rest).takeWhile Char.isDigit = digitsOf n := by
  rw [List.takeWhile_append_of_pos fun d hd => isDigit_of_mem_digitsOf hd,
    List.takeWhile_cons_of_neg (by simp [hc]), List.append_nil]

/-- **Digits end where something else begins.** -/
theorem digitsOf_append_inj {m n : Nat} {c d : Char} {r s : List Char} (hc : c.isDigit = false)
    (hd : d.isDigit = false) (h : digitsOf m ++ c :: r = digitsOf n ++ d :: s) :
    m = n ∧ c :: r = d :: s := by
  have htake := congrArg (List.takeWhile Char.isDigit) h
  rw [takeWhile_digitsOf_append hc, takeWhile_digitsOf_append hd] at htake
  obtain rfl := digitsOf_injective htake
  exact ⟨rfl, List.append_cancel_left h⟩

/-- The digits of a whole number, after a mark if it is negative. -/
def signed (mark : List Char) (n : Int) : List Char :=
  (if n < 0 then mark else []) ++ digitsOf n.natAbs

theorem toList_writeInt (n : Int) : (writeInt n).toList = signed ['-'] n := by
  by_cases h : n < 0 <;> simp [writeInt, minus, signed, h]

/-- A mark that is no digit cannot begin a number without one. -/
theorem digitsOf_append_ne {n : Nat} {mark c : Char} {r s : List Char}
    (hmark : mark.isDigit = false) (h : digitsOf n ++ c :: r = mark :: s) : False := by
  cases hdigits : digitsOf n with
  | nil => exact Nat.toDigits_ne_nil hdigits
  | cons d digits =>
    have hd : d.isDigit = true := isDigit_of_mem_digitsOf (hdigits ▸ List.mem_cons_self ..)
    rw [hdigits, List.cons_append, List.cons_eq_cons] at h
    rw [h.1, hmark] at hd
    cases hd

/-- **A whole number ends where its digits do**, and its mark tells its sign. -/
theorem signed_append_inj {m n : Int} {mark c : Char} {marks r s : List Char}
    (hmark : mark.isDigit = false) (hc : c.isDigit = false)
    (h : signed (mark :: marks) m ++ c :: r = signed (mark :: marks) n ++ c :: s) :
    m = n ∧ r = s := by
  unfold signed at h
  by_cases hm : m < 0
  · by_cases hn : n < 0
    · rw [if_pos hm, if_pos hn, List.append_assoc, List.append_assoc] at h
      obtain ⟨habs, hrest⟩ := digitsOf_append_inj hc hc (List.append_cancel_left h)
      exact ⟨by omega, (List.cons_eq_cons.1 hrest).2⟩
    · rw [if_pos hm, if_neg hn] at h
      exact (digitsOf_append_ne hmark h.symm).elim
  · by_cases hn : n < 0
    · rw [if_neg hm, if_pos hn] at h
      exact (digitsOf_append_ne hmark h).elim
    · rw [if_neg hm, if_neg hn, List.nil_append, List.nil_append] at h
      obtain ⟨habs, hrest⟩ := digitsOf_append_inj hc hc h
      exact ⟨by omega, (List.cons_eq_cons.1 hrest).2⟩

/-- **Only zero begins with a zero.** -/
theorem digitsOf_eq_cons {n : Nat} (hn : n ≠ 0) :
    ∃ c digits, digitsOf n = c :: digits ∧ c ≠ '0' ∧ c.isDigit = true := by
  induction n using Nat.strongRecOn with
  | _ n ih =>
    by_cases hsmall : n < 10
    · have hdigit : ∀ m < 10, m ≠ 0 → m.digitChar ≠ '0' ∧ m.digitChar.isDigit = true := by decide
      exact ⟨n.digitChar, [], Nat.toDigits_of_lt_base hsmall, hdigit n hsmall hn⟩
    · have hlarge : 10 ≤ n := Nat.le_of_not_lt hsmall
      obtain ⟨c, digits, heq, hc⟩ := ih (n / 10) (Nat.div_lt_self (by omega) (by decide)) (by omega)
      refine ⟨c, digits ++ [(n % 10).digitChar], ?_, hc⟩
      rw [digitsOf, Nat.toDigits_of_base_le (by decide) hlarge, ← List.cons_append, ← heq]
      rfl

end Decimal
end RpcMetrics
