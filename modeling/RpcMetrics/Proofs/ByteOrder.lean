import Mathlib

/-! # The order of texts is the order of their bytes

Texts are compared character by character, and a sorted list of texts is sorted in
that sense.  Elsewhere texts are compared as rows of bytes.  UTF-8 is made so that
**the two orders are the same** (`bytes_lt_iff`): the first byte of a character
tells how many there are, more for a greater character, and the bytes after it
spell the number of the character with the highest place first. -/
namespace RpcMetrics.Text

/-- The bytes of a text in UTF-8. -/
def bytes (text : String) : List UInt8 := text.toUTF8.data.toList

theorem bytes_eq (text : String) :
    bytes text = text.toList.flatMap String.utf8EncodeChar := by
  unfold bytes
  rw [String.toUTF8_eq_toByteArray, ← String.utf8Encode_toList]
  exact List.toList_data_toByteArray

theorem byte_cons_lt_iff {m n : Nat} (hm : m < 256) (hn : n < 256) {rest others : List UInt8} :
    UInt8.ofNat m :: rest < UInt8.ofNat n :: others ↔ m < n ∨ m = n ∧ rest < others := by
  rw [List.cons_lt_cons_iff, UInt8.ofNat_lt_iff_lt hm hn, ← UInt8.toNat_inj,
    UInt8.toNat_ofNat_of_lt' hm, UInt8.toNat_ofNat_of_lt' hn]

/-- A smaller character makes the smaller bytes, whatever comes after them. -/
theorem encoded_lt {c d : Char} (h : c < d) (rest others : List UInt8) :
    String.utf8EncodeChar c ++ rest < String.utf8EncodeChar d ++ others := by
  have hlt : c.val.toNat < d.val.toNat := h
  have hbound : d.val.toNat < 0x110000 := by
    have hvalid := d.valid
    simp only [UInt32.isValidChar, Nat.isValidChar] at hvalid
    omega
  -- places above the second are quotients of quotients
  have hthird (n : Nat) : n / 4096 = n / 64 / 64 := (Nat.div_div_eq_div_mul n 64 64).symm
  have hfourth (n : Nat) : n / 262144 = n / 64 / 64 / 64 := by
    rw [← hthird, Nat.div_div_eq_div_mul]
  unfold String.utf8EncodeChar
  dsimp only
  generalize c.val.toNat = m at hlt
  generalize d.val.toNat = n at hlt hbound
  -- by the numbers of bytes that the two characters take
  split_ifs <;>
    simp (disch := omega) only [List.cons_append, List.nil_append, byte_cons_lt_iff, hthird,
      hfourth] <;>
    omega

theorem flatMap_encoded_lt {left right : List Char} (h : left < right) :
    left.flatMap String.utf8EncodeChar < right.flatMap String.utf8EncodeChar := by
  induction left generalizing right with
  | nil =>
    cases right with
    | nil => exact absurd h (List.lt_irrefl [])
    | cons d right =>
      rw [List.flatMap_nil, List.flatMap_cons]
      obtain ⟨first, others, hfirst⟩ :=
        List.exists_cons_of_ne_nil (String.utf8EncodeChar_ne_nil (c := d))
      rw [hfirst]
      exact List.nil_lt_cons _ _
  | cons c left ih =>
    cases right with
    | nil => exact absurd h (List.not_lt_nil _)
    | cons d right =>
      rw [List.flatMap_cons, List.flatMap_cons]
      rcases List.cons_lt_cons_iff.1 h with hchar | ⟨rfl, hrest⟩
      · exact encoded_lt hchar _ _
      · exact List.append_left_lt (ih hrest)

/-- **Texts are ordered as their bytes are.** -/
theorem bytes_lt_iff {left right : String} : bytes left < bytes right ↔ left < right := by
  have hkeeps {s t : String} (h : s < t) : bytes s < bytes t := by
    rw [bytes_eq, bytes_eq]
    exact flatMap_encoded_lt (String.lt_iff.1 h)
  constructor
  · intro h
    by_contra hnot
    rcases eq_or_lt_of_le (String.not_lt.1 hnot) with rfl | hgt
    · exact absurd h (List.lt_irrefl _)
    · exact absurd h (List.lt_asymm (hkeeps hgt))
  · exact hkeeps

/-- A letter with an accent comes after those without, and before what takes three bytes. -/
example : (["z", "é", "漢", "😀"].map bytes).Pairwise (· < ·) := by decide

end RpcMetrics.Text
