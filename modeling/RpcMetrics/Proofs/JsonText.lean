import RpcMetrics.Json.Parser
import RpcMetrics.Json.Printer
import RpcMetrics.Proofs.WrittenDigits
import RpcMetrics.Text.Cut

/-! # Written values are read back

The compact form of a value is the row of its tokens without spaces, so it is read
back in two passes.  A token ends where it is read to end if a mark follows, which
is the case wherever a number stands (`Legible`).  The tokens of a value are then
read in one go within whatever containers are open (`run_tokens`), down to the depth
that is still read.

Texts and whole numbers are read back always.  Of doubles this is not so: digits are
scaled by a power of ten in floating point, which may round once more.  What a value
has to meet is therefore that its doubles are read back, each by itself
(`ReadsBack`).

**A value that can be written is read back** (`parse_write`).
-/
namespace RpcMetrics
namespace Json

/-! ### Texts -/

theorem hexNumber?_of_lt : ∀ n < 0x20,
    hexNumber? '0' '0' (Nat.digitChar (n / 16)) (Nat.digitChar (n % 16)) = some n := by
  decide

/-- A unit that is no surrogate stands for itself. -/
theorem joinPieces_codeUnit {n : Nat} (hn : n < 0xD800) (pieces : List Piece) :
    joinPieces (.codeUnit n :: pieces) = (joinPieces pieces).map (Char.ofNat n :: ·) := by
  have hhigh : isHighSurrogate n = false := by
    simp only [isHighSurrogate, Bool.and_eq_false_iff, decide_eq_false_iff_not]
    omega
  have hlow : isLowSurrogate n = false := by
    simp only [isLowSurrogate, Bool.and_eq_false_iff, decide_eq_false_iff_not]
    omega
  cases pieces with
  | nil => simp [joinPieces, hhigh, hlow]
  | cons piece pieces => cases piece <;> simp [joinPieces, hhigh, hlow]

/-- How a character is escaped: by a mark, by its number, or not at all. -/
theorem escape_cases (c : Char) :
    (∃ mark, escape c = ['\\', mark] ∧ unescape? mark = some c) ∨
      (c.toNat < 0x20 ∧ escape c = codeEscape c) ∨
      (¬c.toNat < 0x20 ∧ c ≠ '"' ∧ c ≠ '\\' ∧ escape c = [c]) := by
  unfold escape
  split
  case h_8 hquote hslash _ _ _ _ _ =>
    by_cases hcontrol : c.toNat < 0x20
    · exact .inr (.inl ⟨hcontrol, if_pos hcontrol⟩)
    · exact .inr (.inr ⟨hcontrol, hquote, hslash, if_neg hcontrol⟩)
  all_goals exact .inl ⟨_, rfl, rfl⟩

/-- The piece that the escape of a character is read as. -/
theorem exists_piece (c : Char) : ∃ piece,
    (∀ rest, takePieces (escape c ++ rest) =
      (takePieces rest).map fun read => (piece :: read.1, read.2)) ∧
    ∀ pieces, joinPieces (piece :: pieces) = (joinPieces pieces).map (c :: ·) := by
  rcases escape_cases c with
    ⟨mark, hescape, hmark⟩ | ⟨hcontrol, hescape⟩ | ⟨hplain, hquote, hslash, hescape⟩
  · refine ⟨.char c, fun rest => ?_, fun pieces => rfl⟩
    have hu : mark ≠ 'u' := by rintro rfl; cases hmark
    rw [hescape]
    cases htake : takePieces rest <;> simp [takePieces, hmark, hu, htake]
  · refine ⟨.codeUnit c.toNat, fun rest => ?_, fun pieces => ?_⟩
    · rw [hescape]
      cases htake : takePieces rest <;>
        simp [codeEscape, takePieces, hexNumber?_of_lt _ hcontrol, htake]
    · rw [joinPieces_codeUnit (by omega), Char.ofNat_toNat]
  · refine ⟨.char c, fun rest => ?_, fun pieces => rfl⟩
    rw [hescape]
    cases htake : takePieces rest <;> simp [takePieces, hplain, hslash, htake]

/-- **A quoted text is read back.** -/
theorem takePieces_quote (text rest : List Char) : ∃ pieces,
    takePieces (text.flatMap escape ++ '"' :: rest) = some (pieces, rest) ∧
    joinPieces pieces = some text := by
  induction text with
  | nil => exact ⟨[], by simp [takePieces], rfl⟩
  | cons c text ih =>
    obtain ⟨pieces, hread, hjoin⟩ := ih
    obtain ⟨piece, htake, hpiece⟩ := exists_piece c
    refine ⟨piece :: pieces, ?_, ?_⟩
    · rw [List.flatMap_cons, List.append_assoc, htake, hread]
      rfl
    · rw [hpiece, hjoin]
      rfl

/-! ### Numbers -/

/-- A mark follows, or nothing. -/
def Ends (text : List Char) : Prop := ∀ c ∈ text.head?, c = ',' ∨ c = ']' ∨ c = '\x7d'

section Numbers
variable {text rest : List Char}

/-- What follows keeps digits from going on. -/
theorem isDigit_of_ends (h : Ends rest) : ∀ c ∈ rest.head?, c.isDigit = false := by
  intro c hc
  rcases h c hc with rfl | rfl | rfl <;> rfl

theorem takeDigits_append (h : Ends rest) :
    takeDigits (text ++ rest) = (takeDigits text).map fun read => (read.1, read.2 ++ rest) := by
  have hdigit := isDigit_of_ends h
  rw [takeDigits, takeDigits, Text.takeWhile_append_of_head hdigit,
    Text.dropWhile_append_of_head hdigit]
  split <;> rfl

theorem takeWhole_append (h : Ends rest) :
    takeWhole (text ++ rest) = (takeWhole text).map fun read => (read.1, read.2 ++ rest) := by
  cases text with
  | nil =>
    cases rest with
    | nil => rfl
    | cons c rest => rcases h c rfl with rfl | rfl | rfl <;> rfl
  | cons c text =>
    by_cases hc : c = '0'
    · subst hc; rfl
    · have hplain (more : List Char) : takeWhole (c :: more) = takeDigits (c :: more) := by
        simp [takeWhole, hc]
      rw [List.cons_append, hplain, hplain, ← List.cons_append, takeDigits_append h]

theorem takeFraction_append (h : Ends rest) :
    takeFraction (text ++ rest) = (takeFraction text).map fun read => (read.1, read.2 ++ rest) := by
  cases text with
  | nil =>
    cases rest with
    | nil => rfl
    | cons c rest => rcases h c rfl with rfl | rfl | rfl <;> rfl
  | cons c text =>
    by_cases hc : c = '.'
    · subst hc
      rw [List.cons_append, takeFraction, takeFraction, takeDigits_append h, Option.map_map,
        Option.map_map]
      rfl
    · simp [takeFraction, hc]

theorem takeSignedDigits_append (h : Ends rest) : takeSignedDigits (text ++ rest) =
    (takeSignedDigits text).map fun read => (read.1, read.2 ++ rest) := by
  cases text with
  | nil =>
    cases rest with
    | nil => rfl
    | cons c rest => rcases h c rfl with rfl | rfl | rfl <;> rfl
  | cons c text =>
    by_cases hminus : c = '-'
    · subst hminus
      rw [List.cons_append, takeSignedDigits, takeSignedDigits, takeDigits_append h,
        Option.map_map, Option.map_map]
      rfl
    · by_cases hplus : c = '+'
      · subst hplus
        rw [List.cons_append, takeSignedDigits, takeSignedDigits, takeDigits_append h,
          Option.map_map, Option.map_map]
        rfl
      · have hplain (more : List Char) : takeSignedDigits (c :: more) =
            (takeDigits (c :: more)).map fun read => ((false, read.1), read.2) := by
          simp [takeSignedDigits, hminus, hplus]
        rw [List.cons_append, hplain, hplain, ← List.cons_append, takeDigits_append h,
          Option.map_map, Option.map_map]
        rfl

theorem takeExponent_append (h : Ends rest) :
    takeExponent (text ++ rest) = (takeExponent text).map fun read => (read.1, read.2 ++ rest) := by
  cases text with
  | nil =>
    cases rest with
    | nil => rfl
    | cons c rest => rcases h c rfl with rfl | rfl | rfl <;> rfl
  | cons c text =>
    by_cases hc : c = 'e' ∨ c = 'E'
    · have hmark (more : List Char) : takeExponent (c :: more) =
          (takeSignedDigits more).map fun read => (some read.1, read.2) := by
        rcases hc with rfl | rfl <;> rfl
      rw [List.cons_append, hmark, hmark, takeSignedDigits_append h, Option.map_map,
        Option.map_map]
      rfl
    · obtain ⟨hsmall, hlarge⟩ := not_or.1 hc
      simp [takeExponent, hsmall, hlarge]

theorem takeUnsigned_append (negative : Bool) (h : Ends rest) :
    takeUnsigned negative (text ++ rest) =
      (takeUnsigned negative text).map fun read => (read.1, read.2 ++ rest) := by
  unfold takeUnsigned
  rw [takeWhole_append h]
  cases takeWhole text with
  | none => rfl
  | some whole =>
    simp only [Option.map_some, Option.bind_eq_bind, Option.bind_some, takeFraction_append h]
    cases takeFraction whole.2 with
    | none => rfl
    | some fraction =>
      simp only [Option.map_some, Option.bind_some, takeExponent_append h]
      cases takeExponent fraction.2 <;> rfl

/-- **A number ends where a mark follows.** -/
theorem takeNumeral_append (h : Ends rest) :
    takeNumeral (text ++ rest) = (takeNumeral text).map fun read => (read.1, read.2 ++ rest) := by
  cases text with
  | nil =>
    cases rest with
    | nil => rfl
    | cons c rest => rcases h c rfl with rfl | rfl | rfl <;> rfl
  | cons c text =>
    by_cases hc : c = '-'
    · subst hc
      exact takeUnsigned_append true h
    · have hplain (more : List Char) :
          takeNumeral (c :: more) = takeUnsigned false (c :: more) := by
        simp [takeNumeral, hc]
      rw [List.cons_append, hplain, hplain, ← List.cons_append, takeUnsigned_append false h]

/-- A number begins with its sign or a digit. -/
theorem head_of_takeNumeral {read : Numeral × List Char} (h : takeNumeral text = some read) :
    ∃ c tail, text = c :: tail ∧ (c = '-' ∨ c.isDigit = true) := by
  cases text with
  | nil => cases h
  | cons c tail =>
    refine ⟨c, tail, rfl, or_iff_not_imp_left.2 fun hminus => ?_⟩
    by_contra hdigit
    have hzero : c ≠ '0' := by rintro rfl; exact hdigit rfl
    simp [takeNumeral, takeUnsigned, takeWhole, takeDigits, hminus, hzero, hdigit] at h

theorem next_of_takeNumeral {numeral : Numeral} (h : takeNumeral text = some (numeral, rest)) :
    Token.next text = some (.scalar numeral.value, rest) := by
  obtain ⟨c, tail, rfl, hc⟩ := head_of_takeNumeral h
  unfold Token.next
  split
  case h_11 => rw [h]; rfl
  all_goals
    rename_i heq
    obtain ⟨rfl, rfl⟩ := List.cons.inj heq
    exact absurd hc (by decide)

theorem takeWhole_digitsOf (n : Nat) :
    takeWhole (Decimal.digitsOf n) = some (Decimal.digitsOf n, []) := by
  by_cases hn : n = 0
  · subst hn; rfl
  · obtain ⟨c, digits, heq, hzero, -⟩ := Decimal.digitsOf_eq_cons hn
    have hall : ∀ d ∈ c :: digits, d.isDigit = true :=
      heq ▸ fun d hd => Decimal.isDigit_of_mem_digitsOf hd
    have hplain : takeWhole (c :: digits) = takeDigits (c :: digits) := by
      simp [takeWhole, hzero]
    rw [heq, hplain, takeDigits, ← List.append_nil (c :: digits),
      List.takeWhile_append_of_pos hall, List.dropWhile_append_of_pos hall]
    rfl

theorem takeUnsigned_digitsOf (negative : Bool) (n : Nat) :
    takeUnsigned negative (Decimal.digitsOf n) =
      some (⟨negative, Decimal.digitsOf n, none, none⟩, []) := by
  simp [takeUnsigned, takeWhole_digitsOf, takeFraction, takeExponent]

theorem takeNumeral_digitsOf (n : Nat) : takeNumeral (Decimal.digitsOf n) =
    some (⟨false, Decimal.digitsOf n, none, none⟩, []) := by
  rw [← takeUnsigned_digitsOf]
  cases hdigits : Decimal.digitsOf n with
  | nil => rfl
  | cons c digits =>
    have hc : c.isDigit = true := Decimal.isDigit_of_mem_digitsOf (hdigits ▸ List.mem_cons_self ..)
    have hminus : c ≠ '-' := by rintro rfl; cases hc
    simp [takeNumeral, hminus]

/-- **A whole number of 64 bits is read back.** -/
theorem takeNumeral_writeInt {n : Int} (hlow : Decimal.minSigned ≤ n)
    (hhigh : n ≤ Decimal.maxUnsigned) : ∃ numeral : Numeral,
      takeNumeral (Decimal.writeInt n).toList = some (numeral, []) ∧
      numeral.value = .integer n := by
  have hvalue : Nat.ofDigitChars 10 (Decimal.digitsOf n.natAbs) 0 = n.natAbs :=
    Nat.ofDigitChars_ten_toDigits
  rw [Decimal.toList_writeInt, Decimal.signed]
  by_cases hneg : n < 0
  · refine ⟨⟨true, Decimal.digitsOf n.natAbs, none, none⟩, ?_, ?_⟩
    · rw [if_pos hneg]
      exact takeUnsigned_digitsOf true n.natAbs
    · have hzero : n.natAbs ≠ 0 := by omega
      have hfits : ¬0x8000000000000000 < n.natAbs := by unfold Decimal.minSigned at hlow; omega
      have hsame : 0 - (n.natAbs : Int) = n := by omega
      simp only [Numeral.value, hvalue, Option.isSome_none, Bool.or_false, Bool.false_eq_true,
        if_false, if_true, hzero, hfits, decide_false, hsame]
  · refine ⟨⟨false, Decimal.digitsOf n.natAbs, none, none⟩, ?_, ?_⟩
    · rw [if_neg hneg, List.nil_append]
      exact takeNumeral_digitsOf n.natAbs
    · have hfits : ¬Decimal.maxUnsigned < n.natAbs := by omega
      have hsame : (n.natAbs : Int) = n := by omega
      simp only [Numeral.value, hvalue, Option.isSome_none, Bool.or_false, Bool.false_eq_true,
        if_false, hfits, hsame]

end Numbers

/-- The double that a text is, if it is a number with a point or an exponent. -/
def readDouble? (text : List Char) : Option Float :=
  match takeNumeral text with
  | some (numeral, []) =>
    if numeral.fraction.isSome || numeral.exponent.isSome then numeral.toFloat else none
  | _ => none

/-- **Whether a double is read back** from its shortest digits. -/
def ReadsBack (x : Float) : Prop := readDouble? (layout.write x).toList = some x

instance (x : Float) : Decidable (ReadsBack x) :=
  inferInstanceAs (Decidable (readDouble? (layout.write x).toList = some x))

/-- Usual quantiles are read back. -/
example : ReadsBack 0.5 ∧ ReadsBack 0.95 ∧ ReadsBack 0.99 := by decide +kernel

/-- **Not every double is read back**, although each has digits of its own. -/
theorem exists_not_readsBack : ∃ x, Decimal.isFinite x = true ∧ ¬ReadsBack x :=
  ⟨2.7715077941825975e-163, by decide +kernel, by decide +kernel⟩

theorem takeNumeral_of_readsBack {x : Float} (h : ReadsBack x) : ∃ numeral : Numeral,
    takeNumeral (layout.write x).toList = some (numeral, []) ∧ numeral.value = .float x := by
  unfold ReadsBack readDouble? at h
  split at h
  · next numeral hread =>
    refine ⟨numeral, hread, ?_⟩
    split at h
    · next hpointed => rw [Numeral.value, if_pos hpointed, h]
    · cases h
  · cases h

/-! ### Tokens -/

/-- Whether a scalar other than a text is read back. -/
def ScalarLegible : Json → Prop
  | null | bool _ => True
  | integer n => Decimal.minSigned ≤ n ∧ n ≤ Decimal.maxUnsigned
  | float x => ReadsBack x
  | _ => False

/-- Whether a token is read back where a mark follows. -/
def Token.Legible : Token → Prop
  | text value => value.isSome = true
  | scalar value => ScalarLegible value
  | _ => True

/-- Whether a token is a scalar. -/
def Token.isScalar : Token → Bool
  | scalar _ => true
  | _ => false

section Scalars
variable {value : Json} {rest : List Char}

theorem next_scalarText (h : ScalarLegible value) (hrest : Ends rest) :
    Token.next (scalarText value ++ rest) = some (.scalar value, rest) := by
  have hnumber {text : List Char} {numeral : Numeral}
      (hread : takeNumeral text = some (numeral, [])) (hvalue : numeral.value = value) :
      Token.next (text ++ rest) = some (.scalar value, rest) := by
    rw [← hvalue]
    apply next_of_takeNumeral
    rw [takeNumeral_append hrest, hread]
    rfl
  cases value with
  | null => rfl
  | bool b => cases b <;> rfl
  | integer n =>
    obtain ⟨numeral, hread, hvalue⟩ := takeNumeral_writeInt h.1 h.2
    exact hnumber hread hvalue
  | float x =>
    obtain ⟨numeral, hread, hvalue⟩ := takeNumeral_of_readsBack h
    exact hnumber hread hvalue
  | string _ | array _ | object _ | unreadable => exact h.elim

theorem head_scalarText (h : ScalarLegible value) :
    ∃ c tail, scalarText value = c :: tail ∧ isSpace c = false := by
  have hnumber {text : List Char} {read : Numeral × List Char}
      (hread : takeNumeral text = some read) : ∃ c tail, text = c :: tail ∧ isSpace c = false := by
    obtain ⟨c, tail, htext, hc⟩ := head_of_takeNumeral hread
    refine ⟨c, tail, htext, Bool.eq_false_iff.2 fun hspace => ?_⟩
    simp only [isSpace, Bool.or_eq_true, beq_iff_eq] at hspace
    rcases hspace with ((rfl | rfl) | rfl) | rfl <;> exact absurd hc (by decide)
  cases value with
  | null => exact ⟨_, _, rfl, rfl⟩
  | bool b => cases b <;> exact ⟨_, _, rfl, rfl⟩
  | integer n =>
    obtain ⟨numeral, hread, -⟩ := takeNumeral_writeInt h.1 h.2
    exact hnumber hread
  | float x =>
    obtain ⟨numeral, hread, -⟩ := takeNumeral_of_readsBack h
    exact hnumber hread
  | string _ | array _ | object _ | unreadable => exact h.elim

end Scalars

namespace Token
variable {token : Token} {row : List Token}

/-- **A token is read back** where it ends. -/
theorem next_write {rest : List Char} (h : token.Legible)
    (hrest : token.isScalar = true → Ends rest) :
    next (token.write ++ rest) = some (token, rest) := by
  cases token with
  | scalar value => exact next_scalarText h (hrest rfl)
  | text value =>
    obtain ⟨text, rfl⟩ := Option.isSome_iff_exists.1 h
    obtain ⟨pieces, hread, hjoin⟩ := takePieces_quote text.toList rest
    have hquote : quote text ++ rest = '"' :: (text.toList.flatMap escape ++ '"' :: rest) := by
      simp [quote]
    rw [write, Option.getD_some, hquote, next, hread]
    simp only [Option.map_some, hjoin, String.ofList_toList]
  | openArray | closeArray | openObject | closeObject | comma | colon => rfl

/-- No token begins with a space. -/
theorem head_write (h : token.Legible) : ∃ c tail, token.write = c :: tail ∧ isSpace c = false := by
  cases token with
  | scalar value => exact head_scalarText h
  | text value => exact ⟨_, _, rfl, rfl⟩
  | openArray | closeArray | openObject | closeObject | comma | colon => exact ⟨_, _, rfl, rfl⟩

/-- Whether a mark that separates values comes first, if anything does. -/
def Separates (row : List Token) : Prop :=
  ∀ token ∈ row.head?, token = comma ∨ token = closeArray ∨ token = closeObject

theorem ends_of_separates (h : Separates row) : Ends (row.flatMap write) := by
  cases row with
  | nil => rintro _ ⟨⟩
  | cons token row =>
    rcases h token rfl with rfl | rfl | rfl <;> rintro _ ⟨⟩ <;> simp

/-- Whether each token of a row is read back where the next begins. -/
def LegibleRow : List Token → Prop
  | [] => True
  | token :: row => token.Legible ∧ (token.isScalar = true → Separates row) ∧ LegibleRow row

theorem lexUpTo_row {fuel : Nat} (h : LegibleRow row) (hfuel : row.length ≤ fuel) :
    lexUpTo fuel (row.flatMap write) = some row := by
  induction row generalizing fuel with
  | nil => cases fuel <;> rfl
  | cons token row ih =>
    obtain ⟨htoken, hscalar, hrow⟩ := h
    obtain ⟨fuel, rfl⟩ : ∃ less, fuel = less + 1 := ⟨fuel - 1, by simp at hfuel; omega⟩
    have hrest : lexUpTo fuel (row.flatMap write) = some row := ih hrow (by simpa using hfuel)
    have hnext : next (token.write ++ row.flatMap write) = some (token, row.flatMap write) :=
      next_write htoken fun his => ends_of_separates (hscalar his)
    obtain ⟨c, tail, hwrite, hspace⟩ := head_write htoken
    rw [hwrite, List.cons_append] at hnext
    rw [List.flatMap_cons, hwrite, List.cons_append, lexUpTo,
      List.dropWhile_cons_of_neg (by simp [hspace])]
    simp only [hnext, hrest, Option.bind_eq_bind, Option.bind_some]
    rfl

/-- **A row of tokens is read back.** -/
theorem lex_row (h : LegibleRow row) : lex (row.flatMap write) = some row := by
  refine lexUpTo_row h ?_
  induction row with
  | nil => exact Nat.zero_le _
  | cons token row ih =>
    obtain ⟨c, tail, hwrite, -⟩ := head_write h.1
    have hrow := ih h.2.2
    rw [List.flatMap_cons, hwrite, List.length_append, List.length_cons, List.length_cons]
    omega

end Token

/-! ### Values -/

/-- **Whether a value can be written** so that it is read back: its scalars are read
back, and containers are within one another no deeper than a bound. -/
inductive WritableIn : Nat → Json → Prop
  /-- A scalar other than a text. -/
  | scalar {n : Nat} {value : Json} (legible : ScalarLegible value) : WritableIn n value
  | string {n : Nat} (text : String) : WritableIn n (.string text)
  /-- An array of what can be written. -/
  | array {n : Nat} {items : List Json} (within : ∀ item ∈ items, WritableIn n item) :
      WritableIn (n + 1) (.array items)
  /-- An object of what can be written. -/
  | object {n : Nat} {members : List (String × Json)}
      (within : ∀ member ∈ members, WritableIn n member.2) : WritableIn (n + 1) (.object members)

theorem tokens_of_scalar {value : Json} (h : ScalarLegible value) :
    value.tokens = [.scalar value] := by
  cases value with
  | null | bool _ | integer _ | float _ => simp [tokens]
  | string _ | array _ | object _ | unreadable => exact h.elim

section Rows
variable {tail : List Token}

theorem legible_itemTokens {items : List Json}
    (h : ∀ item ∈ items, ∀ tail, Token.LegibleRow tail → Token.Separates tail →
      Token.LegibleRow (item.tokens ++ tail)) (htail : Token.LegibleRow tail) :
    Token.LegibleRow (itemTokens items ++ tail) ∧ Token.Separates (itemTokens items ++ tail) := by
  induction items with
  | nil => exact ⟨⟨trivial, nofun, htail⟩, by rintro _ ⟨⟩; simp⟩
  | cons item items ih =>
    obtain ⟨hitem, hitems⟩ := List.forall_mem_cons.1 h
    obtain ⟨hrow, hsep⟩ := ih hitems
    refine ⟨⟨trivial, nofun, ?_⟩, by rintro _ ⟨⟩; simp⟩
    show Token.LegibleRow (item.tokens ++ itemTokens items ++ tail)
    rw [List.append_assoc]
    exact hitem _ hrow hsep

theorem legible_memberTokens {members : List (String × Json)}
    (h : ∀ member ∈ members, ∀ tail, Token.LegibleRow tail → Token.Separates tail →
      Token.LegibleRow (member.2.tokens ++ tail)) (htail : Token.LegibleRow tail) :
    Token.LegibleRow (memberTokens members ++ tail) ∧
      Token.Separates (memberTokens members ++ tail) := by
  induction members with
  | nil => exact ⟨⟨trivial, nofun, htail⟩, by rintro _ ⟨⟩; simp⟩
  | cons member members ih =>
    obtain ⟨hmember, hmembers⟩ := List.forall_mem_cons.1 h
    obtain ⟨hrow, hsep⟩ := ih hmembers
    refine ⟨⟨trivial, nofun, rfl, nofun, trivial, nofun, ?_⟩, by rintro _ ⟨⟩; simp⟩
    show Token.LegibleRow (member.2.tokens ++ memberTokens members ++ tail)
    rw [List.append_assoc]
    exact hmember _ hrow hsep

/-- **The tokens of a value are read back**, whatever ends or separates it. -/
theorem legible_tokens {n : Nat} {value : Json} (h : WritableIn n value)
    (htail : Token.LegibleRow tail) (hsep : Token.Separates tail) :
    Token.LegibleRow (value.tokens ++ tail) := by
  induction h generalizing tail with
  | scalar hlegible =>
    rw [tokens_of_scalar hlegible]
    exact ⟨hlegible, fun _ => hsep, htail⟩
  | string text => exact ⟨rfl, nofun, htail⟩
  | @array n items hwithin ih =>
    cases items with
    | nil => exact ⟨trivial, nofun, trivial, nofun, htail⟩
    | cons item items =>
      obtain ⟨hitem, hitems⟩ := List.forall_mem_cons.1 ih
      obtain ⟨hrow, hsep⟩ := legible_itemTokens (fun item hmem tail => hitems item hmem) htail
      refine ⟨trivial, nofun, ?_⟩
      show Token.LegibleRow (item.tokens ++ itemTokens items ++ tail)
      rw [List.append_assoc]
      exact hitem hrow hsep
  | @object n members hwithin ih =>
    cases members with
    | nil => exact ⟨trivial, nofun, trivial, nofun, htail⟩
    | cons member members =>
      obtain ⟨hmember, hmembers⟩ := List.forall_mem_cons.1 ih
      obtain ⟨hrow, hsep⟩ :=
        legible_memberTokens (fun member hmem tail => hmembers member hmem) htail
      refine ⟨trivial, nofun, rfl, nofun, trivial, nofun, ?_⟩
      show Token.LegibleRow (member.2.tokens ++ memberTokens members ++ tail)
      rw [List.append_assoc]
      exact hmember hrow hsep

end Rows

namespace Progress
variable {n : Nat} {frames : List Frame} {tail : List Token}

theorem run_cons (p : Progress) (token : Token) (tokens : List Token) :
    p.run (token :: tokens) = (p.step token).bind fun q => q.run tokens := rfl

/-- What is read within open containers, the innermost of which may hold so many
others. -/
def ReadsWithin (n : Nat) (value : Json) : Prop :=
  ∀ {frames : List Frame} {tail : List Token}, frames.length + n ≤ depthLimit →
    (Progress.mk frames .value).run (value.tokens ++ tail) = (push frames value).run tail

theorem head_tokens (value : Json) :
    ∃ token row, value.tokens = token :: row ∧ token ≠ .closeArray := by
  have hscalar {scalar : Json} (h : scalar.tokens = [.scalar scalar]) :
      ∃ token row, scalar.tokens = token :: row ∧ token ≠ .closeArray := ⟨_, _, h, nofun⟩
  cases value with
  | null | bool _ | integer _ | float _ | unreadable => exact hscalar (by simp [tokens])
  | string text => exact ⟨_, _, rfl, nofun⟩
  | array items => cases items <;> exact ⟨_, _, rfl, nofun⟩
  | object members => cases members <;> exact ⟨_, _, rfl, nofun⟩

/-- The first item of an array is read like any value. -/
theorem run_firstItem (value : Json) :
    (Progress.mk frames .firstItem).run (value.tokens ++ tail) =
      (Progress.mk frames .value).run (value.tokens ++ tail) := by
  obtain ⟨token, row, heq, hclose⟩ := head_tokens value
  have hstep : (Progress.mk frames .firstItem).step token =
      (Progress.mk frames .value).step token := by
    cases token <;> first | rfl | exact absurd rfl hclose
  rw [heq, List.cons_append, run_cons, run_cons, hstep]

theorem pushContainer_of_lt {value : Json} (h : frames.length < depthLimit) :
    pushContainer frames value = push frames value := by
  rw [pushContainer, if_pos h]

theorem run_itemTokens {items read : List Json} (h : ∀ item ∈ items, ReadsWithin n item)
    (hdepth : frames.length + (n + 1) ≤ depthLimit) :
    (Progress.mk (.array read :: frames) .separator).run (itemTokens items ++ tail) =
      (push frames (.array (read.reverse ++ items))).run tail := by
  induction items generalizing read with
  | nil =>
    have hclose : (Progress.mk (.array read :: frames) .separator).step .closeArray =
        some (pushContainer frames (.array read.reverse)) := rfl
    rw [itemTokens, List.singleton_append, run_cons, hclose, pushContainer_of_lt (by omega),
      List.append_nil]
    rfl
  | cons item items ih =>
    obtain ⟨hitem, hitems⟩ := List.forall_mem_cons.1 h
    have hcomma : (Progress.mk (.array read :: frames) .separator).step .comma =
        some ⟨.array read :: frames, .value⟩ := rfl
    have hinner : (Frame.array read :: frames).length + n ≤ depthLimit := by
      rw [List.length_cons]; omega
    rw [itemTokens, List.append_assoc, List.cons_append, run_cons, hcomma, Option.bind_some,
      hitem hinner, push, ih hitems, List.reverse_cons, List.append_assoc, List.singleton_append]

theorem run_memberTokens {members read : List (String × Json)} {name : String}
    (h : ∀ member ∈ members, ReadsWithin n member.2)
    (hdepth : frames.length + (n + 1) ≤ depthLimit) :
    (Progress.mk (.object read name true :: frames) .separator).run (memberTokens members ++ tail) =
      (push frames (.object (read.reverse ++ members))).run tail := by
  induction members generalizing read name with
  | nil =>
    have hclose : (Progress.mk (.object read name true :: frames) .separator).step .closeObject =
        some (pushContainer frames (.object read.reverse)) := rfl
    rw [memberTokens, List.singleton_append, run_cons, hclose, pushContainer_of_lt (by omega),
      List.append_nil]
    rfl
  | cons member members ih =>
    obtain ⟨hmember, hmembers⟩ := List.forall_mem_cons.1 h
    have hinner : (Frame.object read member.1 true :: frames).length + n ≤ depthLimit := by
      rw [List.length_cons]; omega
    have hname (row : List Token) : (Progress.mk (.object read name true :: frames) .separator).run
        (.comma :: .text (some member.1) :: .colon :: row) =
          (Progress.mk (.object read member.1 true :: frames) .value).run row := rfl
    rw [memberTokens, List.append_assoc, List.cons_append, List.cons_append, List.cons_append,
      hname, hmember hinner, push, ih hmembers, List.reverse_cons, List.append_assoc,
      List.singleton_append]

/-- **The tokens of a value are read in one go.** -/
theorem run_tokens {value : Json} (h : WritableIn n value) : ReadsWithin n value := by
  induction h with
  | scalar hlegible =>
    intro frames tail hdepth
    rw [tokens_of_scalar hlegible]
    rfl
  | string text => intro frames tail hdepth; rfl
  | @array n items hwithin ih =>
    intro frames tail hdepth
    have hopen (row : List Token) : (Progress.mk frames .value).run (.openArray :: row) =
        (Progress.mk (.array [] :: frames) .firstItem).run row := rfl
    cases items with
    | nil =>
      rw [tokens, List.cons_append, hopen]
      have hclose : (Progress.mk (.array [] :: frames) .firstItem).step .closeArray =
        some (pushContainer frames (.array [])) := rfl
      rw [List.singleton_append, run_cons, hclose, pushContainer_of_lt (by omega)]
      rfl
    | cons item items =>
      obtain ⟨hitem, hitems⟩ := List.forall_mem_cons.1 ih
      have hinner : (Frame.array [] :: frames).length + n ≤ depthLimit := by
        rw [List.length_cons]; omega
      rw [tokens, List.append_assoc, List.cons_append, hopen, run_firstItem, hitem hinner, push,
        run_itemTokens hitems hdepth]
      rfl
  | @object n members hwithin ih =>
    intro frames tail hdepth
    cases members with
    | nil =>
      have hempty : (Progress.mk frames .value).run (.openObject :: .closeObject :: tail) =
        (pushContainer frames (.object [])).run tail := rfl
      rw [tokens, List.cons_append, List.singleton_append, hempty, pushContainer_of_lt (by omega)]
    | cons member members =>
      obtain ⟨hmember, hmembers⟩ := List.forall_mem_cons.1 ih
      have hinner : (Frame.object [] member.1 true :: frames).length + n ≤ depthLimit := by
        rw [List.length_cons]; omega
      have hname (row : List Token) : (Progress.mk frames .value).run
          (.openObject :: .text (some member.1) :: .colon :: row) =
            (Progress.mk (.object [] member.1 true :: frames) .value).run row := rfl
      rw [tokens, List.append_assoc, List.cons_append, List.cons_append, List.cons_append, hname,
        hmember hinner, push, run_memberTokens hmembers hdepth]
      rfl

end Progress

/-- **A value that can be written is read back.** -/
theorem parse_write {n : Nat} {value : Json} (h : WritableIn n value)
    (hdepth : n ≤ Progress.depthLimit) : parse value.write = some value := by
  have hrow : Token.LegibleRow value.tokens := by
    have hall : Token.LegibleRow (value.tokens ++ []) := legible_tokens h trivial nofun
    rwa [List.append_nil] at hall
  have hrun : Progress.start.run value.tokens = some ⟨[], .finished value⟩ := by
    have hall : Progress.start.run (value.tokens ++ []) = (Progress.push [] value).run [] :=
      Progress.run_tokens h (by simpa using hdepth)
    rwa [List.append_nil] at hall
  rw [parse, write, String.toList_ofList, Token.lex_row hrow, Option.bind_eq_bind, Option.bind_some,
    ofTokens, hrun]
  rfl

end Json
end RpcMetrics
