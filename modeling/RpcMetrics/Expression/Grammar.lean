import RpcMetrics.Expression.Scan

/-!
# The grammar of expressions

What an expression is, said without reading it: operands are joined by operators, and an operand
is a number, a name, an expression in parentheses, or any of these after minus signs.  A text
spells a row of tokens if it is made of their texts with blanks anywhere between them.

**Reading agrees with the grammar on tokens** as far as it goes here: whatever the grammar allows
is read to its end, and gives its names (`Joined.run`, `Operand.run`).  **Tokens are parts of the
text** (`eq_text_append_of_next`), each spelled as its kind demands (`spelled_of_next`).
-/
namespace RpcMetrics.Expression

/-! ### Rows of tokens -/

mutual

/-- Operands joined by operators, with the names in them. -/
inductive Joined : List Token → List String → Prop
  | single {tokens : List Token} {names : List String} (operand : Operand tokens names) :
      Joined tokens names
  | more {left right : List Token} {first second : List String} (op : Operator)
      (joined : Joined left first) (operand : Operand right second) :
      Joined (left ++ .operator op :: right) (first ++ second)

/-- An operand, with the names in it. -/
inductive Operand : List Token → List String → Prop
  /-- An operand after a minus sign. -/
  | negated {tokens : List Token} {names : List String} (operand : Operand tokens names) :
      Operand (.operator .minus :: tokens) names
  | number (text : List Char) : Operand [.number text] []
  | name (text : List Char) : Operand [.name text] [String.ofList text]
  | grouped {tokens : List Token} {names : List String} (joined : Joined tokens names) :
      Operand (.opening :: (tokens ++ [.closing])) names

end

/-- The progress after an operand with these names. -/
def Progress.after (p : Progress) (names : List String) : Progress :=
  ⟨p.depth, false, names.foldl Data.NameSet.insert p.names⟩

mutual

/-- **Joined operands are read to their end** where an operand is expected. -/
theorem Joined.run {tokens : List Token} {names : List String} (h : Joined tokens names)
    (p : Progress) (hexpects : p.expectsOperand = true) : p.run tokens = .ok (p.after names) := by
  match h with
  | .single hoperand => exact hoperand.run p hexpects
  | .more op hjoined hoperand =>
    rw [run_append, hjoined.run p hexpects]
    simp only [Except.bind, run_cons, Progress.step, Progress.after, Bool.false_and,
      Bool.false_eq_true, if_false]
    rw [hoperand.run _ rfl, Progress.after, List.foldl_append]

/-- **An operand is read to its end** where one is expected. -/
theorem Operand.run {tokens : List Token} {names : List String} (h : Operand tokens names)
    (p : Progress) (hexpects : p.expectsOperand = true) : p.run tokens = .ok (p.after names) := by
  match h with
  | .negated hoperand =>
    have hminus : p.step (.operator .minus) = .ok p := by
      cases p
      simp_all [Progress.step]
    rw [run_cons, hminus]
    exact hoperand.run p hexpects
  | .number text => simp [Progress.step, Progress.after, hexpects, Except.bind]
  | .name text => simp [Progress.step, Progress.after, hexpects, Except.bind]
  | .grouped hjoined =>
    simp only [run_cons, run_append, Progress.step, hexpects, if_true, Except.bind]
    rw [hjoined.run ⟨p.depth + 1, true, p.names⟩ rfl]
    simp [Progress.after]

end

/-! ### Texts -/

/-- Whether the text is a row of decimal digits. -/
def IsDigits (text : List Char) : Prop := text ≠ [] ∧ ∀ c ∈ text, Text.isDecimalDigit c = true

/-- Whether the text is a number: digits, or digits on both sides of a point. -/
def IsNumber (text : List Char) : Prop :=
  IsDigits text ∨ ∃ whole fraction, IsDigits whole ∧ IsDigits fraction
    ∧ text = whole ++ '.' :: fraction

/-- Whether the text is a name. -/
def IsName : List Char → Prop
  | [] => False
  | c :: rest => isNameStart c = true ∧ ∀ d ∈ rest, isNameChar d = true

/-- Whether the text of a token is of its kind. -/
def Token.Spelled : Token → Prop
  | number text => IsNumber text
  | name text => IsName text
  | _ => True

/-- A text made of the texts of tokens, with blanks before, between and after them. -/
inductive Spells : List Token → List Char → Prop
  /-- No tokens. -/
  | nil {blanks : List Char} (blank : ∀ c ∈ blanks, Text.isBlank c = true) : Spells [] blanks
  | cons {blanks rest : List Char} {token : Token} {tokens : List Token}
      (blank : ∀ c ∈ blanks, Text.isBlank c = true) (spelled : token.Spelled)
      (others : Spells tokens rest) : Spells (token :: tokens) (blanks ++ token.text ++ rest)

/-- Whether a text is an expression with these names. -/
def IsExpression (text : List Char) (names : List String) : Prop :=
  ∃ tokens, Spells tokens text ∧ Joined tokens names

/-- A number is taken from the front of the text. -/
theorem takeNumber_append (text : List Char) :
    (takeNumber text).1 ++ (takeNumber text).2 = text := by
  have hwhole := List.takeWhile_append_dropWhile (p := Text.isDecimalDigit) (l := text)
  rw [takeNumber]
  split
  case h_1 d more heq =>
    split
    · rw [heq] at hwhole
      simpa [List.takeWhile_append_dropWhile] using hwhole
    · rwa [heq] at hwhole
  case h_2 => exact hwhole

/-- What is taken from a text that begins with a digit is a number. -/
theorem isNumber_takeNumber {c : Char} {rest : List Char} (h : Text.isDecimalDigit c = true) :
    IsNumber (takeNumber (c :: rest)).1 := by
  have hwhole : IsDigits ((c :: rest).takeWhile Text.isDecimalDigit) := by
    refine ⟨by simp [List.takeWhile_cons_of_pos h], fun d hd => ?_⟩
    exact (List.all_eq_true.1 List.all_takeWhile) d hd
  rw [takeNumber]
  split
  case h_1 d more heq =>
    split
    case isTrue hd =>
      refine .inr ⟨_, d :: more.takeWhile Text.isDecimalDigit, hwhole, ⟨by simp, ?_⟩, rfl⟩
      refine List.forall_mem_cons.2 ⟨hd, fun e he => ?_⟩
      exact (List.all_eq_true.1 List.all_takeWhile) e he
    case isFalse => exact .inl hwhole
  case h_2 => exact .inl hwhole

/-- The token of a character is spelled by it. -/
theorem text_of_ofChar? {c : Char} {token : Token} (h : Token.ofChar? c = some token) :
    token.text = [c] := by
  unfold Token.ofChar? at h
  split at h <;> cases h <;> rfl

variable {text rest : List Char} {token : Token}

/-- **A token is the front of the text** it is read from. -/
theorem eq_text_append_of_next (h : Token.next text = some (token, rest)) :
    text = token.text ++ rest := by
  match text with
  | [] => simp [Token.next] at h
  | c :: tail =>
    rw [Token.next] at h
    split at h
    · cases h
      exact (takeNumber_append (c :: tail)).symm
    · split at h
      · cases h
        simp [Token.text]
      · obtain ⟨single, hsingle, heq⟩ := Option.map_eq_some_iff.1 h
        cases heq
        rw [text_of_ofChar? hsingle]
        rfl

/-- **A token is spelled as its kind demands.** -/
theorem spelled_of_next (h : Token.next text = some (token, rest)) : token.Spelled := by
  match text with
  | [] => simp [Token.next] at h
  | c :: tail =>
    rw [Token.next] at h
    split at h
    case isTrue hdigit =>
      cases h
      exact isNumber_takeNumber hdigit
    case isFalse =>
      split at h
      case isTrue hletter =>
        cases h
        exact ⟨hletter, fun d hd => (List.all_eq_true.1 List.all_takeWhile) d hd⟩
      case isFalse =>
        obtain ⟨single, hsingle, heq⟩ := Option.map_eq_some_iff.1 h
        cases heq
        unfold Token.ofChar? at hsingle
        split at hsingle <;> cases hsingle <;> trivial

end RpcMetrics.Expression
