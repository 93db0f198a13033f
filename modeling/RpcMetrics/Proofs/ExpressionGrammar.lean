import Mathlib
import RpcMetrics.Expression.Grammar
import RpcMetrics.Proofs.DraftChecks
import RpcMetrics.Text.Cut

/-! # The check of expressions and their grammar

The check keeps of the tokens before nothing but a number and a truth value: how
many parentheses are open, and whether an operand comes next.  The grammar says
of the same tokens what they are the beginning of (`Begun`): for each open
parenthesis something that an operand completes, and within the innermost one
either the same or a whole expression.  The number and the truth value are the
shape of this, which every token that passes the check preserves (`Begun.step`);
so what is checked to its end is an expression (`joined_of_run`), and the
converse is `Joined.run`.

Texts are cut into tokens greedily, while the grammar lets any text be spelled in
any way.  They agree because two operands never meet in an expression
(`isChain_of_run`), and what may follow an operand instead does not go on with it
(`stops_of_spells`).

**A text is accepted iff it is an expression** (`aliases_exact`).
-/
namespace RpcMetrics
namespace Expression

/-! ### What tokens are the beginning of -/

/-- An operand completes the tokens to an expression. -/
def Awaits (tokens : List Token) (names : List String) : Prop :=
  ∀ {more : List Token} {new : List String},
    Operand more new → Joined (tokens ++ more) (names ++ new)

/-- **What tokens are the beginning of**, within so many open parentheses: of
something that an operand completes, or that may end here. -/
inductive Begun : Nat → Bool → List Token → List String → Prop
  | before {tokens : List Token} {names : List String} (awaits : Awaits tokens names) :
      Begun 0 true tokens names
  | after {tokens : List Token} {names : List String} (joined : Joined tokens names) :
      Begun 0 false tokens names
  | within {depth : Nat} {expects : Bool} {outer inner : List Token} {first second : List String}
      (awaits : Awaits outer first) (begun : Begun depth expects inner second) :
      Begun (depth + 1) expects (outer ++ .opening :: inner) (first ++ second)

namespace Begun
variable {depth : Nat} {expects : Bool} {tokens more : List Token} {names new : List String}

theorem nil : Begun 0 true [] [] := .before fun hoperand => .single hoperand

theorem operand (h : Begun depth expects tokens names) (hexpects : expects = true)
    (hoperand : Operand more new) : Begun depth false (tokens ++ more) (names ++ new) := by
  induction h with
  | before hawaits => exact .after (hawaits hoperand)
  | after hjoined => cases hexpects
  | within hawaits _ ih =>
    rw [List.append_assoc, List.cons_append, List.append_assoc]
    exact .within hawaits (ih hexpects)

theorem operator (h : Begun depth expects tokens names) (op : Operator)
    (hfits : expects = false ∨ op = .minus) :
    Begun depth true (tokens ++ [.operator op]) names := by
  induction h with
  | before hawaits =>
    obtain rfl := hfits.resolve_left Bool.noConfusion
    refine .before fun {more new} hoperand => ?_
    rw [List.append_assoc]
    exact hawaits (.negated hoperand)
  | after hjoined =>
    refine .before fun {more new} hoperand => ?_
    rw [List.append_assoc]
    exact .more op hjoined hoperand
  | within hawaits _ ih =>
    rw [List.append_assoc, List.cons_append]
    exact .within hawaits (ih hfits)

theorem opening (h : Begun depth expects tokens names) (hexpects : expects = true) :
    Begun (depth + 1) true (tokens ++ [.opening]) names := by
  induction h with
  | @before tokens names hawaits =>
    rw [← List.append_nil names]
    exact .within hawaits .nil
  | after hjoined => cases hexpects
  | within hawaits _ ih =>
    rw [List.append_assoc, List.cons_append]
    exact .within hawaits (ih hexpects)

theorem closing (h : Begun depth expects tokens names) (hexpects : expects = false)
    (hdepth : depth ≠ 0) : Begun (depth - 1) false (tokens ++ [.closing]) names := by
  induction h with
  | before hawaits => cases hexpects
  | after hjoined => exact absurd rfl hdepth
  | @within depth expects outer inner first second hawaits hbegun ih =>
    rw [List.append_assoc, List.cons_append]
    cases hbegun with
    | before hinner => cases hexpects
    -- the innermost parenthesis is the one that closes
    | after hjoined => exact .after (hawaits (.grouped hjoined))
    | within hinner _ => exact .within hawaits (ih hexpects (Nat.succ_ne_zero _))

/-- **A token that passes the check goes on with what has begun.** -/
theorem step {p q : Progress} {token : Token}
    (h : Begun p.depth p.expectsOperand tokens names) (hnames : p.names = .ofList names)
    (hstep : p.step token = .ok q) :
    ∃ new, Begun q.depth q.expectsOperand (tokens ++ [token]) new ∧ q.names = .ofList new := by
  cases token with
  | number text =>
    rw [Progress.step] at hstep
    split at hstep
    · next hexpects =>
      obtain rfl := Except.ok.inj hstep
      exact ⟨names ++ [], h.operand hexpects (.number text), by rw [List.append_nil]; exact hnames⟩
    · cases hstep
  | name text =>
    rw [Progress.step] at hstep
    split at hstep
    · next hexpects =>
      obtain rfl := Except.ok.inj hstep
      refine ⟨names ++ [String.ofList text], h.operand hexpects (.name text), ?_⟩
      rw [Data.NameSet.ofList, List.foldl_append, List.foldl_cons, List.foldl_nil]
      exact congrArg (Data.NameSet.insert · _) hnames
    · cases hstep
  | operator op =>
    rw [Progress.step] at hstep
    split at hstep
    · cases hstep
    · next hfits =>
      obtain rfl := Except.ok.inj hstep
      refine ⟨names, h.operator op ?_, hnames⟩
      cases hexpects : p.expectsOperand with
      | false => exact Or.inl rfl
      | true => exact Or.inr (by simpa [hexpects] using hfits)
  | opening =>
    rw [Progress.step] at hstep
    split at hstep
    · next hexpects =>
      obtain rfl := Except.ok.inj hstep
      exact ⟨names, hexpects ▸ h.opening hexpects, hnames⟩
    · cases hstep
  | closing =>
    rw [Progress.step] at hstep
    split at hstep
    · cases hstep
    · next hfits =>
      obtain ⟨hexpects, hdepth⟩ := Bool.or_eq_false_iff.1 (Bool.not_eq_true _ ▸ hfits)
      obtain rfl := Except.ok.inj hstep
      exact ⟨names, hexpects ▸ h.closing hexpects (by simpa using hdepth), hnames⟩

/-- What tokens that pass the check are the beginning of. -/
theorem run {p q : Progress} (h : Begun p.depth p.expectsOperand tokens names)
    (hnames : p.names = .ofList names) (hrun : p.run more = .ok q) :
    ∃ new, Begun q.depth q.expectsOperand (tokens ++ more) new ∧ q.names = .ofList new := by
  induction more generalizing p tokens names with
  | nil =>
    obtain rfl := Except.ok.inj hrun
    exact ⟨names, by rwa [List.append_nil], hnames⟩
  | cons token more ih =>
    rw [run_cons] at hrun
    obtain ⟨next, hstep, hrest⟩ := bind_eq_ok_iff.1 hrun
    obtain ⟨new, hbegun, hnew⟩ := h.step hnames hstep
    obtain ⟨all, hall⟩ := ih hbegun hnew hrest
    rw [List.append_assoc] at hall
    exact ⟨all, hall⟩

end Begun

section Tokens
variable {tokens : List Token} {set : Data.NameSet}

theorem finish_eq_ok_iff {p : Progress} : p.finish = .ok set ↔
    p.expectsOperand = false ∧ p.depth = 0 ∧ p.names = set := by
  unfold Progress.finish
  cases p.expectsOperand with
  | true => simp
  | false =>
    by_cases hdepth : p.depth = 0
    · simp [hdepth]
    · simp [hdepth]

/-- **What is checked to its end is an expression.** -/
theorem joined_of_run {p : Progress} (hrun : Progress.start.run tokens = .ok p)
    (hfinish : p.finish = .ok set) : ∃ names, Joined tokens names ∧ set = .ofList names := by
  obtain ⟨hexpects, hdepth, rfl⟩ := finish_eq_ok_iff.1 hfinish
  obtain ⟨names, hbegun, hnames⟩ := Begun.nil.run (p := Progress.start) rfl hrun
  rw [hexpects, hdepth] at hbegun
  cases hbegun with
  | after hjoined => exact ⟨names, hjoined, hnames⟩

/-- **Tokens pass the check iff they are an expression**, and its names are what
the check gives. -/
theorem run_finish_eq_ok_iff : (Progress.start.run tokens).bind Progress.finish = .ok set ↔
    ∃ names, Joined tokens names ∧ set = .ofList names := by
  constructor
  · intro h
    obtain ⟨p, hrun, hfinish⟩ := bind_eq_ok_iff.1 h
    exact joined_of_run hrun hfinish
  · rintro ⟨names, hjoined, rfl⟩
    rw [hjoined.run Progress.start rfl]
    rfl

/-- Whether a token is an operand by itself. -/
def Token.isOperand : Token → Bool
  | number _ | name _ => true
  | _ => false

/-- **Two operands never meet** where the check passes. -/
theorem isChain_of_run {p q : Progress} (h : p.run tokens = .ok q) :
    tokens.IsChain fun left right => left.isOperand = true → right.isOperand = false := by
  induction tokens generalizing p with
  | nil => exact .nil
  | cons token tokens ih =>
    rw [run_cons] at h
    obtain ⟨next, hstep, hrest⟩ := bind_eq_ok_iff.1 h
    cases tokens with
    | nil => exact .singleton _
    | cons second tokens =>
      refine .cons_cons (fun hoperand => ?_) (ih hrest)
      have hexpects : next.expectsOperand = false := by
        cases token <;> simp_all [Token.isOperand, Progress.step]
        all_goals
          split at hstep
          · obtain rfl := Except.ok.inj hstep; rfl
          · cases hstep
      rw [run_cons] at hrest
      obtain ⟨_, hsecond, -⟩ := bind_eq_ok_iff.1 hrest
      cases second <;> simp_all [Token.isOperand, Progress.step]

end Tokens

/-! ### Where tokens end -/

section Characters
variable {c : Char}

/-- Classes whose ranges lie apart have no character in common. -/
theorem inRanges_eq_false {here there : Text.CodeRanges}
    (hapart : ∀ a ∈ here, ∀ b ∈ there, a.2 < b.1 ∨ b.2 < a.1)
    (h : Text.inRanges here c = true) : Text.inRanges there c = false := by
  obtain ⟨a, ha, hlow, hhigh⟩ := Text.inRanges_iff.1 h
  refine Bool.eq_false_iff.2 fun hthere => ?_
  obtain ⟨b, hb, hlow', hhigh'⟩ := Text.inRanges_iff.1 hthere
  rcases hapart a ha b hb with hbefore | hafter <;> omega

/-- The characters that names begin with. -/
def nameStartRanges : Text.CodeRanges := [(0x41, 0x5A), (0x5F, 0x5F), (0x61, 0x7A)]

/-- The characters that names go on with. -/
def nameRanges : Text.CodeRanges := (0x30, 0x39) :: nameStartRanges

theorem inRanges_of_isNameStart (h : isNameStart c = true) :
    Text.inRanges nameStartRanges c = true := by
  have hcases : (0x61 ≤ c.toNat ∧ c.toNat ≤ 0x7A) ∨ (0x41 ≤ c.toNat ∧ c.toNat ≤ 0x5A) ∨
      c = '_' := by
    simpa [isNameStart, Char.isAlpha, Char.isLower, Char.isUpper, UInt32.le_iff_toNat_le, or_assoc,
      or_comm, or_left_comm] using h
  rcases hcases with hlower | hupper | rfl
  · exact Text.inRanges_iff.2 ⟨(0x61, 0x7A), by decide, hlower⟩
  · exact Text.inRanges_iff.2 ⟨(0x41, 0x5A), by decide, hupper⟩
  · decide

theorem inRanges_of_isNameChar (h : isNameChar c = true) : Text.inRanges nameRanges c = true := by
  by_cases hstart : isNameStart c = true
  · obtain ⟨range, hrange, hbounds⟩ := Text.inRanges_iff.1 (inRanges_of_isNameStart hstart)
    exact Text.inRanges_iff.2 ⟨range, List.mem_cons_of_mem _ hrange, hbounds⟩
  · have hdigit : 0x30 ≤ c.toNat ∧ c.toNat ≤ 0x39 := by
      simp_all [isNameChar, isNameStart, Char.isAlphanum, Char.isDigit, UInt32.le_iff_toNat_le]
    exact Text.inRanges_iff.2 ⟨(0x30, 0x39), by decide, hdigit⟩

theorem isDecimalDigit_of_isNameStart (h : isNameStart c = true) : Text.isDecimalDigit c = false :=
  inRanges_eq_false (by decide) (inRanges_of_isNameStart h)

theorem isBlank_of_isDecimalDigit (h : Text.isDecimalDigit c = true) : Text.isBlank c = false :=
  inRanges_eq_false (by decide) h

theorem isBlank_of_isNameStart (h : isNameStart c = true) : Text.isBlank c = false :=
  inRanges_eq_false (by decide) (inRanges_of_isNameStart h)

theorem isNameChar_of_isBlank (h : Text.isBlank c = true) : isNameChar c = false := by
  refine Bool.eq_false_iff.2 fun hname => ?_
  have hblank : Text.isBlank c = false :=
    inRanges_eq_false (by decide) (inRanges_of_isNameChar hname)
  rw [hblank] at h
  cases h

end Characters

/-- No operand goes on with the text. -/
def Stops (text : List Char) : Prop :=
  ∀ c ∈ text.head?, Text.isDecimalDigit c = false ∧ isNameChar c = false ∧ c ≠ '.'

theorem stops_of_isBlank {c : Char} (text : List Char) (h : Text.isBlank c = true) :
    Stops (c :: text) := by
  rintro _ ⟨⟩
  exact ⟨inRanges_eq_false (by decide) h, isNameChar_of_isBlank h, by rintro rfl; cases h⟩

/-- **Where no operand begins, none goes on.** -/
theorem stops_of_spells {tokens : List Token} {text : List Char} (h : Spells tokens text)
    (hhead : ∀ token ∈ tokens.head?, token.isOperand = false) : Stops text := by
  cases h with
  | nil hblank =>
    cases text with
    | nil => rintro _ ⟨⟩
    | cons c text => exact stops_of_isBlank _ (hblank c (List.mem_cons_self ..))
  | @cons blanks rest token tokens hblank hspelled hothers =>
    cases blanks with
    | cons c blanks => exact stops_of_isBlank _ (hblank c (List.mem_cons_self ..))
    | nil =>
      cases token with
      | number text => cases hhead _ rfl
      | name text => cases hhead _ rfl
      | operator op => rintro _ ⟨⟩; cases op <;> decide
      | opening => rintro _ ⟨⟩; decide
      | closing => rintro _ ⟨⟩; decide

/-- A number begins with a digit. -/
theorem exists_cons_of_isNumber {text : List Char} (h : IsNumber text) :
    ∃ c tail, text = c :: tail ∧ Text.isDecimalDigit c = true := by
  rcases h with ⟨hne, hall⟩ | ⟨whole, fraction, ⟨hne, hall⟩, -, rfl⟩
  · obtain ⟨c, tail, rfl⟩ := List.exists_cons_of_ne_nil hne
    exact ⟨c, tail, rfl, hall c (List.mem_cons_self ..)⟩
  · obtain ⟨c, tail, rfl⟩ := List.exists_cons_of_ne_nil hne
    exact ⟨c, _, rfl, hall c (List.mem_cons_self ..)⟩

/-- **A number is taken to its end** where none goes on. -/
theorem takeNumber_of_isNumber {text rest : List Char} (h : IsNumber text) (hrest : Stops rest) :
    takeNumber (text ++ rest) = (text, rest) := by
  have hdigit : ∀ c ∈ rest.head?, Text.isDecimalDigit c = false := fun c hc => (hrest c hc).1
  rcases h with ⟨-, hall⟩ | ⟨whole, fraction, ⟨-, hwhole⟩, ⟨hne, hfraction⟩, rfl⟩
  · rw [takeNumber, Text.takeWhile_append_of_all hall hdigit,
      Text.dropWhile_append_of_all hall hdigit]
    cases rest with
    | nil => rfl
    | cons c rest =>
      have hpoint : c ≠ '.' := (hrest c rfl).2.2
      split
      · next heq => exact absurd (List.cons.inj heq).1 hpoint
      · rfl
  · obtain ⟨d, fraction, rfl⟩ := List.exists_cons_of_ne_nil hne
    have hpoint : ∀ c ∈ ('.' :: (d :: fraction ++ rest)).head?, Text.isDecimalDigit c = false := by
      rintro _ ⟨⟩; decide
    obtain ⟨hd, htail⟩ := List.forall_mem_cons.1 hfraction
    rw [List.append_assoc, List.cons_append, takeNumber, Text.takeWhile_append_of_all hwhole hpoint,
      Text.dropWhile_append_of_all hwhole hpoint]
    simp [hd, Text.takeWhile_append_of_all htail hdigit, Text.dropWhile_append_of_all htail hdigit]

/-- **A token is read back from its text** where it does not go on. -/
theorem next_append {token : Token} {rest : List Char} (h : token.Spelled)
    (hrest : token.isOperand = true → Stops rest) :
    Token.next (token.text ++ rest) = some (token, rest) := by
  cases token with
  | number text =>
    have htake : takeNumber (text ++ rest) = (text, rest) := takeNumber_of_isNumber h (hrest rfl)
    obtain ⟨c, tail, rfl, hc⟩ := exists_cons_of_isNumber h
    rw [Token.text, List.cons_append, Token.next, if_pos hc, ← List.cons_append, htake]
  | name text =>
    cases text with
    | nil => exact h.elim
    | cons c text =>
      obtain ⟨hc, htext⟩ := h
      have hchar : ∀ d ∈ rest.head?, isNameChar d = false := fun d hd => (hrest rfl d hd).2.1
      rw [Token.text, List.cons_append, Token.next, isDecimalDigit_of_isNameStart hc, hc,
        Text.takeWhile_append_of_all htext hchar, Text.dropWhile_append_of_all htext hchar]
      rfl
  | operator op => cases op <;> rfl
  | opening => rfl
  | closing => rfl

/-! ### Texts and their tokens -/

theorem dropBlanks_append {blanks text : List Char}
    (hblanks : ∀ c ∈ blanks, Text.isBlank c = true) :
    Text.dropBlanks (blanks ++ text) = Text.dropBlanks text :=
  List.dropWhile_append_of_pos hblanks

/-- No token begins with a blank. -/
theorem dropBlanks_text_append {token : Token} (rest : List Char) (h : token.Spelled) :
    Text.dropBlanks (token.text ++ rest) = token.text ++ rest := by
  have hhead : ∃ c tail, token.text = c :: tail ∧ Text.isBlank c = false := by
    cases token with
    | number text =>
      obtain ⟨c, tail, rfl, hc⟩ := exists_cons_of_isNumber h
      exact ⟨c, tail, rfl, isBlank_of_isDecimalDigit hc⟩
    | name text =>
      cases text with
      | nil => exact h.elim
      | cons c text => exact ⟨c, text, rfl, isBlank_of_isNameStart h.1⟩
    | operator op => exact ⟨_, _, rfl, by cases op <;> decide⟩
    | opening => exact ⟨_, _, rfl, by decide⟩
    | closing => exact ⟨_, _, rfl, by decide⟩
  obtain ⟨c, tail, htext, hc⟩ := hhead
  rw [htext, List.cons_append, Text.dropBlanks, List.dropWhile_cons_of_neg (by simp [hc])]

/-- Blanks before a text do not matter. -/
theorem spells_append {blanks text : List Char} {tokens : List Token}
    (hblanks : ∀ c ∈ blanks, Text.isBlank c = true) (h : Spells tokens text) :
    Spells tokens (blanks ++ text) := by
  cases h with
  | nil hblank => exact .nil fun c hc => (List.mem_append.1 hc).elim (hblanks c) (hblank c)
  | cons hblank hspelled hothers =>
    rw [List.append_assoc, ← List.append_assoc blanks, ← List.append_assoc]
    exact .cons (fun c hc => (List.mem_append.1 hc).elim (hblanks c) (hblank c)) hspelled hothers

theorem spells_cons {token : Token} {tokens : List Token} {rest : List Char} (h : token.Spelled)
    (hothers : Spells tokens rest) : Spells (token :: tokens) (token.text ++ rest) :=
  Spells.cons (List.forall_mem_nil _) h hothers

theorem spells_of_dropBlanks {text : List Char} {tokens : List Token}
    (h : Spells tokens (Text.dropBlanks text)) : Spells tokens text := by
  rw [← List.takeWhile_append_dropWhile (p := Text.isBlank) (l := text)]
  exact spells_append (fun c hc => List.all_eq_true.1 List.all_takeWhile c hc) h

/-- **A text that is read to its end spells its tokens.** -/
theorem spells_of_lex {text : List Char} (h : (Token.lex text).2 = []) :
    Spells (Token.lex text).1 text := by
  fun_induction Token.lex text with
  | case1 text _ => subst h; exact .nil (by simp)
  | case2 text token rest hnext _ tokens remainder hlex ih =>
    rw [hlex] at ih
    rw [eq_text_append_of_next hnext]
    exact spells_cons (spelled_of_next hnext) (spells_of_dropBlanks (ih h))

/-- **A text is read as the tokens it spells** if no two operands meet in them. -/
theorem lex_of_spells {text : List Char} {tokens : List Token} (h : Spells tokens text)
    (hchain : tokens.IsChain fun left right => left.isOperand = true → right.isOperand = false) :
    Token.lex (Text.dropBlanks text) = (tokens, []) := by
  induction h with
  | @nil blanks hblank =>
    rw [← List.append_nil blanks, dropBlanks_append hblank]
    simp [Text.dropBlanks, Token.lex, Token.next]
  | @cons blanks rest token tokens hblank hspelled hothers ih =>
    have hnext : Token.next (token.text ++ rest) = some (token, rest) :=
      next_append hspelled fun hoperand => stops_of_spells hothers fun second hsecond =>
        hchain.rel_head? hsecond hoperand
    rw [List.append_assoc, dropBlanks_append hblank, dropBlanks_text_append rest hspelled,
      Token.lex]
    split
    · next hnone => rw [hnext] at hnone; cases hnone
    · next hsome =>
      rw [hnext] at hsome
      cases hsome
      rw [ih hchain.tail]

/-- What a text is accepted for. -/
theorem scan_eq_ok_iff_run {text : List Char} {set : Data.NameSet} : scan text = .ok set ↔
    (Token.lex (Text.dropBlanks text)).2 = [] ∧
      (Progress.start.run (Token.lex (Text.dropBlanks text)).1).bind Progress.finish = .ok set := by
  unfold scan
  generalize Text.dropBlanks text = rest
  cases rest with
  | nil =>
    -- nothing but blanks is refused at once, as the end of no tokens would be
    have hlex : Token.lex [] = ([], []) := by simp [Token.lex, Token.next]
    rw [hlex]
    constructor
    · intro h
      cases h
    · rintro ⟨-, h⟩
      cases h
  | cons c rest =>
    cases hrun : Progress.start.run (Token.lex (c :: rest)).1 with
    | error fault => simp [hrun, bind, Except.bind]
    | ok p =>
      cases hend : (Token.lex (c :: rest)).2 with
      | nil => simp [hrun, hend, bind, Except.bind]
      | cons d remainder => simp [hrun, hend, bind, Except.bind]

/-- **A text is accepted iff it spells an expression**, and its names are what is
given. -/
theorem scan_eq_ok_iff {text : List Char} {set : Data.NameSet} :
    scan text = .ok set ↔ ∃ names, IsExpression text names ∧ set = .ofList names := by
  rw [scan_eq_ok_iff_run]
  constructor
  · rintro ⟨hend, hrun⟩
    obtain ⟨names, hjoined, hset⟩ := run_finish_eq_ok_iff.1 hrun
    exact ⟨names, ⟨_, spells_of_dropBlanks (spells_of_lex hend), hjoined⟩, hset⟩
  · rintro ⟨names, ⟨tokens, hspells, hjoined⟩, hset⟩
    have hlex : Token.lex (Text.dropBlanks text) = (tokens, []) :=
      lex_of_spells hspells (isChain_of_run (hjoined.run Progress.start rfl))
    rw [hlex]
    exact ⟨rfl, run_finish_eq_ok_iff.2 ⟨names, hjoined, hset⟩⟩

/-! ### Names -/

mutual

/-- **The names of an expression** are those among its tokens. -/
theorem Joined.mem_iff {tokens : List Token} {names : List String} (h : Joined tokens names)
    (name : String) : name ∈ names ↔ .name name.toList ∈ tokens := by
  match h with
  | .single hoperand => exact hoperand.mem_iff name
  | .more op hjoined hoperand =>
    rw [List.mem_append, List.mem_append, List.mem_cons, hjoined.mem_iff name,
      hoperand.mem_iff name]
    simp

/-- The names of an operand are those among its tokens. -/
theorem Operand.mem_iff {tokens : List Token} {names : List String} (h : Operand tokens names)
    (name : String) : name ∈ names ↔ .name name.toList ∈ tokens := by
  match h with
  | .negated hoperand =>
    rw [List.mem_cons, hoperand.mem_iff name]
    simp
  | .number text => simp
  | .name text =>
    simp only [List.mem_singleton, Token.name.injEq]
    exact ⟨by rintro rfl; simp, by rintro rfl; simp⟩
  | .grouped hjoined =>
    rw [List.mem_cons, List.mem_append, hjoined.mem_iff name]
    simp

end

/-- **A text is accepted iff it is an expression.**  Then the result has the names
among the tokens, in whatever way the text is spelled and derived; else the text
is malformed. -/
theorem aliases_exact (text : String) :
    ((∃ set, aliases text = .ok set) ↔ ∃ names, IsExpression text.toList names)
      ∧ (∀ set tokens names, aliases text = .ok set → Spells tokens text.toList →
          Joined tokens names → ∀ name, name ∈ set ↔ .name name.toList ∈ tokens)
      ∧ ((¬∃ names, IsExpression text.toList names) → ∃ fault, aliases text = .error fault
          ∧ ∀ labels, QuerySetDraft.require (QuerySetDraft.checkExpression text labels)
            = .error (.validation (.malformed text fault))) := by
  have haccepted : (∃ set, aliases text = .ok set) ↔ ∃ names, IsExpression text.toList names := by
    constructor
    · rintro ⟨set, hset⟩
      obtain ⟨names, hnames, -⟩ := scan_eq_ok_iff.1 hset
      exact ⟨names, hnames⟩
    · rintro ⟨names, hnames⟩
      exact ⟨_, scan_eq_ok_iff.2 ⟨names, hnames, rfl⟩⟩
  refine ⟨haccepted, fun set tokens names hset hspells hjoined name => ?_, fun hnone => ?_⟩
  · have hok : aliases text = .ok (.ofList names) :=
      scan_eq_ok_iff.2 ⟨names, ⟨tokens, hspells, hjoined⟩, rfl⟩
    obtain rfl := Except.ok.inj (hset.symm.trans hok)
    rw [Data.NameSet.mem_ofList]
    exact hjoined.mem_iff name
  · cases hresult : aliases text with
    | ok set => exact absurd (haccepted.1 ⟨set, hresult⟩) hnone
    | error fault =>
      refine ⟨fault, rfl, fun labels => ?_⟩
      rw [QuerySetDraft.checkExpression, hresult]
      rfl

/-- A signed quotient with blanks in it is an expression over one name; two names
in a row are none. -/
theorem aliases_exact_quotient :
    (∃ set, aliases " -a/ 2" = .ok set ∧ ∀ name, name ∈ set ↔ name = "a")
      ∧ ∃ fault, aliases "a b" = .error fault
        ∧ ∀ labels, QuerySetDraft.require (QuerySetDraft.checkExpression "a b" labels)
          = .error (.validation (.malformed "a b" fault)) := by
  have hspells : Spells [.operator .minus, .name ['a'], .operator .divide, .number ['2']]
      " -a/ 2".toList := by
    have hblank : ∀ c ∈ [' '], Text.isBlank c = true := List.forall_mem_singleton.2 (by decide)
    have hdigit : ∀ c ∈ ['2'], Text.isDecimalDigit c = true :=
      List.forall_mem_singleton.2 (by decide)
    refine @Spells.cons [' '] _ _ _ hblank trivial ?_
    refine spells_cons ⟨by decide, List.forall_mem_nil _⟩ (spells_cons trivial ?_)
    exact @Spells.cons [' '] [] _ _ hblank (.inl ⟨by decide, hdigit⟩)
      (.nil (List.forall_mem_nil _))
  have hjoined : Joined [.operator .minus, .name ['a'], .operator .divide, .number ['2']]
      (["a"] ++ []) :=
    .more .divide (.single (.negated (.name ['a']))) (.number ['2'])
  have hrefused : ¬∃ names, IsExpression "a b".toList names := by
    intro hsome
    obtain ⟨set, hset⟩ := (aliases_exact "a b").1.2 hsome
    have hnone : (aliases "a b").isOk = false := by decide +kernel
    rw [hset] at hnone
    cases hnone
  obtain ⟨set, hset⟩ := (aliases_exact " -a/ 2").1.2 ⟨_, _, hspells, hjoined⟩
  refine ⟨⟨set, hset, fun name => ?_⟩, (aliases_exact "a b").2.2 hrefused⟩
  rw [(aliases_exact " -a/ 2").2.1 set _ _ hset hspells hjoined, ← hjoined.mem_iff]
  simp

end Expression
end RpcMetrics
