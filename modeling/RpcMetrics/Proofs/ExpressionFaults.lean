import Mathlib
import RpcMetrics.Proofs.ExpressionGrammar

/-! # When the faults of expressions are found

A fault says either that a text ends too early (`Fault.isEarly`) or that it has
gone wrong.  What tells the two apart is whether the text can still be mended by
more text, put after a blank so that no token goes on into it.

A blank is where the tokens of a text may be cut in two (`lex_append_blank`): those
before it are the same whatever follows, and so is the first place where no token
begins.  Of the tokens before it the check keeps its state, and from each state the
end is within reach: an operand, if one is awaited, and a closing parenthesis for
each that is open (`Progress.run_completion`).

**A fault is found as soon as no text can follow, and not before**
(`aliases_fault_timely`); from there on it stays the same fault.
-/
namespace RpcMetrics
namespace Expression

/-! ### Blanks cut texts -/

section Cuts
variable {c : Char} {text more : List Char}

/-- A number is taken from a text alone where no operand goes on. -/
theorem takeNumber_append_of_stops (text : List Char) (h : Stops more) :
    takeNumber (text ++ more) = ((takeNumber text).1, (takeNumber text).2 ++ more) := by
  have hdigit : ∀ d ∈ more.head?, Text.isDecimalDigit d = false := fun d hd => (h d hd).1
  rw [takeNumber, takeNumber, Text.takeWhile_append_of_head hdigit,
    Text.dropWhile_append_of_head hdigit]
  cases text.dropWhile Text.isDecimalDigit with
  | nil =>
    cases more with
    | nil => rfl
    | cons d more =>
      have hpoint : d ≠ '.' := (h d rfl).2.2
      simp [hpoint]
  | cons d after =>
    by_cases hpoint : d = '.'
    · subst hpoint
      cases after with
      | nil =>
        cases more with
        | nil => rfl
        | cons e more => simp [hdigit e rfl]
      | cons e after =>
        by_cases he : Text.isDecimalDigit e = true
        · simp [he, Text.takeWhile_append_of_head hdigit, Text.dropWhile_append_of_head hdigit]
        · simp [he]
    · simp [hpoint]

/-- No token begins with a blank. -/
theorem next_of_isBlank (hc : Text.isBlank c = true) : Token.next (c :: more) = none := by
  obtain ⟨hdigit, hname, -⟩ := stops_of_isBlank more hc c rfl
  have hstart : isNameStart c = false := by
    refine Bool.eq_false_iff.2 fun hstart => ?_
    rw [isBlank_of_isNameStart hstart] at hc
    cases hc
  have hmark : Token.ofChar? c = none := by
    unfold Token.ofChar?
    split
    case h_7 => rfl
    all_goals exact absurd hc (by decide)
  rw [Token.next, hdigit, hstart, hmark]
  rfl

/-- **No token goes on over a blank.** -/
theorem next_append_blank (hc : Text.isBlank c = true) (text more : List Char) :
    Token.next (text ++ c :: more) =
      (Token.next text).map fun found => (found.1, found.2 ++ c :: more) := by
  have hstops : Stops (c :: more) := stops_of_isBlank more hc
  have hname : ∀ d ∈ (c :: more).head?, isNameChar d = false := fun d hd => (hstops d hd).2.1
  cases text with
  | nil => exact next_of_isBlank hc
  | cons d text =>
    rw [List.cons_append, Token.next, Token.next]
    by_cases hd : Text.isDecimalDigit d = true
    · rw [if_pos hd, if_pos hd, ← List.cons_append, takeNumber_append_of_stops _ hstops]
      rfl
    · rw [if_neg hd, if_neg hd]
      by_cases hstart : isNameStart d = true
      · rw [if_pos hstart, if_pos hstart, Text.takeWhile_append_of_head hname,
          Text.dropWhile_append_of_head hname]
        rfl
      · rw [if_neg hstart, if_neg hstart, Option.map_map]
        rfl

theorem lex_nil : Token.lex [] = ([], []) := by simp [Token.lex, Token.next]

/-- What follows a text does not matter to the blanks before it, if it is more than
blanks. -/
theorem dropBlanks_append_of_ne_nil (h : Text.dropBlanks text ≠ []) (more : List Char) :
    Text.dropBlanks (text ++ more) = Text.dropBlanks text ++ more := by
  unfold Text.dropBlanks at h ⊢
  rw [List.dropWhile_append, if_neg (by rwa [List.isEmpty_iff])]

/-- **A blank cuts the tokens of a text.**  Those before it are read as if the text
ended there; those after it are read only if the text before is read to its end. -/
theorem lex_append_blank {tokens : List Token} {remainder : List Char}
    (hc : Text.isBlank c = true) (more : List Char)
    (h : Token.lex (Text.dropBlanks text) = (tokens, remainder)) :
    Token.lex (Text.dropBlanks (text ++ c :: more)) =
      if remainder = [] then
        (tokens ++ (Token.lex (Text.dropBlanks more)).1, (Token.lex (Text.dropBlanks more)).2)
      else (tokens, remainder ++ c :: more) := by
  generalize hfront : Text.dropBlanks text = front at h
  have hcut (hne : front ≠ []) : Text.dropBlanks (text ++ c :: more) = front ++ c :: more := by
    rw [dropBlanks_append_of_ne_nil (hfront.trans_ne hne), hfront]
  fun_induction Token.lex front generalizing text tokens with
  | case1 front hnone =>
    obtain ⟨rfl, rfl⟩ := Prod.mk.inj h
    by_cases hne : front = []
    -- the text is blank, and so are its blanks with the one that cuts
    · subst hne
      have hblank : ∀ d ∈ text ++ [c], Text.isBlank d = true := by
        rw [List.forall_mem_append, List.forall_mem_singleton]
        exact ⟨List.dropWhile_eq_nil_iff.1 hfront, hc⟩
      rw [if_pos rfl, List.append_cons, dropBlanks_append hblank]
      rfl
    -- the text goes on with something that is no token, with the blank or without
    · rw [if_neg hne, hcut hne, Token.lex]
      split
      · rfl
      · next hsome =>
        rw [next_append_blank hc, hnone] at hsome
        cases hsome
  | case2 front token rest hnext _ others remainder hlex ih =>
    obtain ⟨rfl, rfl⟩ := Prod.mk.inj h
    have hne : front ≠ [] := by
      rintro rfl
      cases hnext
    rw [hcut hne, Token.lex]
    split
    · next hnone =>
      rw [next_append_blank hc, hnext] at hnone
      cases hnone
    · next hsome =>
      rw [next_append_blank hc, hnext] at hsome
      obtain ⟨rfl, rfl⟩ := Prod.mk.inj (Option.some.inj hsome)
      have hothers := ih rfl hlex fun hne => dropBlanks_append_of_ne_nil hne _
      simp only [hothers]
      split <;> rfl

end Cuts

/-! ### Kinds of faults -/

/-- Whether a fault is that the text ends, with nothing wrong so far. -/
def Fault.isEarly : Fault → Bool
  | empty | incomplete | unclosed => true
  | _ => false

/-- The fault as it reads with more text at the end. -/
def Fault.goingOn (more : String) : Fault → Fault
  | unexpected rest => unexpected (rest ++ more)
  | fault => fault

/-- The letters that the wording of a fault begins with. -/
def Fault.letters : Fault → List Char
  | empty | incomplete => ['e', 'x', 'p']
  | unclosed => ['u', 'n', 'c']
  | unexpected _ => ['u', 'n', 'e']
  | missingOperator | missingOperatorBeforeOpening => ['m', 'i', 's']
  | danglingOperator _ => ['d', 'a', 'n']
  | unbalancedClosing => ['u', 'n', 'b']

theorem Fault.take_message (fault : Fault) (text : String) :
    (fault.message text).toList.take 3 = fault.letters := by
  unfold message letters
  cases fault with
  | empty =>
    dsimp only
    decide
  | _ =>
    dsimp only
    simp only [String.append_assoc, String.toList_append]
    rfl

/-- Faults of one wording are of one kind. -/
theorem Fault.isEarly_congr {first second : Fault} {text : String}
    (h : first.message text = second.message text) : first.isEarly = second.isEarly := by
  have hletters : first.letters = second.letters := by
    rw [← first.take_message text, ← second.take_message text, h]
  have hkind (fault : Fault) : fault.isEarly =
      (fault.letters == ['e', 'x', 'p'] || fault.letters == ['u', 'n', 'c']) := by
    cases fault <;> rfl
  rw [hkind, hkind, hletters]

/-- **The wording of a fault tells its kind.** -/
theorem Fault.isEarly_iff_message {fault : Fault} (text : String) : fault.isEarly = true ↔
    fault.message text = "expression is empty" ∨
      fault.message text = "expression `" ++ text ++ "` is incomplete" ∨
      fault.message text = "unclosed `(` in expression `" ++ text ++ "`" := by
  constructor
  · intro h
    cases fault with
    | empty => exact .inl rfl
    | incomplete => exact .inr (.inl rfl)
    | unclosed => exact .inr (.inr rfl)
    | _ => cases h
  · rintro (h | h | h)
    · exact @isEarly_congr fault .empty text h
    · exact @isEarly_congr fault .incomplete text h
    · exact @isEarly_congr fault .unclosed text h

section Checks
variable {p : Progress} {fault : Fault} {tokens : List Token}

/-- A token that does not fit is no early end, and does not depend on what follows. -/
theorem fault_of_step {token : Token} (h : p.step token = .error fault) :
    fault.isEarly = false ∧ ∀ more, fault.goingOn more = fault := by
  cases token <;>
    · rw [Progress.step] at h
      split at h <;> cases h
      exact ⟨rfl, fun more => rfl⟩

theorem fault_of_run (h : p.run tokens = .error fault) :
    fault.isEarly = false ∧ ∀ more, fault.goingOn more = fault := by
  induction tokens generalizing p with
  | nil => cases h
  | cons token tokens ih =>
    rw [run_cons] at h
    rcases bind_eq_error_iff.1 h with hstep | ⟨next, -, hrest⟩
    · exact fault_of_step hstep
    · exact ih hrest

/-- What is wrong at the end is the end. -/
theorem isEarly_of_finish (h : p.finish = .error fault) : fault.isEarly = true := by
  unfold Progress.finish at h
  split at h
  · cases h; rfl
  · split at h
    · cases h; rfl
    · cases h

end Checks

/-! ### What completes an expression -/

namespace Progress

/-- An operand, if one comes next, and a closing parenthesis for each that is open. -/
def completion (p : Progress) : List Token :=
  (if p.expectsOperand then [.number ['0']] else []) ++ List.replicate p.depth .closing

theorem run_closing {p : Progress} (h : p.expectsOperand = false) :
    p.run (List.replicate p.depth .closing) = .ok ⟨0, false, p.names⟩ := by
  obtain ⟨depth, expects, names⟩ := p
  obtain rfl : expects = false := h
  induction depth with
  | zero => rfl
  | succ depth ih => exact ih

/-- **From each state the end is within reach.** -/
theorem run_completion (p : Progress) : p.run p.completion = .ok ⟨0, false, p.names⟩ := by
  obtain ⟨depth, expects, names⟩ := p
  cases expects <;> exact @run_closing ⟨depth, false, names⟩ rfl

theorem spelled_of_mem_completion {p : Progress} :
    ∀ token ∈ p.completion, token.Spelled := by
  intro token htoken
  rcases List.mem_append.1 htoken with hoperand | hclosing
  · by_cases hexpects : p.expectsOperand = true
    · rw [if_pos hexpects] at hoperand
      obtain rfl := List.mem_singleton.1 hoperand
      exact .inl ⟨by decide, List.forall_mem_singleton.2 (by decide)⟩
    · rw [if_neg hexpects] at hoperand
      cases hoperand
  · obtain rfl := List.eq_of_mem_replicate hclosing
    trivial

end Progress

/-- Tokens are spelled by their texts in a row. -/
theorem spells_flatMap {tokens : List Token} (h : ∀ token ∈ tokens, token.Spelled) :
    Spells tokens (tokens.flatMap Token.text) := by
  induction tokens with
  | nil => exact .nil (List.forall_mem_nil _)
  | cons token tokens ih =>
    obtain ⟨hspelled, hothers⟩ := List.forall_mem_cons.1 h
    exact spells_cons hspelled (ih hothers)

/-- A completion is read as the tokens it is made of. -/
theorem lex_completion (p : Progress) :
    Token.lex (Text.dropBlanks (p.completion.flatMap Token.text)) = (p.completion, []) :=
  lex_of_spells (spells_flatMap Progress.spelled_of_mem_completion)
    (isChain_of_run p.run_completion)

/-! ### Texts with faults -/

section Texts
variable {text : List Char} {fault : Fault}

/-- **How a text fails**: there is nothing in it, a token does not fit, no token
begins where the text goes on, or the end does not fit. -/
inductive Fails (text : List Char) : Fault → Prop
  | nothing (h : Text.dropBlanks text = []) : Fails text .empty
  | token {tokens : List Token} {remainder : List Char} {fault : Fault}
      (lexed : Token.lex (Text.dropBlanks text) = (tokens, remainder))
      (run : Progress.start.run tokens = .error fault) : Fails text fault
  | remainder {tokens : List Token} {remainder : List Char} {p : Progress}
      (lexed : Token.lex (Text.dropBlanks text) = (tokens, remainder)) (unread : remainder ≠ [])
      (run : Progress.start.run tokens = .ok p) :
      Fails text (.unexpected (String.ofList remainder))
  | ending {tokens : List Token} {p : Progress} {fault : Fault}
      (lexed : Token.lex (Text.dropBlanks text) = (tokens, []))
      (run : Progress.start.run tokens = .ok p) (finish : p.finish = .error fault) :
      Fails text fault

/-- What becomes of a text in which there is something. -/
theorem scan_of_lexed {tokens : List Token} {remainder : List Char}
    (hlexed : Token.lex (Text.dropBlanks text) = (tokens, remainder))
    (hsome : Text.dropBlanks text ≠ []) :
    scan text = (Progress.start.run tokens).bind fun p =>
      if remainder = [] then p.finish else .error (.unexpected (String.ofList remainder)) := by
  unfold scan
  rw [if_neg (by simpa using hsome), hlexed]
  by_cases hread : remainder = []
  · subst hread
    rfl
  · simp only [hread, List.isEmpty_iff, if_false]
    rfl

theorem fails_of_scan (h : scan text = .error fault) : Fails text fault := by
  by_cases hnothing : Text.dropBlanks text = []
  · unfold scan at h
    rw [if_pos (by simpa using hnothing)] at h
    cases h
    exact .nothing hnothing
  · obtain ⟨⟨tokens, remainder⟩, hlexed⟩ : ∃ lexed, Token.lex (Text.dropBlanks text) = lexed :=
      ⟨_, rfl⟩
    rw [scan_of_lexed hlexed hnothing] at h
    rcases bind_eq_error_iff.1 h with hrun | ⟨p, hrun, hend⟩
    · exact .token hlexed hrun
    · by_cases hread : remainder = []
      · subst hread
        exact .ending hlexed hrun hend
      · rw [if_neg hread] at hend
        cases hend
        exact .remainder hlexed hread hrun

/-- **A text that ends too early can be completed.** -/
theorem exists_completed (h : Fails text fault) (hearly : fault.isEarly = true) :
    ∃ more set, scan (text ++ ' ' :: more) = .ok set := by
  -- whatever is awaited at the end, the completion of the state has it
  have hcompleted {tokens : List Token} {p : Progress}
      (hlexed : Token.lex (Text.dropBlanks text) = (tokens, []))
      (hrun : Progress.start.run tokens = .ok p) :
      ∃ more set, scan (text ++ ' ' :: more) = .ok set := by
    refine ⟨p.completion.flatMap Token.text, p.names, scan_eq_ok_iff_run.2 ?_⟩
    rw [lex_append_blank (by decide) _ hlexed, if_pos rfl, lex_completion]
    refine ⟨rfl, ?_⟩
    rw [run_append, hrun, Except.bind, p.run_completion]
    rfl
  cases h with
  | nothing hnothing =>
    have hlexed : Token.lex (Text.dropBlanks text) = ([], []) := by
      rw [hnothing, lex_nil]
    exact hcompleted hlexed rfl
  | token _ hrun =>
    rw [(fault_of_run hrun).1] at hearly
    cases hearly
  | remainder => cases hearly
  | ending hlexed hrun _ => exact hcompleted hlexed hrun

/-- In a text that has gone wrong there is something. -/
theorem dropBlanks_ne_nil_of_late (h : Fails text fault) (hlate : fault.isEarly = false) :
    Text.dropBlanks text ≠ [] := by
  intro hnothing
  have hnone : Token.lex (Text.dropBlanks text) = ([], []) := by
    rw [hnothing, lex_nil]
  cases h with
  | nothing _ => cases hlate
  | token hlexed hrun =>
    cases hnone.symm.trans hlexed
    cases hrun
  | remainder hlexed hunread _ =>
    cases hnone.symm.trans hlexed
    exact hunread rfl
  | ending _ _ hfinish =>
    rw [isEarly_of_finish hfinish] at hlate
    cases hlate

/-- **A text that has gone wrong stays so**, by the same fault. -/
theorem scan_append_of_late (h : Fails text fault) (hlate : fault.isEarly = false)
    (more : List Char) :
    scan (text ++ ' ' :: more) = .error (fault.goingOn (String.ofList (' ' :: more))) := by
  have hblank : Text.isBlank ' ' = true := by decide
  have hsome : Text.dropBlanks (text ++ ' ' :: more) ≠ [] := by
    have hfront := dropBlanks_ne_nil_of_late h hlate
    rw [dropBlanks_append_of_ne_nil hfront]
    exact List.append_ne_nil_of_left_ne_nil hfront _
  cases h with
  | nothing _ => cases hlate
  | @token tokens remainder _ hlexed hrun =>
    have hcut := lex_append_blank hblank more hlexed
    rw [(fault_of_run hrun).2]
    by_cases hread : remainder = []
    · rw [if_pos hread] at hcut
      rw [scan_of_lexed hcut hsome, run_append, hrun]
      rfl
    · rw [if_neg hread] at hcut
      rw [scan_of_lexed hcut hsome, hrun]
      rfl
  | @remainder tokens remainder p hlexed hunread hrun =>
    have hcut := lex_append_blank hblank more hlexed
    rw [if_neg hunread] at hcut
    rw [scan_of_lexed hcut hsome, hrun, Fault.goingOn, ← String.ofList_append]
    exact if_neg (List.append_ne_nil_of_left_ne_nil hunread _)
  | ending _ _ hfinish =>
    rw [isEarly_of_finish hfinish] at hlate
    cases hlate

end Texts

/-- **Faults are found at the right moment.**  A text is found empty, incomplete or
unclosed iff it can be completed: some text after a blank makes it an expression.
Any other fault is final: it is found again whatever text follows a blank. -/
theorem aliases_fault_timely {text : String} {fault : Fault} (h : aliases text = .error fault) :
    (fault.isEarly = true ↔ fault.message text = "expression is empty" ∨
        fault.message text = "expression `" ++ text ++ "` is incomplete" ∨
        fault.message text = "unclosed `(` in expression `" ++ text ++ "`") ∧
      (fault.isEarly = true ↔ ∃ more set, aliases (text ++ " " ++ more) = .ok set) ∧
      (fault.isEarly = false → ∀ more,
        aliases (text ++ " " ++ more) = .error (fault.goingOn (" " ++ more))) := by
  have hfails : Fails text.toList fault := fails_of_scan h
  have hlist (more : String) :
      (text ++ " " ++ more).toList = text.toList ++ ' ' :: more.toList := by
    simp [String.toList_append]
  have hfinal (hlate : fault.isEarly = false) (more : String) :
      aliases (text ++ " " ++ more) = .error (fault.goingOn (" " ++ more)) := by
    have hwords : String.ofList (' ' :: more.toList) = " " ++ more := by
      rw [← String.toList_inj]
      simp [String.toList_append]
    rw [aliases, hlist, scan_append_of_late hfails hlate, hwords]
  refine ⟨Fault.isEarly_iff_message text, ⟨fun hearly => ?_, ?_⟩, hfinal⟩
  · obtain ⟨more, set, hset⟩ := exists_completed hfails hearly
    refine ⟨String.ofList more, set, ?_⟩
    rw [aliases, hlist, String.toList_ofList]
    exact hset
  · rintro ⟨more, set, hset⟩
    by_contra hlate
    rw [hfinal (Bool.not_eq_true _ ▸ hlate) more] at hset
    cases hset

/-- A quotient that breaks off can be completed; a closing parenthesis without its
opening one is met again whatever follows. -/
theorem aliases_fault_timely_parenthesis :
    (∃ fault, aliases "(a /" = .error fault ∧
      ∃ more set, aliases ("(a /" ++ " " ++ more) = .ok set) ∧
    ∃ fault, aliases "a / b) * 100" = .error fault ∧
      ∀ more, aliases ("a / b) * 100" ++ " " ++ more) = .error (fault.goingOn (" " ++ more)) := by
  have hbroken : aliases "(a /" = .error .incomplete := by cbv
  have hwrong : aliases "a / b) * 100" = .error .unbalancedClosing := by cbv
  exact ⟨⟨_, hbroken, (aliases_fault_timely hbroken).2.1.1 rfl⟩,
    _, hwrong, (aliases_fault_timely hwrong).2.2 rfl⟩

end Expression
end RpcMetrics
