import RpcMetrics.Json.Token
import RpcMetrics.Pattern.Regex
import RpcMetrics.Text.Blank
import RpcMetrics.Text.Letter

/-!
# Reading regular expressions

Characters stand for themselves, brackets enclose classes and parentheses groups, a bar stands
between alternatives, and a star, a plus or a question mark follows what is repeated.  In a free
pattern blanks and comments do not count.  Braces are out of order, since none could close where
patterns stand.
-/
namespace RpcMetrics.Pattern

/-! ### Gaps -/

/-- Drops blanks and comments, which go up to the ends of their lines. -/
def dropGaps (inComment : Bool) : List Char → List Char
  | [] => []
  | c :: rest =>
    if inComment then dropGaps (c != '\n') rest
    else if c = '#' then dropGaps true rest
    else if Text.isBlank c then dropGaps false rest
    else c :: rest

/-- Drops what does not count. -/
def skip (free : Bool) (text : List Char) : List Char := if free then dropGaps false text else text

/-- The character that a hyphen is judged by.  In a free pattern it is the next one that is no
blank, and the mark of a comment does not count either, though what follows it does. -/
def peek (free : Bool) (text : List Char) : Option Char :=
  if free then
    let next := match text.dropWhile Text.isBlank with
      | '#' :: rest => rest.dropWhile Text.isBlank
      | rest => rest
    next.head?.or text.head?
  else text.head?

/-! ### Escapes -/

/-- What is written for a character or a place. -/
inductive Written where
  | char (sign : Sign)
  /-- A class that has a letter, or what is not in it. -/
  | shorthand (negated : Bool) (kind : Shorthand)
  /-- A general category, or what is not in it. -/
  | category (negated : Bool) (name : Char)
  | edge (kind : Edge)

/-- A character by its code point, in so many more hexadecimal digits. -/
def takeCodePoint (free isByte : Bool) : Nat → Nat → List Char → Option (Written × List Char)
  | 0, n, rest => if n.isValidChar then some (.char ⟨Char.ofNat n, isByte⟩, rest) else none
  | count + 1, n, c :: rest => do
    takeCodePoint free isByte count (16 * n + (← Json.hexDigit? c)) (skip free rest)
  | _ + 1, _, [] => none

/-- What letters stand for after a backslash. -/
def letterEscapes : List (Char × Written) :=
  [('a', .char ⟨'\x07', false⟩), ('f', .char ⟨'\x0c', false⟩), ('t', .char ⟨'\t', false⟩),
    ('n', .char ⟨'\n', false⟩), ('r', .char ⟨'\r', false⟩), ('v', .char ⟨'\x0b', false⟩),
    ('A', .edge .textStart), ('z', .edge .textEnd), ('b', .edge .wordEdge),
    ('B', .edge .noWordEdge), ('<', .edge .wordStart), ('>', .edge .wordEnd),
    ('d', .shorthand false .digit), ('s', .shorthand false .blank), ('w', .shorthand false .word),
    ('D', .shorthand true .digit), ('S', .shorthand true .blank), ('W', .shorthand true .word)]

/-- Whether a character stands for itself after a backslash. -/
def isEscapable (c : Char) : Bool := decide (c.toNat < 0x80) && !c.isAlphanum

/-- The general category with a letter, or what is not in it. -/
def takeCategory (free negated : Bool) (text : List Char) : Option (Written × List Char) :=
  match skip free text with
  | [] | '\\' :: _ | '\x7b' :: _ => none
  | name :: rest => some (.category negated name, skip free rest)

/-- What stands after a backslash. -/
def takeEscape (free : Bool) : List Char → Option (Written × List Char)
  | [] => none
  | 'x' :: rest => takeCodePoint free true 2 0 (skip free rest)
  | 'u' :: rest => takeCodePoint free false 4 0 (skip free rest)
  | 'U' :: rest => takeCodePoint free false 8 0 (skip free rest)
  | 'p' :: rest => takeCategory free false rest
  | 'P' :: rest => takeCategory free true rest
  | c :: rest =>
    match letterEscapes.lookup c with
    | some written => some (written, rest)
    | none => if isEscapable c then some (.char ⟨c, false⟩, rest) else none

/-! ### Classes -/

/-- A character, escaped or not, at the start of a text. -/
def takeWritten (free : Bool) : List Char → Option (Written × List Char)
  | [] => none
  | '\\' :: rest => takeEscape free rest
  | c :: rest => some (.char ⟨c, false⟩, rest)

/-- The member of a class that is written so, unless it is a place. -/
def Written.member? : Written → Option ClassItem
  | char sign => some (.char sign)
  | shorthand negated kind => some (.shorthand negated kind)
  | category negated name => some (.category negated name)
  | edge _ => none

/-- The characters from one to another. -/
def range? : Written → Written → Option ClassItem
  | .char first, .char last => if first.char ≤ last.char then some (.range first last) else none
  | _, _ => none

/-- One member of a class, or all from one to another.  A hyphen before a bracket or another hyphen
stands between no two members. -/
def takeMember (free : Bool) (text : List Char) : Option (ClassItem × List Char) := do
  let (first, rest) ← takeWritten free text
  match skip free rest with
  | [] => none
  | '-' :: after =>
    let next := peek free after
    if next = some ']' ∨ next = some '-' then return (← first.member?, '-' :: after)
    else do
      let (last, rest) ← takeWritten free (skip free after)
      return (← range? first last, rest)
  | rest => return (← first.member?, rest)

/-- The names of classes of ASCII characters. -/
def classNames : List String :=
  ["alnum", "alpha", "ascii", "blank", "cntrl", "digit", "graph", "lower", "print", "punct",
    "space", "upper", "word", "xdigit"]

/-- A class with a name, after its bracket. -/
def takeNamed : List Char → Option (ClassItem × List Char)
  | ':' :: text =>
    let (negated, text) := if text.head? = some '^' then (true, text.drop 1) else (false, text)
    let name := String.ofList (text.takeWhile (· != ':'))
    match text.dropWhile (· != ':') with
    | ':' :: ']' :: rest =>
      if classNames.contains name then some (.named negated name, rest) else none
    | _ => none
  | _ => none

/-- The class of some members, the last one first, put together with what comes before it. -/
def joinTo (before : Option (ClassSet × Joint)) (items : List ClassItem) : ClassSet :=
  match before with
  | none => .items items.reverse
  | some (first, joint) => .joined joint first (.items items.reverse)

/-- A hyphen that stands for itself. -/
def hyphen : ClassItem := .char ⟨'-', false⟩

/-- Whether a class is what its brackets do not enclose, and what they enclose. -/
def takeNegation (free : Bool) (text : List Char) : Bool × List Char :=
  match skip free text with
  | '^' :: rest => (true, rest)
  | rest => (false, rest)

/-- A class up to its closing bracket, after the members so far, the last one first.  Hyphens that
open it stand for themselves, and so does a bracket that comes first of all. -/
def takeClass (free : Bool) : Nat → Bool → Option (ClassSet × Joint) → List ClassItem →
    List Char → Option (ClassSet × List Char)
  | 0, _, _, _, _ => none
  | fuel + 1, opens, before, items, text =>
    match skip free text with
    | [] => none
    | ']' :: rest =>
      if opens && items.isEmpty then takeClass free fuel false before [.char ⟨']', false⟩] rest
      else some (joinTo before items, rest)
    | '[' :: rest =>
      match takeNamed rest with
      | some (item, rest) => takeClass free fuel false before (item :: items) rest
      | none => do
        let (negated, rest) := takeNegation free rest
        let (members, rest) ← takeClass free fuel true none [] rest
        takeClass free fuel false before (.bracket negated members :: items) rest
    | '&' :: '&' :: rest => takeClass free fuel false (some (joinTo before items, .both)) [] rest
    | '~' :: '~' :: rest => takeClass free fuel false (some (joinTo before items, .oneOf)) [] rest
    | '-' :: rest =>
      if opens then takeClass free fuel true before (hyphen :: items) rest
      else
        match rest with
        | '-' :: rest => takeClass free fuel false (some (joinTo before items, .without)) [] rest
        | _ => do
          let (item, rest) ← takeMember free ('-' :: rest)
          takeClass free fuel false before (item :: items) rest
    | text => do
      let (item, rest) ← takeMember free text
      takeClass free fuel false before (item :: items) rest

/-! ### Groups -/

/-- The letters of modes. -/
def modeLetters : List Char := ['i', 'm', 's', 'U', 'u', 'R', 'x']

/-- The modes up to a colon or a parenthesis, each once, after those so far; a hyphen comes before
those that are switched off. -/
def takeSwitches (on : Bool) (switches : List Switch) :
    List Char → Option (List Switch × List Char)
  | [] => none
  | c :: rest =>
    if c = ':' ∨ c = ')' then some (switches, c :: rest)
    else if c = '-' then
      if on && rest.head?.any modeLetters.contains then takeSwitches false switches rest else none
    else if modeLetters.contains c && (switches.lookup c).isNone then
      takeSwitches on ((c, on) :: switches) rest
    else none

/-- Whether a character may begin the name of a group. -/
def isNameHead (c : Char) : Bool := c == '_' || Text.isLetter c

/-- Whether a character may go on with the name of a group. -/
def isNameTail (c : Char) : Bool := c == '_' || ".[]".toList.contains c || Text.isLetterOrDigit c

/-- The name of a group, up to its closing bracket. -/
def takeName (text : List Char) : Option (List Char × List Char) :=
  match text.takeWhile (· != '>'), text.dropWhile (· != '>') with
  | first :: others, _ :: rest =>
    if isNameHead first && others.all isNameTail then some (first :: others, rest) else none
  | _, _ => none

/-- What a parenthesis opens. -/
inductive Opening where
  /-- Nothing: it encloses modes for what follows. -/
  | modes (switches : List Switch)
  /-- A group with modes in it, made of what it encloses. -/
  | group (switches : List Switch) (make : Regex → Regex)

/-- What a parenthesis opens, which has been read. -/
def takeOpening : List Char → Option (Opening × List Char)
  | '?' :: 'P' :: '<' :: rest => do
    let (name, rest) ← takeName rest
    return (.group [] (.group name), rest)
  | '?' :: '<' :: rest => do
    let (name, rest) ← takeName rest
    return (.group [] (.group name), rest)
  | '?' :: rest => do
    match ← takeSwitches true [] rest with
    | (switches, ':' :: rest) => return (.group switches (.enclosed switches), rest)
    | (switches, ')' :: rest) => if switches.isEmpty then none else return (.modes switches, rest)
    | _ => none
  | rest => some (.group [] (.group none), rest)

/-- Whether blanks and comments do not count once modes are switched. -/
def freeAfter (free : Bool) (switches : List Switch) : Bool := (switches.lookup 'x').getD free

/-! ### Patterns -/

/-- The mark of a repetition. -/
def mark? : Char → Option Mark
  | '*' => some .star
  | '+' => some .plus
  | '?' => some .question
  | _ => none

/-- Repeats the last of some parts, which come last one first. -/
def repeatLast (mark : Mark) (asked : Bool) : List Regex → Option (List Regex)
  | [] | .modes _ :: _ => none
  | last :: parts => some (.repeated mark asked last :: parts)

/-- The part that is written so. -/
def Written.part : Written → Regex
  | char sign => .char sign
  | shorthand negated kind => .shorthand negated kind
  | category negated name => .category negated name
  | edge kind => .edge kind

/-- A part that neither begins a group nor repeats one. -/
def takePart (free : Bool) : List Char → Option (Regex × List Char)
  | '.' :: rest => some (.point, rest)
  | '^' :: rest => some (.lineStart, rest)
  | '$' :: rest => some (.lineEnd, rest)
  | '[' :: rest => do
    let (negated, rest) := takeNegation free rest
    let (members, rest) ← takeClass free (rest.length + 1) true none [] rest
    return (.bracket negated members, rest)
  | '\x7b' :: _ => none
  | text => do
    let (written, rest) ← takeWritten free text
    return (written.part, rest)

/-- The alternatives so far and one more, whose parts come last one first. -/
def close (alternatives : List Regex) (parts : List Regex) : Regex :=
  match alternatives with
  | [] => .sequence parts.reverse
  | _ => .alternatives ((.sequence parts.reverse :: alternatives).reverse)

/-- The alternatives of a group, up to its end.  Those so far and the parts of the next one come
last one first. -/
def takeBranches : Nat → Bool → List Regex → List Regex → List Char → Option (Regex × List Char)
  | 0, _, _, _, _ => none
  | fuel + 1, free, alternatives, parts, text =>
    match skip free text with
    | [] => some (close alternatives parts, [])
    -- the end is left to the group that was opened, and is too much if none was
    | ')' :: rest => some (close alternatives parts, ')' :: rest)
    | '|' :: rest => takeBranches fuel free (.sequence parts.reverse :: alternatives) [] rest
    | '(' :: rest => do
      match ← takeOpening (skip free rest) with
      -- modes of their own last to the end of the group around them
      | (.modes switches, rest) =>
        takeBranches fuel (freeAfter free switches) alternatives (.modes switches :: parts) rest
      | (.group switches make, rest) => do
        match ← takeBranches fuel (freeAfter free switches) [] [] rest with
        | (inner, ')' :: rest) => takeBranches fuel free alternatives (make inner :: parts) rest
        | _ => none
    | c :: rest =>
      match mark? c with
      | some mark => do
        let asked := rest.head? == some '?'
        let parts ← repeatLast mark asked parts
        takeBranches fuel free alternatives parts (if asked then rest.drop 1 else rest)
      | none => do
        let (part, rest) ← takePart free (c :: rest)
        takeBranches fuel free alternatives (part :: parts) rest

/-- The regular expression that a text spells, if it spells one. -/
def Regex.ofText? (text : String) : Option Regex :=
  match takeBranches (text.length + 1) false [] [] text.toList with
  | some (regex, []) => some regex
  | _ => none

/-- Blanks and comments do not count in a free pattern, and so they are in no class. -/
example : (Regex.ofText? "(?x)[c #]\n] # all").isSome = true := by decide +kernel

example : (Regex.ofText? "(?x)[c#]aller").isSome = false := by decide +kernel

end RpcMetrics.Pattern
