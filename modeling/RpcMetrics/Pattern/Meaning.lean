import RpcMetrics.Pattern.Machine
import RpcMetrics.Pattern.Parser
import RpcMetrics.Text.DecimalDigit
import RpcMetrics.Text.DirectionTable

/-!
# What regular expressions mean

A regular expression stands for a pattern, unless its parts are too deep within one another, two
of its groups have one name, or it asks for what is not there: boundaries of words in any script,
or, where characters are bytes, bytes that are no ASCII characters.
-/
namespace RpcMetrics.Pattern

/-- How the characters of a pattern are read. -/
structure Mode where
  /-- Whether letters stand for those of either case. -/
  ignoreCase : Bool := false
  /-- Whether a circumflex and a dollar sign stand for starts and ends of lines. -/
  lines : Bool := false
  /-- Whether a carriage return belongs to the end of a line. -/
  returns : Bool := false
  /-- Whether a point stands for ends of lines too. -/
  allChars : Bool := false
  /-- Whether repetitions are reluctant unless a question mark follows. -/
  reluctant : Bool := false
  /-- Whether characters are those of all scripts rather than bytes. -/
  allScripts : Bool := true
  deriving DecidableEq, Repr

/-- The mode once one is switched. -/
def Mode.switch (mode : Mode) : Switch → Mode
  | ('i', on) => { mode with ignoreCase := on }
  | ('m', on) => { mode with lines := on }
  | ('R', on) => { mode with returns := on }
  | ('s', on) => { mode with allChars := on }
  | ('U', on) => { mode with reluctant := on }
  | ('u', on) => { mode with allScripts := on }
  | _ => mode

/-- The mode once some are switched. -/
def Mode.switchAll (mode : Mode) (switches : List Switch) : Mode := switches.foldl Mode.switch mode

/-! ### Classes -/

/-- The characters of words: letters, digits, marks and what connects them. -/
def wordRanges : Text.CodeRanges :=
  (0x5F, 0x5F) :: (0x203F, 0x2040) :: (0x200C, 0x200D) :: Text.letterOrDigitRanges
    ++ Text.nonspacingRanges ++ Text.spacingRanges

def namedRanges : List (String × Text.CodeRanges) :=
  [("alnum", [(0x30, 0x39), (0x41, 0x5A), (0x61, 0x7A)]), ("alpha", [(0x41, 0x5A), (0x61, 0x7A)]),
    ("ascii", [(0x0, 0x7F)]), ("blank", [(0x9, 0x9), (0x20, 0x20)]),
    ("cntrl", [(0x0, 0x1F), (0x7F, 0x7F)]), ("digit", [(0x30, 0x39)]),
    ("graph", [(0x21, 0x7E)]), ("lower", [(0x61, 0x7A)]), ("print", [(0x20, 0x7E)]),
    ("punct", [(0x21, 0x2F), (0x3A, 0x40), (0x5B, 0x60), (0x7B, 0x7E)]),
    ("space", [(0x9, 0xD), (0x20, 0x20)]), ("upper", [(0x41, 0x5A)]),
    ("word", [(0x30, 0x39), (0x41, 0x5A), (0x5F, 0x5F), (0x61, 0x7A)]),
    ("xdigit", [(0x30, 0x39), (0x41, 0x46), (0x61, 0x66)])]

/-- The ASCII characters of the general categories, whose letters are of either case. -/
def categoryRanges : List (Char × Text.CodeRanges) :=
  [('l', [(0x41, 0x5A), (0x61, 0x7A)]), ('m', []), ('n', [(0x30, 0x39)]),
    ('p', [(0x21, 0x23), (0x25, 0x2A), (0x2C, 0x2F), (0x3A, 0x3B), (0x3F, 0x40), (0x5B, 0x5D),
      (0x5F, 0x5F), (0x7B, 0x7B), (0x7D, 0x7D)]),
    ('s', [(0x24, 0x24), (0x2B, 0x2B), (0x3C, 0x3E), (0x5E, 0x5E), (0x60, 0x60), (0x7C, 0x7C),
      (0x7E, 0x7E)]),
    ('z', [(0x20, 0x20)]), ('c', [(0x0, 0x1F), (0x7F, 0x7F)])]

/-- A class or what is not in it. -/
def negate (negated : Bool) (chars : CharClass) : CharClass :=
  if negated then chars.complement else chars

/-- A class, unless it holds bytes that are no ASCII characters where characters are bytes.  It
holds all of them or none. -/
def Mode.allow (mode : Mode) (chars : CharClass) : Option CharClass :=
  if !mode.allScripts && chars.holds '\x80' then none else some chars

/-- A class, with letters of either case if case is ignored. -/
def Mode.spread (mode : Mode) (chars : CharClass) : CharClass :=
  if mode.ignoreCase then chars.ignoringCase mode.allScripts else chars

/-- The class that has a letter, or what is not in it. -/
def Mode.shorthand (mode : Mode) (negated : Bool) (kind : Shorthand) : Option CharClass :=
  let (inAll, inAscii) := match kind with
    | .digit => (Text.decimalDigitRanges, "digit")
    | .blank => (Text.blankRanges, "space")
    | .word => (wordRanges, "word")
  let ranges := if mode.allScripts then inAll else (namedRanges.lookup inAscii).getD []
  mode.allow (negate negated (.ofRanges ranges))

/-- A general category, or what is not in it. -/
def Mode.category (mode : Mode) (negated : Bool) (name : Char) : Option CharClass := do
  let ranges ← categoryRanges.lookup name.toLower
  if mode.allScripts then return negate negated (mode.spread (.ofRanges ranges)) else none

/-- The characters from one to another in a class. -/
def Mode.range (mode : Mode) (first last : Sign) : Option CharClass :=
  if mode.allScripts || decide (last.char.toNat < 0x80) then
    some (mode.spread (.ofRanges [(first.char.toNat, last.char.toNat)]))
  else none

/-- Two classes put together. -/
def Joint.join (first second : CharClass) : Joint → CharClass
  | both => first.intersection second
  | without => first.intersection second.complement
  | oneOf => (first.union second).intersection (first.intersection second).complement

mutual

/-- The characters that a member of a class stands for. -/
def ClassItem.chars? (mode : Mode) : ClassItem → Option CharClass
  | .char sign => mode.range sign sign
  | .range first last => mode.range first last
  | .shorthand negated kind => mode.shorthand negated kind
  | .category negated name => mode.category negated name
  | .named negated name => do
    mode.allow (negate negated (mode.spread (.ofRanges (← namedRanges.lookup name))))
  | .bracket negated members => do mode.allow (negate negated (← members.chars? mode))

/-- The characters that stand between brackets. -/
def ClassSet.chars? (mode : Mode) : ClassSet → Option CharClass
  | .items members => ClassItem.allChars? mode members
  | .joined joint first second => do
    return joint.join (← first.chars? mode) (← second.chars? mode)

/-- The characters that any of some members stands for. -/
def ClassItem.allChars? (mode : Mode) : List ClassItem → Option CharClass
  | [] => some .empty
  | item :: items => do return (← item.chars? mode).union (← ClassItem.allChars? mode items)

end

/-! ### Forms -/

/-- Fits a character of a class. -/
def Mode.form (mode : Mode) (chars : CharClass) : Form := .ofChars (!mode.allScripts) chars

/-- What a point stands for. -/
def Mode.point (mode : Mode) : Option Form :=
  let ends := if mode.returns then [('\n'.toNat, '\n'.toNat), ('\r'.toNat, '\r'.toNat)]
    else [('\n'.toNat, '\n'.toNat)]
  if !mode.allScripts then none
  else some (mode.form (if mode.allChars then .all else (CharClass.ofRanges ends).complement))

/-- What a character stands for. -/
def Mode.sign (mode : Mode) (sign : Sign) : Option Form :=
  if sign.isByte && decide (0x80 ≤ sign.char.toNat) && !mode.allScripts then none
  else some (mode.form (mode.spread (.single sign.char)))

/-- A place of one kind.  Words are those of ASCII characters. -/
def Mode.edge (mode : Mode) (kind : Edge) : Option Form :=
  match kind with
  | .wordEdge | .noWordEdge | .wordStart | .wordEnd =>
    if mode.allScripts then none else some (.edge kind)
  | kind => some (.edge kind)

mutual

/-- What a regular expression stands for, and the mode after it. -/
def Regex.meaning (mode : Mode) : Regex → Option (Form × Mode)
  | .modes switches => some (.empty, mode.switchAll switches)
  | .char sign => (mode.sign sign).map fun form => (form, mode)
  | .point => mode.point.map fun form => (form, mode)
  | .lineStart => some (.edge (if mode.lines then .lineStart mode.returns else .textStart), mode)
  | .lineEnd => some (.edge (if mode.lines then .lineEnd mode.returns else .textEnd), mode)
  | .edge kind => (mode.edge kind).map fun form => (form, mode)
  | .shorthand negated kind =>
    (mode.shorthand negated kind).map fun chars => (mode.form chars, mode)
  | .category negated name =>
    (mode.category negated name).map fun chars => (mode.form chars, mode)
  | .bracket negated members => do
    return (mode.form (← mode.allow (negate negated (← members.chars? mode))), mode)
  | .repeated mark asked inner => do
    let (form, mode) ← inner.meaning mode
    return (.ofRepeated mark (mode.reluctant == asked) form, mode)
  | .group _ inner => do return (.captured (← inner.meaning mode).1, mode)
  | .enclosed switches inner => do
    return ((← inner.meaning (mode.switchAll switches)).1, mode)
  | .sequence parts => do
    let (forms, mode) ← Regex.meanings mode parts
    return (.ofRow forms, mode)
  | .alternatives parts => do
    let (forms, mode) ← Regex.meanings mode parts
    return (.ofEither forms, mode)

/-- What parts stand for, each in the mode after the one before it, and the mode after them. -/
def Regex.meanings (mode : Mode) : List Regex → Option (List Form × Mode)
  | [] => some ([], mode)
  | part :: parts => do
    let (form, mode) ← part.meaning mode
    let (forms, mode) ← Regex.meanings mode parts
    return (form :: forms, mode)

end

/-- Parts are no further than this within one another. -/
def depthLimit : Nat := 250

/-- The pattern that a text spells, if it spells one. -/
def ofText? (text : String) : Option Pattern := do
  let regex ← Regex.ofText? text
  if regex.depth ≤ depthLimit ∧ regex.names.Nodup then
    return ofForm (← regex.meaning {}).1
  else none

/-- The first alternative is the better one, even if the second one gets further. -/
example : (ofText? "a|ab").map (·.fits "ab") = some false := by decide +kernel

/-- The part that begins first counts, even if one that begins later goes up to the end. -/
example : (ofText? "l|er").map (·.fits "caller") = some false := by decide +kernel

example : (ofText? "(?i)[a-k&&[^b]]l+.*R$").map (·.fits "caller") = some true := by
  decide +kernel

example : (ofText? "(?-u:\\B)ler").map (·.fits "caller") = some true := by decide +kernel

example : (ofText? "(?-u:[^a])").isSome = false := by decide +kernel

end RpcMetrics.Pattern
