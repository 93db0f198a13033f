import RpcMetrics.Text.Direction
import RpcMetrics.Text.DomainTable
import RpcMetrics.Text.LetterCase
import RpcMetrics.Text.Punycode

/-!
# Domain names

A domain name is made of labels with points between them.  Its characters take one form each, so
that case and width make no difference, and some are left out.  A label in Punycode stands for
the label that it spells, which has to be in that form already.
-/
namespace RpcMetrics.Http.Domain

/-- What becomes of a character, if it may stand in a domain name. -/
def form? (c : Char) : Option (List Char) :=
  if c.toNat < 0x80 then some [c.toLower]
  else if c = Text.joiner ∨ c = Text.nonJoiner then some [c]
  else if !Text.inRanges Text.domainRanges c then none
  else if Text.inRanges Text.droppedRanges c then some []
  else
    match Text.asciiRuns.find? fun (first, last, _) => first ≤ c.toNat && c.toNat ≤ last with
    | some (first, _, target) => some [Char.ofNat (target.toNat + (c.toNat - first))]
    | none =>
      match Text.asciiTexts.lookup c.toNat with
      | some text => some text.toList
      | none => some [Text.lowerChar c]

/-- Whether a character is in its form. -/
def isFormed (c : Char) : Bool := form? c == some [c] && !Text.inRanges Text.reformedRanges c

/-- The characters that no domain name holds. -/
def isForbidden (c : Char) : Bool :=
  c.toNat < 0x21 || c == '\x7f' || "\"#%/:<>?@[\\]^\x60\x7b|\x7d".toList.contains c

/-- What a label in Punycode begins with. -/
def punycodeMark : List Char := ['x', 'n', '-', '-']

/-- The label that a label stands for. -/
def spelled? (label : List Char) : Option (List Char) :=
  if punycodeMark.isPrefixOf label then
    (Text.Punycode.decode (label.drop punycodeMark.length)).filter fun spelled =>
      spelled.all isFormed && spelled.any fun c => decide (0x80 ≤ c.toNat)
  else some label

/-- Whether a label is in order by itself. -/
def isLabel (label : List Char) : Bool :=
  !(label.head?.any Text.isMark) && Text.joinersFit [] label

/-- Reads a domain name, and gives it with its characters in their forms. -/
def read (text : List Char) : Option (List Char) := do
  let formed := (← text.mapM form?).flatten
  let labels ← (formed.splitOn '.').mapM spelled?
  if formed.isEmpty || formed.any isForbidden || !labels.all isLabel then none
  else if labels.any Text.turns && !labels.all Text.keepsDirection then none
  else return formed

end RpcMetrics.Http.Domain
