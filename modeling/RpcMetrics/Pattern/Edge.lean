/-!
# Edges

What a pattern can ask of a place in a text: that it is at the start or the end of the text, of a
line or of a word.  Words are those of ASCII characters.
-/
namespace RpcMetrics.Pattern

/-- What is asked of a place. -/
inductive Edge where
  /-- It is the start of the text. -/
  | textStart
  /-- It is the end of the text. -/
  | textEnd
  /-- It is the start of a line, whose end may be a carriage return and a line feed. -/
  | lineStart (returns : Bool)
  /-- It is the end of a line, which may be a carriage return and a line feed. -/
  | lineEnd (returns : Bool)
  /-- A word begins or ends there. -/
  | wordEdge
  /-- No word begins or ends there. -/
  | noWordEdge
  | wordStart
  | wordEnd
  deriving DecidableEq, Repr

namespace Edge

/-- Whether a character is part of a word, if it is there. -/
def inWord (c : Option Char) : Bool := c.any fun c => c.isAlphanum || c == '_'

/-- Whether the place between two characters is as it should be. -/
def isAt (before after : Option Char) : Edge → Bool
  | textStart => before.isNone
  | textEnd => after.isNone
  | lineStart false => before.isNone || before == some '\n'
  | lineStart true =>
    before.isNone || before == some '\n' || before == some '\r' && after != some '\n'
  | lineEnd false => after.isNone || after == some '\n'
  | lineEnd true =>
    after.isNone || after == some '\r' || after == some '\n' && before != some '\r'
  | wordEdge => inWord before != inWord after
  | noWordEdge => inWord before == inWord after
  | wordStart => !inWord before && inWord after
  | wordEnd => inWord before && !inWord after

/-- Whether what comes before a place makes it as it should be, whatever comes after it. -/
def isBehind (before : Option Char) : Edge → Bool
  | textStart => before.isNone
  | lineStart _ => before.isNone || before == some '\n'
  | _ => false

end Edge
end RpcMetrics.Pattern
