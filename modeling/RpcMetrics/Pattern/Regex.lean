import RpcMetrics.Pattern.Form

/-!
# Regular expressions

Patterns as they are written, before it is settled how their characters are read.  `depth` counts
how far their parts are within one another.
-/
namespace RpcMetrics.Pattern

/-- A character that stands for itself. -/
structure Sign where
  char : Char
  /-- Whether it is written as a byte, in two hexadecimal digits. -/
  isByte : Bool := false
  deriving DecidableEq, Repr

/-- The classes of characters that have a letter of their own. -/
inductive Shorthand where
  | digit
  | blank
  /-- Characters of words. -/
  | word
  deriving DecidableEq, Repr

/-- How two classes of characters are put together. -/
inductive Joint where
  /-- What is in both. -/
  | both
  /-- What is in the first and not in the second. -/
  | without
  /-- What is in one of them only. -/
  | oneOf
  deriving DecidableEq, Repr

mutual

/-- A member of a class in brackets. -/
inductive ClassItem where
  | char (sign : Sign)
  /-- The characters from one to another. -/
  | range (first last : Sign)
  /-- A class that has a letter, or what is not in it. -/
  | shorthand (negated : Bool) (kind : Shorthand)
  /-- A general category, or what is not in it. -/
  | category (negated : Bool) (name : Char)
  /-- A class of ASCII characters that has a name, or what is not in it. -/
  | named (negated : Bool) (name : String)
  /-- A class in brackets, or what is not in it. -/
  | bracket (negated : Bool) (members : ClassSet)

/-- What stands between brackets. -/
inductive ClassSet where
  | items (members : List ClassItem)
  /-- Two classes put together. -/
  | joined (joint : Joint) (first second : ClassSet)

end

/-- The letter of a mode, and whether the mode is switched on. -/
abbrev Switch := Char × Bool

/-- A pattern as it is written. -/
inductive Regex where
  /-- Modes from here on. -/
  | modes (switches : List Switch)
  | char (sign : Sign)
  /-- A point: any character. -/
  | point
  /-- A circumflex: the start of the text, or of a line. -/
  | lineStart
  /-- A dollar sign: the end of the text, or of a line. -/
  | lineEnd
  | edge (kind : Edge)
  /-- A class that has a letter, or what is not in it. -/
  | shorthand (negated : Bool) (kind : Shorthand)
  /-- A general category, or what is not in it. -/
  | category (negated : Bool) (name : Char)
  /-- A class in brackets, or what is not in it. -/
  | bracket (negated : Bool) (members : ClassSet)
  /-- A repetition; an asked one has a question mark after its mark. -/
  | repeated (mark : Mark) (asked : Bool) (inner : Regex)
  /-- A group, perhaps with a name. -/
  | group (name : Option (List Char)) (inner : Regex)
  /-- Parentheses that only keep together what they enclose, and modes in them. -/
  | enclosed (switches : List Switch) (inner : Regex)
  | sequence (parts : List Regex)
  | alternatives (parts : List Regex)

/-- One for a row of several parts. -/
def rowDepth {α : Type} (parts : List α) : Nat := if 1 < parts.length then 1 else 0

mutual

/-- How far the parts of a member of a class are within one another. -/
def ClassItem.depth : ClassItem → Nat
  | .bracket _ members => members.depth + 1
  | _ => 0

/-- How far the parts of a class are within one another. -/
def ClassSet.depth : ClassSet → Nat
  | .items members => ClassItem.listDepth members + rowDepth members
  | .joined _ first second => max first.depth second.depth + 1

/-- The depth of the deepest of some members. -/
def ClassItem.listDepth : List ClassItem → Nat
  | [] => 0
  | item :: items => max item.depth (ClassItem.listDepth items)

end

mutual

/-- How far the parts of a pattern are within one another. -/
def Regex.depth : Regex → Nat
  | .bracket _ members => members.depth + 1
  | .repeated _ _ inner => inner.depth + 1
  | .group _ inner | .enclosed _ inner => inner.depth + 1
  | .sequence parts | .alternatives parts => Regex.listDepth parts + rowDepth parts
  | _ => 0

/-- The depth of the deepest of some parts. -/
def Regex.listDepth : List Regex → Nat
  | [] => 0
  | part :: parts => max part.depth (Regex.listDepth parts)

end

mutual

/-- The names of groups. -/
def Regex.names : Regex → List (List Char)
  | .repeated _ _ inner | .enclosed _ inner => inner.names
  | .group name inner => name.toList ++ inner.names
  | .sequence parts | .alternatives parts => Regex.listNames parts
  | _ => []

/-- The names of groups in some parts. -/
def Regex.listNames : List Regex → List (List Char)
  | [] => []
  | part :: parts => part.names ++ Regex.listNames parts

end

/-- A row of one part is no deeper than the part, and a group is. -/
example : (Regex.sequence [.group none (.sequence [.point, .point])]).depth = 2 := by
  decide +kernel

end RpcMetrics.Pattern
