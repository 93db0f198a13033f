import RpcMetrics.Pattern.CharClass
import RpcMetrics.Pattern.Edge

/-!
# Forms of patterns

What a pattern is made of, in as simple a form as it takes: rows and alternatives are flat,
characters in a row are one text, alternatives of single characters are a class, and alternatives
that begin alike share their beginning.  Which part of a text a pattern prefers follows the form.
-/
namespace RpcMetrics.Pattern

/-- What a repetition is marked with. -/
inductive Mark where
  /-- A star: as often as one likes. -/
  | star
  /-- A plus: at least once. -/
  | plus
  /-- A question mark: at most once. -/
  | question
  deriving DecidableEq, Repr

/-- What a pattern is made of. -/
inductive Form where
  | empty
  | text (letters : List Char)
  /-- Fits a character of a class, which is one of bytes or of all scripts. -/
  | chars (ofBytes : Bool) (held : CharClass)
  /-- Fits the empty text at some places. -/
  | edge (kind : Edge)
  /-- Fits what a form fits over and over, as often as possible or as seldom. -/
  | repeated (mark : Mark) (eager : Bool) (inner : Form)
  /-- Fits what a form fits, and remembers it. -/
  | captured (inner : Form)
  /-- Fits what the parts fit in a row. -/
  | row (parts : List Form)
  /-- Fits what any of the parts fits, and prefers the first. -/
  | alternatives (parts : List Form)

namespace Form

/-! ### Comparing and measuring -/

mutual

/-- Whether two forms are the same.  What remembers is the same as nothing else. -/
def same : Form → Form → Bool
  | empty, empty => true
  | text first, text second => first == second
  | chars firstBytes first, chars secondBytes second => firstBytes == secondBytes && first == second
  | edge first, edge second => first == second
  | repeated firstMark firstEager first, repeated secondMark secondEager second =>
    firstMark == secondMark && firstEager == secondEager && first.same second
  | row first, row second => sameAll first second
  | alternatives first, alternatives second => sameAll first second
  | _, _ => false

/-- Whether forms are the same one by one. -/
def sameAll : List Form → List Form → Bool
  | [], [] => true
  | first :: firsts, second :: seconds => first.same second && sameAll firsts seconds
  | _, _ => false

end

/-- The better of two lengths, if both are known. -/
def choose (better : Nat → Nat → Nat) (first second : Option Nat) : Option Nat := do
  return better (← first) (← second)

mutual

/-- The length of the shortest text that fits, unless a part fits none. -/
def shortest : Form → Option Nat
  | empty | edge _ => some 0
  | text letters => some letters.length
  | chars _ held => if held.ranges.isEmpty then none else some 1
  | repeated mark _ inner => inner.shortest.map fun length => if mark = .plus then length else 0
  | captured inner => inner.shortest
  | row parts => shortestRow parts
  | alternatives parts => shortestOf parts

/-- The length of the shortest text that parts in a row fit. -/
def shortestRow : List Form → Option Nat
  | [] => some 0
  | part :: parts => choose (· + ·) part.shortest (shortestRow parts)

/-- The length of the shortest text that any of some parts fits. -/
def shortestOf : List Form → Option Nat
  | [] => none
  | [part] => part.shortest
  | part :: parts => choose min part.shortest (shortestOf parts)

end

mutual

/-- Whether every text that fits is empty, and there is one. -/
def isBare : Form → Bool
  | empty | edge _ => true
  | text letters => letters.isEmpty
  | chars _ _ => false
  | repeated mark _ inner => mark == .question && inner.isBare
  | captured inner => inner.isBare
  | row parts => areBare parts
  | alternatives parts => areBare parts

/-- Whether every text that any of some parts fits is empty. -/
def areBare : List Form → Bool
  | [] => true
  | part :: parts => part.isBare && areBare parts

end

mutual

/-- How many parts a form has. -/
def size : Form → Nat
  | empty | text _ | chars _ _ | edge _ => 1
  | repeated _ _ inner | captured inner => inner.size + 1
  | row parts | alternatives parts => sizes parts + 1

/-- How many parts some forms have. -/
def sizes : List Form → Nat
  | [] => 0
  | part :: parts => part.size + sizes parts

end

/-! ### Making forms -/

/-- Fits nothing. -/
def fails : Form := .chars true .empty

/-- Fits a character of a class. -/
def ofChars (ofBytes : Bool) (held : CharClass) : Form :=
  if held.ranges.isEmpty then fails
  else
    match held.only? with
    | some c => .text [c]
    | none => .chars ofBytes held

/-- The parts of a row. -/
def rowParts : Form → List Form
  | empty => []
  | row parts => parts
  | part => [part]

/-- Parts with the texts in a row put together. -/
def glue : List Form → List Form
  | [] => []
  | .text first :: parts =>
    match glue parts with
    | .text second :: parts => .text (first ++ second) :: parts
    | parts => .text first :: parts
  | part :: parts => part :: glue parts

/-- Fits what the parts fit in a row. -/
def ofRow (parts : List Form) : Form :=
  match glue (parts.flatMap rowParts) with
  | [] => .empty
  | [part] => part
  | parts => .row parts

/-- The alternatives that a form has. -/
def options : Form → List Form
  | alternatives parts => parts
  | part => [part]

/-- The class of the characters that a form fits, if it fits only those. -/
def class? : Form → Option CharClass
  | text [c] => some (.single c)
  | chars _ held => some held
  | _ => none

/-- The parts of a row that has several. -/
def rowParts? : Form → Option (List Form)
  | row parts => some parts
  | _ => none

/-- How many parts two rows begin with that are the same. -/
def sharedLength : List Form → List Form → Nat
  | first :: firsts, second :: seconds =>
    if first.same second then sharedLength firsts seconds + 1 else 0
  | _, _ => 0

/-- How many parts all of some rows begin with that are the same. -/
def sharedBy : List (List Form) → Nat
  | [] => 0
  | first :: others => (others.map (sharedLength first)).foldl min first.length

/-- Fits what any of the parts fits.  No more beginnings are shared than `fuel`. -/
def eitherWithin : Nat → List Form → Form
  | fuel, parts =>
    match parts.flatMap options with
    | [] => fails
    | [part] => part
    | parts =>
      match parts.mapM class? with
      | some classes => ofChars false (.ofRanges (classes.flatMap CharClass.ranges))
      | none =>
        -- what all rows begin with is put before the choice between their ends
        match fuel, parts.mapM rowParts? with
        | fuel + 1, some (first :: others) =>
          match sharedBy (first :: others) with
          | 0 => .alternatives parts
          | shared =>
            ofRow (first.take shared ++
              [eitherWithin fuel ((first :: others).map fun row => ofRow (row.drop shared))])
        | _, _ => .alternatives parts

/-- Fits what any of the parts fits, and prefers the first. -/
def ofEither (parts : List Form) : Form := eitherWithin (sizes parts) parts

/-- Fits what a form fits over and over.  What fits empty texts only need not be repeated. -/
def ofRepeated (mark : Mark) (eager : Bool) (inner : Form) : Form :=
  if inner.isBare then
    match mark with
    | .plus => inner
    | _ => .repeated .question eager inner
  else .repeated mark eager inner

end Form
end RpcMetrics.Pattern
