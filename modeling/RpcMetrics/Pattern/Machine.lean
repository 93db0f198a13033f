import RpcMetrics.Pattern.Form

/-!
# Patterns as machines

A pattern is a machine of numbered steps.  A step takes a character, asks something of the place,
offers other steps in the order in which they are preferred, or stops.  Threads follow the steps
side by side, the preferred ones first, and a thread that comes to a step where another one has
been ends there.  Once a thread stops, those after it end as well.  A text fits if a thread stops
at its end.
-/
namespace RpcMetrics

namespace Pattern

/-- A step of a machine, with the numbers of the steps that may follow it. -/
inductive Step where
  /-- Takes a character of a class. -/
  | take (chars : CharClass) (next : Nat)
  | ask (kind : Edge) (next : Nat)
  /-- Goes on with any of some steps, and prefers the first. -/
  | choose (options : List Nat)
  | stop
  deriving DecidableEq, Repr

end Pattern

/-- A pattern, as the machine that looks for it. -/
structure Pattern where
  steps : Array Pattern.Step
  /-- The step that comes first. -/
  start : Nat
  deriving DecidableEq, Repr

namespace Pattern

/-! ### Building machines -/

/-- What adds to the steps of a machine. -/
abbrev Building := StateM (Array Step)

/-- Adds a step, and gives its number. -/
def add (step : Step) : Building Nat := modifyGet fun steps => (steps.size, steps.push step)

/-- Settles what a step does. -/
def settle (number : Nat) (step : Step) : Building Unit :=
  modify fun steps => steps.setIfInBounds number step

/-- Goes on with either of two steps: with the first if it is `eager`. -/
def Step.either (eager : Bool) (first second : Nat) : Step :=
  .choose (if eager then [first, second] else [second, first])

/-- Adds the steps that take a text. -/
def addText (next : Nat) : List Char → Building Nat
  | [] => pure next
  | c :: rest => do add (.take (.single c) (← addText next rest))

mutual

/-- Adds the steps of a form before the step that follows it, and gives the number of the first.
What may take no character is repeated from a step of its own, so that its first round is a full
one. -/
def addForm (next : Nat) : Form → Building Nat
  | .empty => pure next
  | .text letters => addText next letters
  | .chars _ held => add (.take held next)
  | .edge kind => add (.ask kind next)
  | .captured inner => addForm next inner
  | .repeated .question eager inner => do add (.either eager (← addForm next inner) next)
  | .repeated .plus eager inner => do
    -- the choice holds its place before the form that leads back to it
    let again ← add .stop
    let first ← addForm again inner
    settle again (.either eager first next)
    return first
  | .repeated .star eager inner => do
    let again ← add .stop
    let first ← addForm again inner
    settle again (.either eager first next)
    if inner.shortest.any (0 < ·) then return again else add (.either eager first next)
  | .row parts => addRow next parts
  | .alternatives parts => do add (.choose (← addAll next parts))

/-- Adds the steps of parts in a row before the step that follows them. -/
def addRow (next : Nat) : List Form → Building Nat
  | [] => pure next
  | part :: parts => do addForm (← addRow next parts) part

/-- Adds the steps of each part before the step that follows all of them. -/
def addAll (next : Nat) : List Form → Building (List Nat)
  | [] => pure []
  | part :: parts => do
    let first ← addForm next part
    return first :: (← addAll next parts)

end

/-- The pattern that looks for a form from each place on, and prefers the first. -/
def ofForm (form : Form) : Pattern :=
  let build : Building Nat := do
    let start ← add .stop
    let first ← addForm (← add .stop) form
    settle start (.choose [first, ← add (.take .all start)])
    return start
  let (start, steps) := build.run #[]
  ⟨steps, start⟩

/-! ### Running machines -/

/-- The steps to go on with at once, if edges are as `isAt` says. -/
def onwards (isAt : Edge → Bool) : Step → List Nat
  | .choose options => options
  | .ask kind next => if isAt kind then [next] else []
  | .take _ _ | .stop => []

/-- How often one step can lead to another without a character. -/
def jumps (pattern : Pattern) : Nat :=
  (pattern.steps.toList.flatMap (onwards fun _ => true)).length

/-- The steps that some steps lead to, in order, after those found so far, which come last one
first.  A step is found once. -/
def reachWithin (pattern : Pattern) (isAt : Edge → Bool) : Nat → List Nat → List Nat → List Nat
  | 0, _, found | _, [], found => found.reverse
  | fuel + 1, number :: others, found =>
    if found.contains number then pattern.reachWithin isAt fuel others found
    else
      let next := (pattern.steps[number]?).elim [] (onwards isAt)
      pattern.reachWithin isAt fuel (next ++ others) (number :: found)

/-- The steps that some steps lead to, in order. -/
def reach (pattern : Pattern) (isAt : Edge → Bool) (numbers : List Nat) : List Nat :=
  pattern.reachWithin isAt (numbers.length + pattern.jumps) numbers []

/-- The threads at a place, from those that what comes before it leads to.  They are followed anew
if what comes after it matters to any of them. -/
def meet (pattern : Pattern) (before after : Option Char) (threads : List Nat) : List Nat :=
  let isOpened : Nat → Bool := fun number =>
    match pattern.steps[number]? with
    | some (.ask kind _) => kind.isAt before after && !kind.isBehind before
    | _ => false
  let isKept : Nat → Bool := fun number =>
    match pattern.steps[number]? with
    | some (.choose _) => false
    | _ => true
  if threads.any isOpened then pattern.reach (Edge.isAt before after) (threads.filter isKept)
  else threads

/-- The steps that follow those that take a character, up to a step that stops. -/
def advance (pattern : Pattern) (c : Char) : List Nat → List Nat
  | [] => []
  | number :: others =>
    match pattern.steps[number]? with
    | some .stop => []
    | some (.take chars next) =>
      if chars.holds c then next :: pattern.advance c others else pattern.advance c others
    | _ => pattern.advance c others

/-- Whether a thread stops at the end of a text. -/
def stopsAtEnd (pattern : Pattern) (before : Option Char) (threads : List Nat) :
    List Char → Bool
  | [] =>
    (pattern.meet before none threads).any fun number => pattern.steps[number]? == some .stop
  | c :: rest =>
    let next := pattern.advance c (pattern.meet before (some c) threads)
    pattern.stopsAtEnd (some c) (pattern.reach (Edge.isBehind (some c)) next) rest

/-- Whether the part that the pattern finds in a text goes up to the end. -/
def fits (pattern : Pattern) (text : String) : Bool :=
  pattern.stopsAtEnd none (pattern.reach (Edge.isBehind none) [pattern.start]) text.toList

/-- The first alternative is preferred, even if the second one gets further. -/
example : (ofForm (.alternatives [.text ['a'], .text ['a', 'b']])).fits "ab" = false := by
  decide +kernel

/-- The part that begins first is preferred, even if one that begins later goes up to the end. -/
example : (ofForm (.alternatives [.text ['l'], .text ['e', 'r']])).fits "caller" = false := by
  decide +kernel

/-- An empty round of a repetition does not end it. -/
example : (ofForm (.repeated .star true (.alternatives [.edge .wordEdge, .text ['a']]))).fits "aa"
    = true := by
  decide +kernel

end Pattern
end RpcMetrics
