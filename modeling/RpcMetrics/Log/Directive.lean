import RpcMetrics.Log.ValueTest
import RpcMetrics.Text.Blank
import RpcMetrics.Text.LetterOrDigit

/-!
# Log directives

A directive says up to which level something is logged.  It may name a target, which what it is
about begins with, and in brackets a span and a field with a test of its value, as in
`target[span{field=test}]=level`.  A level alone is about everything, and without a level
everything of what is named is logged.
-/
namespace RpcMetrics.Log

/-- How many levels are let through, from the most urgent on; none at zero. -/
abbrev Threshold := Nat

/-- The names of thresholds, by their number. -/
def thresholdNames : List String := ["off", "error", "warn", "info", "debug", "trace"]

/-- The threshold that a text stands for: its number, or its name in letters of either case. -/
def Threshold.ofText? (text : String) : Option Threshold :=
  match Decimal.readUnsigned text with
  | some n => if n < thresholdNames.length then some n else none
  | none => thresholdNames.findIdx? fun name => name.toList == text.toList.map Char.toLower

/-- What is asked of a field: that there is one with a name, and perhaps of its value. -/
structure FieldTest where
  name : String
  /-- What is asked of its value. -/
  value : Option ValueTest
  deriving DecidableEq, Repr

/-- Reads what is asked of a field. -/
def FieldTest.ofText? (text : String) : Option FieldTest :=
  match text.toList.splitOn '=' with
  | name :: value :: _ => do
    return ⟨String.ofList name, some (← ValueTest.ofText? (String.ofList value))⟩
  | _ => some ⟨text, none⟩

/-- What is logged of something. -/
structure Directive where
  /-- What the targets begin with. -/
  target : String
  /-- The name of the span, if it matters. -/
  span : Option String := none
  /-- What is asked of a field, if it matters. -/
  field : Option FieldTest := none
  threshold : Threshold
  deriving DecidableEq, Repr

namespace Directive

/-- What lets everything through. -/
def everything : Threshold := 5

/-! ### Reading -/

/-- The threshold after an equals sign, where nothing stands for everything. -/
def thresholdAfter (text : String) : Option Threshold :=
  if text.isEmpty then some everything else Threshold.ofText? text

/-- Whether a directive may begin with the character. -/
def canBegin (c : Char) : Bool := "-:_".toList.contains c || Text.isLetterOrDigit c

/-- Whether the character may stand in a target. -/
def isTargetChar (c : Char) : Bool := c != '=' && c != '['

/-- How many bytes characters take. -/
def size (text : List Char) : Nat := (text.map Char.utf8Size).foldr (· + ·) 0

/-- A directive as it is read.  Blanks around it are no part of its form, but its parts are cut
out of the text by their places in the form, so that blanks before it shift them. -/
structure Reading where
  text : String
  /-- The text without the blanks around it. -/
  form : List Char

namespace Reading

/-- The part from a place on, up to where something else begins.  Both are given by what follows
them in the form. -/
def cut (reading : Reading) (first rest : List Char) : Option String :=
  String.fromUTF8? (reading.text.toUTF8.extract (size reading.form - size first)
    (size reading.form - size rest))

/-- The part from a place on, up to the end. -/
def cutAll (reading : Reading) (first : List Char) : Option String :=
  String.fromUTF8? (reading.text.toUTF8.extract (size reading.form - size first)
    reading.text.utf8ByteSize)

/-- A directive of which all but the level has been read. -/
def finish (reading : Reading) (target : String) (span : Option String)
    (field : Option FieldTest) (rest : List Char) : Option Directive :=
  match rest with
  | [] => some ⟨target, span, field, everything⟩
  | '=' :: level => do
    return ⟨target, span, field, ← thresholdAfter (← reading.cutAll level)⟩
  | _ => none

/-- A directive after its target and an opening bracket. -/
def readSpan (reading : Reading) (target : String) (text : List Char) : Option Directive := do
  let after := text.dropWhile fun c => c != ']' && c != '\x7b'
  let name ← reading.cut text after
  match after with
  | ']' :: rest => reading.finish target name none rest
  | '\x7b' :: text => do
    let after := text.dropWhile (· != '\x7d')
    let field ← reading.cut text after
    match after with
    | '\x7d' :: ']' :: rest => do
      if field.isEmpty then none
      reading.finish target (if name.isEmpty then none else name)
        (some (← FieldTest.ofText? field)) rest
    | _ => none
  | _ => none

end Reading

def read (text : String) : Option Directive := do
  let reading : Reading := ⟨text, Text.dropBlanksAtEnd (Text.dropBlanks text.toList)⟩
  let rest := reading.form.dropWhile isTargetChar
  let target ← reading.cut reading.form rest
  match reading.form, rest with
  | '[' :: inside, _ => reading.readSpan "" inside
  | first :: _, rest =>
    if !canBegin first then none
    match rest with
    | [] =>
      match Threshold.ofText? text with
      | some threshold => return ⟨"", none, none, threshold⟩
      | none => return ⟨text, none, none, everything⟩
    | '[' :: inside => reading.readSpan target inside
    | _ => reading.finish target none none rest
  | [], _ => none

/-! ### What a directive is about -/

/-- Whether the target is the one of a part of the program. -/
def isAbout (directive : Directive) (source : Source) : Bool :=
  directive.target.toList.isPrefixOf source.target.toList

/-- Whether the directive is about events wherever they happen. -/
def isGeneral (directive : Directive) : Bool :=
  directive.span.isNone && directive.field.all fun test => test.value.isNone

/-- The name under which events keep their message. -/
def messageName : String := "message"

/-- Whether the directive is about an event. -/
def coversEvent (directive : Directive) (event : Event) : Bool :=
  directive.isGeneral && directive.isAbout event.source
    && directive.field.all fun test =>
      test.name == messageName || (event.fields.lookup test.name).isSome

/-- Whether the directive is about what happens in a span. -/
def coversSpan (directive : Directive) (span : Span) : Bool :=
  (directive.span.isSome || directive.field.isSome) && directive.isAbout span.source
    && directive.span.all (· == span.name)
    && directive.field.all fun test => (span.fields.lookup test.name).isSome

/-- Whether a span has the values that are asked for. -/
def fitsSpan (directive : Directive) (span : Span) : Bool :=
  directive.field.all fun test =>
    match test.value, span.fields.lookup test.name with
    | some test, some value => test.holds value
    | _, _ => true

/-- Whether the second directive says something else of the same as the first. -/
def replaces (first second : Directive) : Bool :=
  first.target == second.target && first.span == second.span && first.field == second.field

example : (read "a[b\x7bc=d.*\x7d]=warn").map (fun d => (d.target, d.span, d.threshold))
    = some ("a", some "b", 2) := by decide +kernel

end Directive
end RpcMetrics.Log
