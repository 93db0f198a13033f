import RpcMetrics.Json.Token

/-!
# Reading JSON

Tokens are read one at a time.  The containers that are open are kept innermost first, each with
what it holds so far in reverse, and a phase says what may come next.  A container within too many
others is well-formed but has no value, and so has an object with a name that has none.
-/
namespace RpcMetrics.Json

/-- A container that is open. -/
inductive Frame where
  /-- An array with its items, last first. -/
  | array (items : List Json)
  /-- An object with its members, last first, the name whose value comes next, and whether all
  names have been readable. -/
  | object (members : List (String × Json)) (name : String) (readable : Bool)

/-- What may come next. -/
inductive Phase where
  | value
  /-- The first item of an array, or its end. -/
  | firstItem
  /-- The first name of an object, or its end. -/
  | firstName
  | name
  | colon
  /-- A comma or the end of the innermost container. -/
  | separator
  /-- Nothing more: this is the value read. -/
  | finished (value : Json)

/-- How far a text has been read. -/
structure Progress where
  /-- The open containers, innermost first. -/
  frames : List Frame
  phase : Phase

namespace Progress

/-- Nothing has been read. -/
def start : Progress := ⟨[], .value⟩

/-- How many containers may be open at once for the innermost to have a value. -/
def depthLimit : Nat := 127

/-- A value has been read within the open containers. -/
def push (frames : List Frame) (value : Json) : Progress :=
  match frames with
  | [] => ⟨[], .finished value⟩
  | .array items :: outer => ⟨.array (value :: items) :: outer, .separator⟩
  | .object members name readable :: outer =>
    ⟨.object ((name, value) :: members) name readable :: outer, .separator⟩

/-- A container has been read within the open ones. -/
def pushContainer (outer : List Frame) (value : Json) : Progress :=
  push outer (if outer.length < depthLimit then value else .unreadable)

/-- A name has been read. -/
def pushName (frames : List Frame) (name : Option String) : Option Progress :=
  match frames, name with
  | .object members _ readable :: outer, some name =>
    some ⟨.object members name readable :: outer, .colon⟩
  | .object members _ _ :: outer, none => some ⟨.object members "" false :: outer, .colon⟩
  | _, _ => none

/-- The innermost array ends. -/
def closeArray (frames : List Frame) : Option Progress :=
  match frames with
  | .array items :: outer => some (pushContainer outer (.array items.reverse))
  | _ => none

/-- The innermost object ends. -/
def closeObject (frames : List Frame) : Option Progress :=
  match frames with
  | .object members _ readable :: outer =>
    some (pushContainer outer (if readable then .object members.reverse else .unreadable))
  | _ => none

/-- A value begins. -/
def begin (frames : List Frame) : Token → Option Progress
  | .openArray => some ⟨.array [] :: frames, .firstItem⟩
  | .openObject => some ⟨.object [] "" true :: frames, .firstName⟩
  | .text (some text) => some (push frames (.string text))
  | .text none => some (push frames .unreadable)
  | .scalar value => some (push frames value)
  | _ => none

/-- The progress after one more token, if the token may come next. -/
def step (p : Progress) (token : Token) : Option Progress :=
  match p.phase, token with
  | .value, token => begin p.frames token
  | .firstItem, .closeArray => closeArray p.frames
  | .firstItem, token => begin p.frames token
  | .firstName, .closeObject => closeObject p.frames
  | .firstName, .text name => pushName p.frames name
  | .name, .text name => pushName p.frames name
  | .colon, .colon => some ⟨p.frames, .value⟩
  | .separator, .comma =>
    match p.frames with
    | .array _ :: _ => some ⟨p.frames, .value⟩
    | .object .. :: _ => some ⟨p.frames, .name⟩
    | [] => none
  | .separator, .closeArray => closeArray p.frames
  | .separator, .closeObject => closeObject p.frames
  | _, _ => none

/-- The progress after the tokens of a list. -/
def run (p : Progress) (tokens : List Token) : Option Progress := tokens.foldlM step p

end Progress

/-- The value of a list of tokens. -/
def ofTokens (tokens : List Token) : Option Json := do
  match (← Progress.start.run tokens).phase with
  | .finished value => return value
  | _ => none

/-- Reads a JSON text.  The result may be unreadable where the text is well-formed. -/
def parse (text : String) : Option Json := do
  ofTokens (← Token.lex text.toList)

end RpcMetrics.Json
