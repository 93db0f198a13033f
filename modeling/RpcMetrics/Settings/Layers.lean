import RpcMetrics.Environment.Basic
import RpcMetrics.Settings.Codec
import RpcMetrics.Toml.Document

/-!
# Layers of settings

Settings come from a configuration file, if there is one, and from the environment, which is laid
over it.  A name at the top of the file or of a variable may be a path into the sections; what
stands in the way of a path gives way to it.  Tables are merged, and anything else is replaced.
All names become lower case.
-/
namespace RpcMetrics

namespace Settings

/-! ### Paths -/

/-- A step of a path. -/
inductive PathStep where
  /-- Into the member of an object. -/
  | member (name : String)
  /-- Into the item of an array, counted from its end if the index is below zero. -/
  | item (index : Int)
  deriving DecidableEq, Repr

/-- Whether the character may stand in a step of a path. -/
def isPathChar (c : Char) : Bool := c.isAlphanum || c == ' ' || c == '_' || c == '-'

/-- The text without the spaces and tabs before it. -/
def dropGap (text : List Char) : List Char := text.dropWhile fun c => c == ' ' || c == '\t'

/-- An index at the start of a text, up to its closing bracket. -/
def readIndex (text : List Char) : Option (Int × List Char) := do
  let text := dropGap text
  let (negative, text) := if text.head? = some '-' then (true, text.drop 1) else (false, text)
  let n : Int ← Decimal.readDigits (text.takeWhile Char.isDigit)
  let index := if negative then 0 - n else n
  match dropGap (text.dropWhile Char.isDigit) with
  | ']' :: rest =>
    if Decimal.minSigned ≤ index ∧ index ≤ Decimal.maxSigned then some (index, rest) else none
  | _ => none

/-- The steps after the first, of which there are no more than `fuel`. -/
def readSteps : Nat → List Char → Option (List PathStep)
  | _, [] => some []
  | 0, _ => none
  | fuel + 1, '.' :: text => do
    let name := text.takeWhile isPathChar
    if name.isEmpty then none
    let steps ← readSteps fuel (text.dropWhile isPathChar)
    return .member (String.ofList name) :: steps
  | fuel + 1, '[' :: text => do
    let (index, text) ← readIndex text
    return .item index :: (← readSteps fuel text)
  | _, _ => none

/-- Reads a path: a name, and steps after it. -/
def readPath (text : String) : Option (List PathStep) := do
  let chars := text.toList
  let name := chars.takeWhile isPathChar
  if name.isEmpty then none
  let steps ← readSteps chars.length (chars.dropWhile isPathChar)
  return .member (String.ofList name) :: steps

/-- The members of a value, none if it is no object. -/
def membersOf : Json → List (String × Json)
  | .object members => members
  | _ => []

/-- The items of a value, none if it is no array. -/
def itemsOf : Json → List Json
  | .array items => items
  | _ => []

/-- The members with another value under a name. -/
def setMember (name : String) (value : Json) : List (String × Json) → List (String × Json)
  | [] => [(name, value)]
  | member :: members =>
    if member.1 == name then (name, value) :: members
    else member :: setMember name value members

/-- The place that an index stands for among so many items. -/
def place? (count : Nat) (index : Int) : Option Nat :=
  if 0 ≤ index then some index.toNat
  else if index.natAbs ≤ count then some (count - index.natAbs)
  else none

/-- The items with another value at a place; items that are missing before it are null. -/
def setItem (place : Nat) (value : Json) (items : List Json) : List Json :=
  (items ++ List.replicate (place + 1 - items.length) Json.null).set place value

mutual

/-- The members of an object laid over a value. -/
def overlayMembers (base : List (String × Json)) : List (String × Json) → List (String × Json)
  | [] => base
  | (name, value) :: members =>
    let name := Text.lower name
    let laid := overlay ((base.lookup name).getD (.object [])) value
    overlayMembers (setMember name laid base) members

/-- A value laid over another: members are merged, anything else is replaced. -/
def overlay (base : Json) : Json → Json
  | .object [] => base
  | .object (member :: members) =>
    .object (overlayMembers (membersOf base) (member :: members))
  | value => value

end

/-- A value laid over what a path leads to.  An item at the end of a path is replaced. -/
def overlayAt (value : Json) (base : Json) : List PathStep → Json
  | [] => overlay base value
  | .member name :: steps =>
    let name := Text.lower name
    let members := membersOf base
    .object (setMember name
      (overlayAt value ((members.lookup name).getD (.object [])) steps) members)
  | .item index :: steps =>
    let items := itemsOf base
    match place? items.length index with
    | none => base
    | some place =>
      let item := if steps.isEmpty then value
        else overlayAt value ((items[place]?).getD .null) steps
      .array (setItem place item items)

/-- A value laid over what a name leads to, which stands for itself if it is no path. -/
def overlayName (base : Json) (name : String) (value : Json) : Json :=
  overlayAt value base ((readPath name).getD [.member name])

/-- Named values laid over a value. -/
def overlayAll (base : Json) (values : List (String × Json)) : Json :=
  values.foldl (fun base entry => overlayName base entry.1 entry.2) base

/-! ### Sources -/

/-- What the names of variables that hold settings begin with. -/
def variablePrefix : String := "APM_METRICS"

/-- The text with a point for every two underscores in a row. -/
def pointed : List Char → List Char
  | '_' :: '_' :: rest => '.' :: pointed rest
  | c :: rest => c :: pointed rest
  | [] => []

/-- The name of the setting that a variable holds, if it holds one. -/
def settingName? (key : String) : Option String :=
  let name := (Text.lower key).toList
  let start := (Text.lower variablePrefix).toList ++ ['_', '_']
  if start.isPrefixOf name then some (String.ofList (pointed (name.drop start.length))) else none

/-- The settings that variables hold, under their names. -/
def ofVariables (environment : Environment) : List (String × Json) :=
  environment.entries.filterMap fun entry =>
    (settingName? entry.1).map fun name => (name, .string entry.2)

/-- A configuration file. -/
inductive File where
  /-- No file is named. -/
  | unnamed
  /-- The file that is named cannot be read. -/
  | missing
  | holding (text : String)
  deriving DecidableEq, Repr

/-- The named values of a configuration file. -/
def File.values : File → Except Failure (List (String × Json))
  | .unnamed => .ok []
  | .missing => .error (.configuration "the configuration file cannot be read")
  | .holding text =>
    match (Toml.parse text).bind Toml.Value.toJson? with
    | some (.object members) => .ok members
    | _ => .error (.configuration "the configuration file is out of order")

/-- Loads all settings from a file and the environment. -/
def load (file : File) (environment : Environment) : Except Failure Settings := do
  let base := overlayAll (.object []) (← file.values)
  let laid := overlayAll base (ofVariables environment)
  match read .lenient laid with
  | some settings => return settings
  | none => throw (.configuration "a setting has a value of the wrong kind")

end Settings
end RpcMetrics
