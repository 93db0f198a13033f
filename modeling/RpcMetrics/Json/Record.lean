import RpcMetrics.Json.Basic
import RpcMetrics.Decimal.Integer

/-!
# Records in JSON

A record is read from an object with its fields as members, in any order and among others, or
from an array with its fields in order.  A field that is named twice makes the object no record.
What may be missing is decided field by field: a required field may not, a defaulted one takes
its default, and an optional one is then absent, as it is when it is null.
-/
namespace RpcMetrics.Json

/-! ### Scalars -/

/-- A truth value. -/
def toBool? : Json → Option Bool
  | bool value => some value
  | _ => none

/-- A text. -/
def toText? : Json → Option String
  | string text => some text
  | _ => none

/-- A whole number of 64 bits. -/
def toUInt64? : Json → Option UInt64
  | integer n =>
    if 0 ≤ n ∧ n ≤ (Decimal.maxUnsigned : Int) then some (UInt64.ofNat n.toNat) else none
  | _ => none

/-- A whole number of 64 bits with sign. -/
def toInt64? : Json → Option Int64
  | integer n =>
    if Decimal.minSigned ≤ n ∧ n ≤ Decimal.maxSigned then some (Int64.ofInt n) else none
  | _ => none

/-- A number as the double nearest to it. -/
def toFloat? : Json → Option Float
  | float x => some x
  | integer n =>
    some (if n < 0 then -(UInt64.ofNat n.natAbs).toFloat else (UInt64.ofNat n.toNat).toFloat)
  | _ => none

/-- The items of an array, each decoded. -/
def toList? {α : Type} (decode : Json → Option α) : Json → Option (List α)
  | array items => items.mapM decode
  | _ => none

/-- Texts in their order. -/
def toTexts? : Json → Option (List String) := toList? toText?

/-- A value that null stands for the absence of. -/
def toOption? {α : Type} (decode : Json → Option α) : Json → Option (Option α)
  | null => some none
  | value => (decode value).map some

/-- One of several things by its name.  An object whose only member has that name and the value
null stands for it too. -/
def toNamed? {α : Type} (ofName? : String → Option α) : Json → Option α
  | string name => ofName? name
  | object [(name, null)] => ofName? name
  | _ => none

/-! ### Fields -/

/-- The fields of a record that have been found. -/
structure Record where
  fields : List (String × Json)
  /-- Whether they were found by their place in an array. -/
  positional : Bool

namespace Record

def get? (record : Record) (name : String) : Option Json := record.fields.lookup name

/-- A field that may not be missing. -/
def required {α : Type} (record : Record) (name : String) (decode : Json → Option α) : Option α :=
  (record.get? name).bind decode

/-- A field that has a default. -/
def defaulted {α : Type} (record : Record) (name : String) (decode : Json → Option α)
    (default : α) : Option α :=
  match record.get? name with
  | none => some default
  | some value => decode value

/-- A field that may be null or, unless its place in an array has to be held, missing. -/
def nullable {α : Type} (record : Record) (name : String) (decode : Json → Option α) :
    Option (Option α) :=
  match record.get? name with
  | none => if record.positional then none else some none
  | some value => toOption? decode value

/-- Whether no name is listed twice. -/
def distinct : List String → Bool
  | [] => true
  | name :: names => !names.contains name && distinct names

/-- The fields named in an object. -/
def ofMembers? (names : List String) (members : List (String × Json)) : Option Record :=
  let fields := members.filter fun member => names.contains member.1
  if distinct (fields.map Prod.fst) then some ⟨fields, false⟩ else none

end Record

/-- The fields of a record with the given names.  Only where `spare` holds may an array have more
items than the record has fields. -/
def toRecord? (names : List String) (spare : Bool) : Json → Option Record
  | object members => Record.ofMembers? names members
  | array items =>
    if !spare && decide (names.length < items.length) then none
    else some ⟨names.zip items, true⟩
  | _ => none

/-- **A whole number is read back.** -/
theorem toUInt64?_ofUInt64 (n : UInt64) : toUInt64? (ofUInt64 n) = some n := by
  have := n.toNat_lt
  simp [toUInt64?, ofUInt64, Decimal.maxUnsigned]
  omega

/-- **A whole number with sign is read back.** -/
theorem toInt64?_ofInt64 (n : Int64) : toInt64? (ofInt64 n) = some n := by
  have hlow := n.le_toInt
  have hhigh := n.toInt_lt
  simp [toInt64?, ofInt64, Decimal.minSigned, Decimal.maxSigned]
  omega

/-- **Texts are read back.** -/
theorem toTexts?_ofTexts (texts : List String) : toTexts? (ofTexts texts) = some texts := by
  induction texts with
  | nil => rfl
  | cons text texts ih =>
    simp only [toTexts?, ofTexts, toList?, List.map_cons, List.mapM_cons] at ih ⊢
    rw [ih]
    rfl

end RpcMetrics.Json
