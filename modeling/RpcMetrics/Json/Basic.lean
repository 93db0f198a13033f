import RpcMetrics.Decimal.Layout

/-!
# JSON values

A JSON value keeps what later answers can show: the members of an object in their order with
repeated names, and whole numbers apart from doubles.  Some well-formed texts have no value, such
as a number beyond all doubles or half of a surrogate pair.  They stand as `unreadable`, which is
an error where a value is wanted and harmless where it is passed over.
-/
namespace RpcMetrics

/-- A JSON value. -/
inductive Json where
  | null
  | bool (value : Bool)
  /-- A whole number of 64 bits, with or without sign. -/
  | integer (value : Int)
  /-- Any other number. -/
  | float (value : Float)
  | string (value : String)
  | array (items : List Json)
  /-- Named values in their order; names may repeat. -/
  | object (members : List (String × Json))
  /-- A well-formed text without a value. -/
  | unreadable
  deriving Repr

namespace Json

instance : Inhabited Json := ⟨null⟩

/-- A double as a JSON number; infinities and what is no number become null. -/
def ofFloat (x : Float) : Json := if Decimal.isFinite x then float x else null

/-- A whole number of 64 bits. -/
def ofUInt64 (n : UInt64) : Json := integer n.toNat

/-- A whole number of 64 bits with sign. -/
def ofInt64 (n : Int64) : Json := integer n.toInt

/-- Texts in their order. -/
def ofTexts (texts : List String) : Json := array (texts.map string)

/-- A value that may be missing. -/
def ofOption {α : Type} (encode : α → Json) : Option α → Json
  | none => null
  | some value => encode value

/-- Numbers in JSON: the shortest digits, of two equally near ones the even, around a point for
decimal exponents from -5 to 15 and never without a point or an exponent. -/
def layout : Decimal.Layout := ⟨.even, some (-5, 15), true⟩

mutual

/-- Whether every part of a value has a value. -/
def isReadable : Json → Bool
  | unreadable => false
  | array items => allReadable items
  | object members => membersReadable members
  | _ => true

/-- Whether every value of a list is readable. -/
def allReadable : List Json → Bool
  | [] => true
  | item :: items => item.isReadable && allReadable items

/-- Whether every value of a list of members is readable. -/
def membersReadable : List (String × Json) → Bool
  | [] => true
  | (_, value) :: members => value.isReadable && membersReadable members

end

end Json
end RpcMetrics
