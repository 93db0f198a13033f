import RpcMetrics.Decimal.Integer
import RpcMetrics.Http.Domain
import RpcMetrics.Json.Token

/-!
# Hosts

The host of an address is a domain name or a number.  Numbers of four bytes are written in up to
four parts, in base ten, eight or sixteen, and a name that ends like such a number has to be one.
Numbers of sixteen bytes stand in brackets, in groups of two bytes, and two colons in a row stand
for as many groups of zero as are missing.
-/
namespace RpcMetrics.Http

/-- A host. -/
inductive Host where
  | named (name : String)
  /-- A number of four bytes. -/
  | short (number : Nat)
  /-- A number of sixteen bytes, in its groups of two. -/
  | long (groups : List Nat)
  deriving DecidableEq, Repr

namespace Host

/-- A number in base sixteen. -/
def hexText (n : Nat) : String := String.ofList (Nat.toDigits 16 n)

/-- The host as it is written. -/
def text : Host → String
  | named name => name
  | short number =>
    ".".intercalate ([24, 16, 8, 0].map fun shift => Decimal.writeNat (number >>> shift % 256))
  | long groups => "[" ++ ":".intercalate (groups.map hexText) ++ "]"

/-- The number that digits in a base stand for. -/
def readDigits? (base : Nat) (digits : List Char) : Option Nat :=
  digits.foldlM (fun n c => ((Json.hexDigit? c).filter (· < base)).map (n * base + ·)) 0

/-! ### Numbers of four bytes -/

/-- A part of a number.  A mark of a base alone is zero. -/
def readPart? : List Char → Option Nat
  | [] => none
  | '0' :: 'x' :: digits | '0' :: 'X' :: digits => readDigits? 16 digits
  | '0' :: digits => readDigits? 8 digits
  | digits => readDigits? 10 digits

/-- The labels of a domain name, without an empty one at its end. -/
def parts (domain : List Char) : List (List Char) :=
  match (domain.splitOn '.').reverse with
  | [] :: others => others.reverse
  | labels => labels.reverse

/-- Whether a domain name ends like a number. -/
def endsLikeNumber (domain : List Char) : Bool :=
  (parts domain).getLast?.any fun label =>
    (!label.isEmpty && label.all Char.isDigit) || (readPart? label).isSome

/-- The number of parts.  All but the last are bytes, and the last is what remains. -/
def readShort (labels : List (List Char)) : Option Nat := do
  let parts ← labels.mapM readPart?
  let bytes := parts.dropLast
  let last ← parts.getLast?
  if 4 < parts.length || bytes.any (255 < ·) || Nat.pow 256 (4 - bytes.length) ≤ last then none
  return bytes.zipIdx.foldl (fun n (byte, i) => n + byte * Nat.pow 256 (3 - i)) last

/-! ### Numbers of sixteen bytes -/

/-- A byte in base ten without zeros before it. -/
def readByte? (digits : List Char) : Option Nat :=
  if digits.length = 0 ∨ (digits.head? = some '0' ∧ digits.length ≠ 1) then none
  else (readDigits? 10 digits).filter (· ≤ 255)

/-- The groups that a part between colons stands for: one, or two if it is four bytes. -/
def readGroup? (isLast : Bool) (part : List Char) : Option (List Nat) :=
  if part.contains '.' then
    if isLast then
      match (part.splitOn '.').mapM readByte? with
      | some [a, b, c, d] => some [a * 256 + b, c * 256 + d]
      | _ => none
    else none
  else if part.length = 0 ∨ 4 < part.length then none
  else (readDigits? 16 part).map fun group => [group]

/-- The groups of parts, of which the last one may end the address. -/
def readGroups (ends : Bool) : List (List Char) → Option (List Nat)
  | [] => some []
  | part :: rest => do
    let groups ← readGroup? (ends && rest.isEmpty) part
    return groups ++ (← readGroups ends rest)

/-- The parts between colons. -/
def between (text : List Char) : List (List Char) := if text.isEmpty then [] else text.splitOn ':'

/-- Splits a text at the first two colons in a row. -/
def splitColons : List Char → Option (List Char × List Char)
  | ':' :: ':' :: rest => some ([], rest)
  | c :: rest => (splitColons rest).map fun (before, after) => (c :: before, after)
  | [] => none

/-- The groups of a text between brackets. -/
def readLong (text : List Char) : Option (List Nat) :=
  match splitColons text with
  | none => (readGroups true (between text)).filter (·.length = 8)
  | some (before, after) => do
    let first ← readGroups false (between before)
    let last ← readGroups true (between after)
    let missing := 8 - (first.length + last.length)
    if missing = 0 then none
    else return first ++ List.replicate missing 0 ++ last

/-! ### Hosts -/

/-- The bytes of a text, in which a percent sign with two digits after it is a byte. -/
def bytesOf : List Char → List UInt8
  | [] => []
  | '%' :: high :: low :: rest =>
    match Json.hexDigit? high, Json.hexDigit? low with
    | some high, some low => UInt8.ofNat (16 * high + low) :: bytesOf rest
    | _, _ => 0x25 :: bytesOf (high :: low :: rest)
  | c :: rest => String.utf8EncodeChar c ++ bytesOf rest

/-- The text with bytes after percent signs put in. -/
def unescape (text : List Char) : Option (List Char) :=
  if text.contains '%' then
    (String.fromUTF8? (ByteArray.mk (bytesOf text).toArray)).map String.toList
  else some text

def read (text : List Char) : Option Host :=
  match text with
  | '[' :: inside =>
    if inside.getLast? = some ']' then (readLong inside.dropLast).map long else none
  | _ => do
    let domain ← Domain.read (← unescape text)
    if endsLikeNumber domain then return short (← readShort (parts domain))
    else return named (String.ofList domain)

example : (read "0x7F.1".toList).map text = some "127.0.0.1" := by decide +kernel

example : read "1.2.3.256".toList = none := by decide +kernel

example : (read "[1::ffff:1.2.3.4]".toList).map text = some "[1:0:0:0:0:ffff:102:304]" := by
  decide +kernel

end Host
end RpcMetrics.Http
