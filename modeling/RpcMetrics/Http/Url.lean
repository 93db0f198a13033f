import RpcMetrics.Http.Host

/-!
# Addresses

The address of an endpoint names a host, a port and a target.  Addresses are read as browsers
read them: backslashes are slashes, dot segments are resolved, and characters that may not stand
in a target are written by the bytes of their UTF-8 form.
-/
namespace RpcMetrics.Http

/-- The address of an endpoint. -/
structure Url where
  /-- Whether the exchange is encrypted. -/
  secure : Bool
  host : Host
  port : Nat
  target : String
  deriving DecidableEq, Repr

namespace Url

/-- Two hexadecimal digits after a percent sign. -/
def percentByte (byte : UInt8) : List Char :=
  ['%', (Nat.digitChar (byte.toNat / 16)).toUpper, (Nat.digitChar (byte.toNat % 16)).toUpper]

/-- A character by its bytes if the test holds of it or if it is no visible ASCII character. -/
def percentEncode (reserved : Char → Bool) (c : Char) : List Char :=
  if c.toNat < 0x21 || 0x7E < c.toNat || reserved c then
    (String.utf8EncodeChar c).flatMap percentByte
  else [c]

/-- The visible characters that may not stand in a path. -/
def reservedInPath (c : Char) : Bool := "\"#<>?`\x7b\x7d".toList.contains c

/-- The visible characters that may not stand in a query. -/
def reservedInQuery (c : Char) : Bool := "\"#<>'".toList.contains c

/-- Whether a character ends a segment of a path. -/
def isSlash (c : Char) : Bool := c == '/' || c == '\\'

/-- The segments between slashes. -/
def segments : List Char → List (List Char)
  | [] => [[]]
  | c :: rest =>
    if isSlash c then [] :: segments rest
    else
      match segments rest with
      | [] => [[c]]
      | first :: others => (c :: first) :: others

/-- A segment with escaped dots written out. -/
def plainDots : List Char → List Char
  | '%' :: '2' :: e :: rest =>
    if e = 'e' ∨ e = 'E' then '.' :: plainDots rest else '%' :: '2' :: e :: plainDots rest
  | c :: rest => c :: plainDots rest
  | [] => []

/-- Whether a segment names a drive: a letter and a colon or a bar. -/
def isDrive : List Char → Bool
  | [letter, mark] => letter.isAlpha && (mark == ':' || mark == '|')
  | _ => false

/-- The segments above the last one, which comes first.  Nothing is above a drive. -/
def above : List (List Char) → List (List Char)
  | [] => []
  | last :: others => if isDrive last then last :: others else others

/-- The segments of a path without dot segments; those kept so far come last one first. -/
def resolveDots (kept : List (List Char)) : List (List Char) → List (List Char)
  | [] => kept.reverse
  | segment :: rest =>
    if plainDots segment = ['.', '.'] then
      resolveDots (if rest.isEmpty then [] :: above kept else above kept) rest
    else if plainDots segment = ['.'] then
      resolveDots (if rest.isEmpty then [] :: kept else kept) rest
    else resolveDots (segment :: kept) rest

/-- The written form of a path. -/
def writePath (path : List Char) : List Char :=
  let path := match path with
    | c :: rest => if isSlash c then rest else c :: rest
    | [] => []
  (resolveDots [] (segments path)).flatMap fun segment =>
    '/' :: segment.flatMap (percentEncode reservedInPath)

/-- Splits a text at the first character that the test holds of, which begins the second part. -/
def splitWhere (p : Char → Bool) (text : List Char) : List Char × List Char :=
  (text.takeWhile (!p ·), text.dropWhile (!p ·))

/-- The written form of what follows the host. -/
def writeTarget (text : List Char) : String :=
  let text := (splitWhere (· == '#') text).1
  let (path, query) := splitWhere (· == '?') text
  String.ofList (writePath path ++
    match query with
    | [] => []
    | mark :: query => mark :: query.flatMap (percentEncode reservedInQuery))

/-- A host and what follows it, which begins with a colon.  Colons in brackets are part of it. -/
def splitPort (text : List Char) : List Char × List Char :=
  match text with
  | '[' :: _ =>
    let (inside, rest) := splitWhere (· == ']') text
    (inside ++ rest.take 1, rest.drop 1)
  | _ => splitWhere (· == ':') text

/-- The port after a host. -/
def readPort (defaultPort : Nat) : List Char → Option Nat
  | [] | [':'] => some defaultPort
  | ':' :: digits => (Decimal.readDigits digits).filter fun n => decide (n < 0x10000)
  | _ => none

/-- What follows the last character that the test holds of. -/
def afterLast (p : Char → Bool) (text : List Char) : List Char :=
  (text.reverse.takeWhile (!p ·)).reverse

/-- The port of addresses that name none. -/
def defaultPort (secure : Bool) : Nat := if secure then 443 else 80

def text (url : Url) : String :=
  (if url.secure then "https://" else "http://") ++ url.host.text
    ++ (if url.port = defaultPort url.secure then "" else ":" ++ Decimal.writeNat url.port)
    ++ url.target

/-- An address has no more bytes than this. -/
def lengthLimit : Nat := 65534

/-- Reads the address of an endpoint. -/
def read (text : String) : Option Url := do
  let isEdge (c : Char) : Bool := decide (c.toNat ≤ 0x20)
  let trimmed := ((text.toList.dropWhile isEdge).reverse.dropWhile isEdge).reverse
  let text := trimmed.filter fun c => !"\t\n\r".toList.contains c
  let (scheme, rest) := splitWhere (· == ':') text
  let secure ← match String.ofList (scheme.map Char.toLower) with
    | "http" => some false
    | "https" => some true
    | _ => none
  let (authority, target) := splitWhere (fun c => isSlash c || c == '?' || c == '#')
    ((rest.drop 1).dropWhile isSlash)
  let (host, port) := splitPort (afterLast (· == '@') authority)
  let url : Url :=
    ⟨secure, ← Host.read host, ← readPort (defaultPort secure) port, writeTarget target⟩
  if url.text.utf8ByteSize ≤ lengthLimit then some url else none

/-- Dot segments are resolved. -/
example : writeTarget "/a b/../c/./d".toList = "/c/d" := by decide +kernel

/-- Two dots do not leave a drive. -/
example : writeTarget "/a/C:/../b".toList = "/a/C:/b" := by decide +kernel

end Url
end RpcMetrics.Http
