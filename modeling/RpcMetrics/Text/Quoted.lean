import RpcMetrics.Text.Unprintable

/-!
# Quoted text

A text between quotes, in which every character can be told apart: quotes, backslashes and the
common control characters by short escapes, other unprintable characters by their code point in
hexadecimal.
-/
namespace RpcMetrics.Text

/-- The escape of a single character, itself if it needs none. -/
def escape (c : Char) : List Char :=
  match c with
  | '\x00' => ['\\', '0']
  | '\t' => ['\\', 't']
  | '\n' => ['\\', 'n']
  | '\r' => ['\\', 'r']
  | '"' => ['\\', '"']
  | '\\' => ['\\', '\\']
  | c =>
    if isUnprintable c then
      ['\\', 'u', '\x7b'] ++ Nat.toDigits 16 c.toNat ++ ['\x7d']
    else [c]

/-- The text between quotes. -/
def quoted (text : String) : String :=
  String.ofList ('"' :: text.toList.flatMap escape ++ ['"'])

/-- Quoted texts between braces. -/
def quotedSet (texts : List String) : String :=
  "\x7b" ++ ", ".intercalate (texts.map quoted) ++ "\x7d"

/-- Short escapes and code points. -/
example : "a\"\u0001".toList.flatMap escape =
    ['a', '\\', '"', '\\', 'u', '\x7b', '1', '\x7d'] := by decide +kernel

end RpcMetrics.Text
