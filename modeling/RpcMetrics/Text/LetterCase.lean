import RpcMetrics.Text.CaseTable

/-!
# Lower case

The full lower-case mapping of Unicode.  All characters but two map on their own, by the table
of runs.  The capital I with a dot above becomes two characters, and the capital sigma has a
final form, which stands where a letter with case comes before it and none after it, the
characters between being looked through.
-/
namespace RpcMetrics.Text

/-- The lower-case form of a character that has one of a single character, else itself. -/
def lowerChar (c : Char) : Char :=
  if c.toNat < 0x80 then c.toLower
  else
    match lowerRuns.find? (·.holds c.toNat) with
    | some run => Char.ofNat (c.toNat + run.shift).toNat
    | none => c

/-- Whether the nearest character that is not looked through is a letter with case. -/
def leadsToCased (text : List Char) : Bool :=
  match text.dropWhile (inRanges ignorableRanges) with
  | c :: _ => inRanges casedRanges c
  | [] => false

/-- The lower-case form of a capital sigma: final when a word ends with it. -/
def lowerSigma (before after : List Char) : Char :=
  if leadsToCased before && !leadsToCased after then 'ς' else 'σ'

/-- Lower case of a text, of which `before` has been passed, last character first. -/
def lowerFrom (before : List Char) : List Char → List Char
  | [] => []
  | c :: after =>
    let mapped :=
      if c = 'Σ' then [lowerSigma before after]
      else if c = 'İ' then ['i', '\u0307']
      else [lowerChar c]
    mapped ++ lowerFrom (c :: before) after

/-- The text in lower case. -/
def lower (text : String) : String := String.ofList (lowerFrom [] text.toList)

/-- Sigma is final at the end of a word and only there. -/
example : lowerFrom [] ['Α', 'Σ', '-', 'Β', 'Σ', 'Α'] = ['α', 'ς', '-', 'β', 'σ', 'α'] := by
  decide +kernel

example : lowerFrom [] ['Σ'] = ['σ'] := by decide +kernel

end RpcMetrics.Text
