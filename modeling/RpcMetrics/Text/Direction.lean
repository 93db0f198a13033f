import RpcMetrics.Text.DirectionTable

/-!
# Directions of writing

Letters are written from left to right or from right to left, and digits, marks and signs go with
them.  A word that keeps to one direction reads the same among words of either.
-/
namespace RpcMetrics.Text

/-- The direction of a character. -/
inductive Direction where
  /-- Letters from left to right. -/
  | left
  /-- Letters from right to left. -/
  | right
  /-- Digits arranged as in Arabic. -/
  | arabic
  /-- Digits arranged as in Europe. -/
  | european
  /-- Marks, which go with the character before them. -/
  | mark
  /-- Signs, which go with those around them. -/
  | neutral
  deriving DecidableEq, Repr

/-- The direction of a character. -/
def direction (c : Char) : Direction :=
  if inRanges nonspacingRanges c then .mark
  else if inRanges neutralRanges c then .neutral
  else if inRanges europeanNumberRanges c then .european
  else if inRanges rightToLeftRanges c then .right
  else if inRanges arabicNumberRanges c then .arabic
  else .left

/-- Whether a word has something that is written from right to left. -/
def turns (word : List Char) : Bool :=
  word.any fun c => direction c == .right || direction c == .arabic

/-- Whether a word keeps to the direction of its first letter: it begins with a letter, goes on
without letters of the other direction, does not mix digits, and ends with a letter or a digit. -/
def keepsDirection (word : List Char) : Bool :=
  let directions := word.map direction
  let last := (directions.reverse.dropWhile (· == .mark)).head?
  match directions.head? with
  | none => true
  | some .left =>
    (last == some .left || last == some .european)
      && !directions.contains .right && !directions.contains .arabic
  | some .right =>
    (last == some .right || last == some .european || last == some .arabic)
      && !directions.contains .left
      && !(directions.contains .european && directions.contains .arabic)
  | some _ => false

/-- Whether a character is a mark. -/
def isMark (c : Char) : Bool := inRanges nonspacingRanges c || inRanges spacingRanges c

/-- The character that joins what stands beside it. -/
def joiner : Char := '\u200D'

/-- The character that keeps apart what stands beside it. -/
def nonJoiner : Char := '\u200C'

/-- Whether a joiner or its opposite has an effect between what comes before it, last character
first, and what comes after it. -/
def hasEffect (before : List Char) (c : Char) (after : List Char) : Bool :=
  let joinable (text : List Char) (ranges : CodeRanges) : Bool :=
    ((text.dropWhile (inRanges nonspacingRanges)).head?).any (inRanges ranges)
  before.head?.any (inRanges viramaRanges)
    || c == nonJoiner && joinable before joinsNextRanges && joinable after joinsPreviousRanges

/-- Whether every joiner and every opposite of it has an effect, in a text of which `before` has
been passed, last character first. -/
def joinersFit (before : List Char) : List Char → Bool
  | [] => true
  | c :: after =>
    ((c != joiner && c != nonJoiner) || hasEffect before c after) && joinersFit (c :: before) after

example : keepsDirection ['א', '-', '1'] = true := by decide +kernel

example : keepsDirection ['1', 'א'] = false := by decide +kernel

end RpcMetrics.Text
