import Gatehouse.Unicode.Property

/-!
# Patterns

A pattern describes pieces of a text. Its meaning is a function on **sets of positions**: the
positions where a piece may begin go in, those where it may end come out. A set of positions in a text
is a number whose bit `i` stands for the position before character `i`.

A pattern is first laid on a text (`Pattern.onText`), which decides for each character class and each
look-around at which positions it holds. The resulting `Track` runs on position sets alone; since
these are finite, an unbounded repetition is done after as many rounds as there are positions.
-/

namespace Gatehouse

open Unicode (CharSet)

/-- Which characters make words. -/
inductive Words where
  | unicode
  | ascii
  deriving DecidableEq, Repr

/-- A condition on a position, decided by the characters before and after it. -/
inductive Look where
  | textStart
  | textEnd
  | lineStart
  | lineEnd
  /-- The start of a line where `\r`, `\n` and `\r\n` end lines. -/
  | anyLineStart
  /-- The end of a line where `\r`, `\n` and `\r\n` end lines. -/
  | anyLineEnd
  | wordBoundary (words : Words)
  | notWordBoundary (words : Words)
  | wordStart (words : Words)
  | wordEnd (words : Words)
  /-- No word character before. -/
  | wordStartHalf (words : Words)
  /-- No word character after. -/
  | wordEndHalf (words : Words)
  deriving DecidableEq, Repr

/-- A pattern. -/
inductive Pattern where
  /-- The empty piece. -/
  | empty
  /-- One character of a set. -/
  | one (set : CharSet)
  /-- An empty piece at a position that satisfies a condition. -/
  | look (look : Look)
  | seq (first second : Pattern)
  | alt (left right : Pattern)
  /-- At least `least` and, if given, at most `most` copies. -/
  | copies (body : Pattern) (least : Nat) (most : Option Nat)
  /-- A group whose piece would be remembered. -/
  | capture (body : Pattern)
  deriving DecidableEq, Repr, Inhabited

namespace Look

/-- A word character. -/
def isWord : Words → Char → Bool
  | .unicode, c => Unicode.wordSet.contains c
  | .ascii, c => c.isAlphanum || c = '_'

/-- Whether the condition holds between two characters; `none` stands for an end of the text. -/
def holds (look : Look) (before after : Option Char) : Bool :=
  let word (w : Words) (c : Option Char) : Bool := c.any (isWord w)
  match look with
  | .textStart => before.isNone
  | .textEnd => after.isNone
  | .lineStart => before.isNone || before = some '\n'
  | .lineEnd => after.isNone || after = some '\n'
  | .anyLineStart =>
    before.isNone || before = some '\n' || (before = some '\r' && after ≠ some '\n')
  | .anyLineEnd =>
    after.isNone || after = some '\r' || (after = some '\n' && before ≠ some '\r')
  | .wordBoundary w => word w before != word w after
  | .notWordBoundary w => word w before == word w after
  | .wordStart w => !word w before && word w after
  | .wordEnd w => word w before && !word w after
  | .wordStartHalf w => !word w before
  | .wordEndHalf w => !word w after

/-- The positions of a text at which a condition holds. -/
def positions (look : Look) (before : Option Char) : List Char → Nat
  | [] => if look.holds before none then 1 else 0
  | c :: cs => 2 * look.positions (some c) cs + if look.holds before (some c) then 1 else 0

end Look

/-- A pattern laid on a text. -/
inductive Track where
  /-- A step over one character, from the positions in `starts`. -/
  | step (starts : Nat)
  /-- Stay, at the positions in `allowed`. -/
  | stay (allowed : Nat)
  | seq (first second : Track)
  | alt (left right : Track)
  /-- `least` rounds, then up to `more` further ones. -/
  | copies (body : Track) (least more : Nat)
  deriving Repr

/-- The positions of a text at which a character of a set begins. -/
def Unicode.CharSet.positions (s : CharSet) : List Char → Nat
  | [] => 0
  | c :: cs => 2 * s.positions cs + if s.contains c then 1 else 0

/-- All positions of a text, its end included. -/
def allPositions (text : List Char) : Nat := (1 <<< (text.length + 1)) - 1

/-- Lay a pattern on a text. Rounds past the number of positions add nothing. -/
def Pattern.onText (text : List Char) : Pattern → Track
  | .empty => .stay (allPositions text)
  | .one s => .step (s.positions text)
  | .look l => .stay (l.positions none text)
  | .seq p q => .seq (p.onText text) (q.onText text)
  | .alt p q => .alt (p.onText text) (q.onText text)
  | .copies p least most =>
    let rounds := text.length + 1
    .copies (p.onText text) least (most.elim rounds fun m => min (m - least) rounds)
  | .capture p => p.onText text

namespace Track

/-- Apply a function a number of times. -/
def iterate (f : Nat → Nat) : Nat → Nat → Nat
  | 0, s => s
  | n + 1, s => iterate f n (f s)

/-- The positions reached by up to `n` applications of a function. -/
def reach (f : Nat → Nat) : Nat → Nat → Nat
  | 0, s => s
  | n + 1, s =>
    let next := s ||| f s
    if next = s then s else reach f n next

/-- From the positions where a piece may begin to those where it may end. -/
def run : Track → Nat → Nat
  | .step starts, s => (s &&& starts) <<< 1
  | .stay allowed, s => s &&& allowed
  | .seq p q, s => q.run (p.run s)
  | .alt p q, s => p.run s ||| q.run s
  | .copies p least more, s => reach p.run more (iterate p.run least s)

end Track

/-- A piece of the text, anywhere in it, is described by the pattern. -/
def Pattern.isIn (p : Pattern) (text : String) : Bool :=
  let cs := text.toList
  (p.onText cs).run (allPositions cs) != 0

end Gatehouse
