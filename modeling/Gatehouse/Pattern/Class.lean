import Gatehouse.Pattern.Basic
import Gatehouse.Text.Blank
import Gatehouse.Unicode.Fold

/-!
# Escapes and character classes of patterns

What a backslash introduces, and classes in brackets: characters, ranges, named classes, nested
classes, and the operations `&&`, `--` and `~~`, which group to the left. Case folding is applied to
the operands of an operation and to a class before it is negated.

Patterns that would describe bytes which are no text are refused, so with the flag for Unicode off a
class can neither be negated nor hold a character outside ASCII.
-/

namespace Gatehouse.Pattern

open Unicode (CharSet)

/-- The flags in force at a place of a pattern. -/
structure Flags where
  /-- `i`: letters match in either case. -/
  foldCase : Bool
  /-- `m`: `^` and `$` match at lines. -/
  multiLine : Bool := false
  /-- `s`: the dot matches line ends. -/
  dotAll : Bool := false
  /-- `u`: classes are those of Unicode. -/
  unicode : Bool := true
  /-- `R`: `\r` ends lines as well. -/
  crlf : Bool := false
  /-- `x`: blanks and comments are skipped. -/
  spaced : Bool := false
  deriving DecidableEq, Repr

namespace Flags

/-- The words that boundaries look at. -/
def words (f : Flags) : Words := if f.unicode then .unicode else .ascii

/-- Skip blanks and comments, of which each ends with its line. -/
def skipBlanks : (comment : Bool) → List Char → List Char
  | _, [] => []
  | true, c :: cs => skipBlanks (c ≠ '\n') cs
  | false, c :: cs =>
    if c = '#' then skipBlanks true cs
    else if Text.isBlank c then skipBlanks false cs
    else c :: cs

/-- Skip what the flag `x` makes invisible. -/
def skip (f : Flags) (cs : List Char) : List Char := if f.spaced then skipBlanks false cs else cs

/-- Close a set under case, if letters match in either case. -/
def fold (f : Flags) (s : CharSet) : CharSet :=
  if !f.foldCase then s else if f.unicode then s.foldClosure else s.asciiFold

/-- Fold a set and negate it. -/
def foldAndNegate (f : Flags) (negated : Bool) (s : CharSet) : Option CharSet :=
  if negated then if f.unicode then some (f.fold s).complement else none
  else some (f.fold s)

/-- The characters that satisfy a condition, at most `fuel` of them, with skipping after each. -/
def gather (f : Flags) (p : Char → Bool) : (fuel : Nat) → List Char → List Char × List Char
  | fuel + 1, c :: cs =>
    if p c then
      let (more, rest) := f.gather p fuel (f.skip cs)
      (c :: more, rest)
    else ([], c :: cs)
  | _, cs => ([], cs)

end Flags

/-! ### Escapes -/

/-- What a backslash and the characters after it stand for. -/
inductive Escape where
  /-- A character; `byte` when it was written as two hexadecimal digits. -/
  | char (c : Char) (byte : Bool)
  | set (s : CharSet)
  | look (l : Look)

/-- A hexadecimal digit. -/
def hexValue? (c : Char) : Option Nat :=
  if '0' ≤ c ∧ c ≤ '9' then some (c.toNat - '0'.toNat)
  else if 'a' ≤ c ∧ c ≤ 'f' then some (c.toNat - 'a'.toNat + 10)
  else if 'A' ≤ c ∧ c ≤ 'F' then some (c.toNat - 'A'.toNat + 10)
  else none

/-- The character of a code point, if it has one. -/
def charOf? (n : Nat) : Option Char := if n.isValidChar then some (Char.ofNat n) else none

/-- The number of some hexadecimal digits. -/
def hexNumber (cs : List Char) : Nat := cs.foldl (fun n c => n * 16 + (hexValue? c).getD 0) 0

/-- Whether a character is a hexadecimal digit. -/
def isHex (c : Char) : Bool := (hexValue? c).isSome

/-- A character by its code point: `count` digits, or any number in braces. -/
def readHex (f : Flags) (count : Nat) (cs : List Char) : Option (Char × List Char) :=
  match f.skip cs with
  | '\x7b' :: cs =>
    let (digits, rest) := f.gather isHex cs.length (f.skip cs)
    match rest with
    | '\x7d' :: rest =>
      if digits.isEmpty then none else (charOf? (hexNumber digits)).map fun c => (c, f.skip rest)
    | _ => none
  | cs =>
    let (digits, rest) := f.gather isHex count cs
    if digits.length < count then none
    else (charOf? (hexNumber digits)).map fun c => (c, f.skip rest)

/-- Find a separator of one or two characters in a property: the parts before and after it. -/
def splitProperty (before : List Char) : List Char → Option (List Char × Bool × List Char)
  | [] => none
  | '!' :: '=' :: cs => some (before.reverse, true, cs)
  | c :: cs => splitProperty (c :: before) cs

/-- Split at the first occurrence of a character. -/
def splitAtChar? (c : Char) (cs : List Char) : Option (List Char × List Char) :=
  let before := cs.takeWhile (· ≠ c)
  match cs.drop before.length with
  | [] => none
  | _ :: after => some (before, after)

/-- The set that the text between the braces of a property names, and whether it is negated. -/
def propertyOf? (text : List Char) : Option (CharSet × Bool) :=
  let byValue (name value : List Char) :=
    Unicode.valueSet? (String.ofList name) (String.ofList value)
  match splitProperty [] text with
  | some (name, _, value) => (byValue name value).map fun s => (s, true)
  | none =>
    match (splitAtChar? ':' text).or (splitAtChar? '=' text) with
    | some (name, value) => (byValue name value).map fun s => (s, false)
    | none => (Unicode.propertySet? (String.ofList text)).map fun s => (s, false)

/-- A property: one letter, or a name in braces. -/
def readProperty (f : Flags) (negated : Bool) (cs : List Char) : Option (CharSet × List Char) := do
  let cs := f.skip cs
  let ((set, inverse), rest) ← match cs with
    | [] => none
    | '\x7b' :: cs =>
      let (name, rest) := f.gather (· ≠ '\x7d') cs.length (f.skip cs)
      match rest with
      | _ :: rest => (propertyOf? name).map fun p => (p, rest)
      | [] => none
    | c :: cs =>
      if c = '\\' then none
      else (Unicode.propertySet? (String.ofList [c])).map fun s => ((s, false), f.skip cs)
  if f.unicode then
    let set ← f.foldAndNegate (negated != inverse) set
    return (set, rest)
  else none

/-- The characters with a meaning of their own in patterns. -/
def metaCharacters : List Char :=
  ['\\', '.', '+', '*', '?', '(', ')', '|', '[', ']', '\x7b', '\x7d', '^', '$', '#', '&', '-', '~']

/-- An escaped character stands for itself: any ASCII character but letters, digits and angles. -/
def standsForItself (c : Char) : Bool :=
  c.toNat < 0x80 && !c.isAlphanum && c ≠ '<' && c ≠ '>'

/-- Digits, blanks and word characters in ASCII. -/
def asciiDigits : CharSet := ⟨[(0x30, 0x39)]⟩

/-- The ASCII blanks. -/
def asciiBlanks : CharSet := ⟨[(0x9, 0xD), (0x20, 0x20)]⟩

/-- The ASCII word characters. -/
def asciiWords : CharSet := ⟨[(0x30, 0x39), (0x41, 0x5A), (0x5F, 0x5F), (0x61, 0x7A)]⟩

/-- The class of a letter after a backslash, negated when the letter is a capital. -/
def letterClass? (f : Flags) (c : Char) : Option (Option CharSet) :=
  let pick (unicode ascii : CharSet) : Option CharSet :=
    if c.isUpper then if f.unicode then some unicode.complement else none
    else some (if f.unicode then unicode else ascii)
  match c.toLower with
  | 'd' => some (pick Unicode.digitSet asciiDigits)
  | 's' => some (pick Unicode.spaceSet asciiBlanks)
  | 'w' => some (pick Unicode.wordSet asciiWords)
  | _ => none

/-- A word boundary; a name in braces may make it one-sided. Braces that hold no name are left for a
repetition. -/
def readBoundary (f : Flags) (cs : List Char) : Option (Look × List Char) :=
  let plain := some (Look.wordBoundary f.words, cs)
  let isName (c : Char) : Bool := c.isAlpha || c = '-'
  match cs with
  | '\x7b' :: inner =>
    match f.skip inner with
    | [] => none
    | c :: cs =>
      if !isName c then plain
      else
        let (name, rest) := f.gather isName (cs.length + 1) (c :: cs)
        match rest with
        | '\x7d' :: rest =>
          match String.ofList name with
          | "start" => some (.wordStart f.words, rest)
          | "end" => some (.wordEnd f.words, rest)
          | "start-half" => some (.wordStartHalf f.words, rest)
          | "end-half" => some (.wordEndHalf f.words, rest)
          | _ => none
        | _ => none
  | _ => plain

/-- What follows a backslash. -/
def readEscape (f : Flags) : List Char → Option (Escape × List Char)
  | [] => none
  | c :: cs =>
    let char (c : Char) : Option (Escape × List Char) := some (.char c false, cs)
    if c.isDigit then none
    else if c = 'x' then
      let byte := (f.skip cs).head? ≠ some '\x7b'
      (readHex f 2 cs).map fun (c, rest) => (.char c byte, rest)
    else if c = 'u' then (readHex f 4 cs).map fun (c, rest) => (.char c false, rest)
    else if c = 'U' then (readHex f 8 cs).map fun (c, rest) => (.char c false, rest)
    else if c = 'p' || c = 'P' then
      (readProperty f (c = 'P') cs).map fun (s, rest) => (.set s, rest)
    else if standsForItself c then char c
    else match letterClass? f c with
    | some set => set.map fun s => (.set s, cs)
    | none =>
      match c with
      | 'a' => char '\x07'
      | 'f' => char '\x0c'
      | 't' => char '\t'
      | 'n' => char '\n'
      | 'r' => char '\r'
      | 'v' => char '\x0b'
      | 'A' => some (.look .textStart, cs)
      | 'z' => some (.look .textEnd, cs)
      | 'b' => (readBoundary f cs).map fun (l, rest) => (.look l, rest)
      | 'B' => some (.look (.notWordBoundary f.words), cs)
      | '<' => some (.look (.wordStart f.words), cs)
      | '>' => some (.look (.wordEnd f.words), cs)
      | _ => none

/-! ### Classes -/

/-- A set and how deep the brackets and operations that made it are nested. -/
structure ClassValue where
  set : CharSet
  height : Nat

/-- The items of a class so far. -/
structure Items where
  set : CharSet := .empty
  count : Nat := 0
  height : Nat := 0

/-- One more item. -/
def Items.push (items : Items) (v : ClassValue) : Items :=
  ⟨items.set.union v.set, items.count + 1, max items.height v.height⟩

/-- The items taken together. -/
def Items.value (items : Items) : ClassValue :=
  ⟨items.set, if items.count < 2 then items.height else items.height + 1⟩

/-- An operation on classes. -/
inductive ClassOp where
  | intersection
  | difference
  | symmetricDifference

/-- What is pending around the items being read. -/
inductive ClassFrame where
  /-- A bracket, with the items before it. -/
  | bracket (outer : Items) (negated : Bool)
  /-- An operation, with its left operand. -/
  | operation (op : ClassOp) (left : ClassValue)

/-- Apply an operation to folded operands. -/
def ClassOp.apply (op : ClassOp) (f : Flags) (left right : ClassValue) : ClassValue :=
  let a := f.fold left.set
  let b := f.fold right.set
  let set := match op with
    | .intersection => a.inter b
    | .difference => a.diff b
    | .symmetricDifference => a.symmDiff b
  ⟨set, max left.height right.height + 1⟩

/-- Complete a pending operation. -/
def completeOp (f : Flags) (right : ClassValue) : List ClassFrame → ClassValue × List ClassFrame
  | .operation op left :: frames => (op.apply f left right, frames)
  | frames => (right, frames)

/-- The classes that are named between colons. -/
def namedClass? : String → Option CharSet
  | "alnum" => some ⟨[(0x30, 0x39), (0x41, 0x5A), (0x61, 0x7A)]⟩
  | "alpha" => some ⟨[(0x41, 0x5A), (0x61, 0x7A)]⟩
  | "ascii" => some ⟨[(0x0, 0x7F)]⟩
  | "blank" => some ⟨[(0x9, 0x9), (0x20, 0x20)]⟩
  | "cntrl" => some ⟨[(0x0, 0x1F), (0x7F, 0x7F)]⟩
  | "digit" => some asciiDigits
  | "graph" => some ⟨[(0x21, 0x7E)]⟩
  | "lower" => some ⟨[(0x61, 0x7A)]⟩
  | "print" => some ⟨[(0x20, 0x7E)]⟩
  | "punct" => some ⟨[(0x21, 0x2F), (0x3A, 0x40), (0x5B, 0x60), (0x7B, 0x7E)]⟩
  | "space" => some asciiBlanks
  | "upper" => some ⟨[(0x41, 0x5A)]⟩
  | "word" => some asciiWords
  | "xdigit" => some ⟨[(0x30, 0x39), (0x41, 0x46), (0x61, 0x66)]⟩
  | _ => none

/-- A named class after its bracket: `:alpha:]` or `:^alpha:]`. -/
def readNamed (cs : List Char) : Option (CharSet × Bool × List Char) :=
  match cs with
  | ':' :: cs =>
    let (negated, cs) := match cs with
      | '^' :: cs => (true, cs)
      | cs => (false, cs)
    match splitAtChar? ':' cs with
    | some (name, ']' :: rest) =>
      (namedClass? (String.ofList name)).map fun s => (s, negated, rest)
    | _ => none
  | _ => none

/-- A character of a class as a set. -/
def classChar? (f : Flags) (c : Char) : Option CharSet :=
  if f.unicode || c.toNat < 0x80 then some (.single c.toNat) else none

/-- A character or escape in a class. -/
def readItem (f : Flags) : List Char → Option (Escape × List Char)
  | [] => none
  | '\\' :: cs => readEscape f cs
  | c :: cs => some (.char c false, cs)

/-- An item or a range. A hyphen before a bracket or another hyphen makes no range. -/
def readRange (f : Flags) (cs : List Char) : Option (CharSet × List Char) := do
  let (first, rest) ← readItem f cs
  let rest := f.skip rest
  let single : Option (CharSet × List Char) := match first with
    | .char c _ => (classChar? f c).map fun s => (s, rest)
    | .set s => some (s, rest)
    | .look _ => none
  match rest with
  | [] => none
  | '-' :: after =>
    match f.skip after with
    | ']' :: _ | '-' :: _ => single
    | cs =>
      let (second, rest) ← readItem f cs
      match first, second with
      | .char a _, .char b _ =>
        let _ ← classChar? f a
        let _ ← classChar? f b
        if a.toNat ≤ b.toNat then some (⟨[(a.toNat, b.toNat)]⟩, rest) else none
      | _, _ => none
  | _ => single

/-- What follows the bracket that opens a class: a caret, hyphens, a closing bracket as an item. -/
def openClass (f : Flags) (cs : List Char) : Option (Bool × Items × List Char) :=
  let cs := f.skip cs
  let (negated, cs) := match cs with
    | '^' :: cs => (true, f.skip cs)
    | cs => (false, cs)
  let (hyphens, cs) := f.gather (· = '-') cs.length cs
  let items := hyphens.foldl (fun (items : Items) c => items.push ⟨.single c.toNat, 0⟩) {}
  match cs with
  | [] => none
  | ']' :: rest =>
    if items.count = 0 then
      let rest := f.skip rest
      if rest.isEmpty then none
      else some (negated, Items.push {} ⟨.single (']' : Char).toNat, 0⟩, rest)
    else some (negated, items, cs)
  | cs => some (negated, items, cs)

/-- Read a class on to its last bracket. Every round takes at least one character. -/
def readClassFrom (f : Flags) :
    (fuel : Nat) → List ClassFrame → Items → List Char → Option (ClassValue × List Char)
  | 0, _, _, _ => none
  | fuel + 1, frames, items, cs =>
    let operation (op : ClassOp) (rest : List Char) :=
      let (left, frames) := completeOp f items.value frames
      readClassFrom f fuel (.operation op left :: frames) {} rest
    match f.skip cs with
    | [] => none
    | '[' :: rest =>
      match readNamed rest with
      | some (s, negated, rest) =>
        match f.foldAndNegate negated s with
        | some s => readClassFrom f fuel frames (items.push ⟨s, 0⟩) rest
        | none => none
      | none =>
        match openClass f rest with
        | some (negated, inner, rest) =>
          readClassFrom f fuel (.bracket items negated :: frames) inner rest
        | none => none
    | ']' :: rest =>
      match completeOp f items.value frames with
      | (value, .bracket outer negated :: frames) =>
        match f.foldAndNegate negated value.set with
        | none => none
        | some s =>
          let closed : ClassValue := ⟨s, value.height + 1⟩
          if frames.isEmpty then some (closed, rest)
          else readClassFrom f fuel frames (outer.push closed) rest
      | _ => none
    | '&' :: '&' :: rest => operation .intersection rest
    | '-' :: '-' :: rest => operation .difference rest
    | '~' :: '~' :: rest => operation .symmetricDifference rest
    | cs =>
      match readRange f cs with
      | some (s, rest) => readClassFrom f fuel frames (items.push ⟨s, 0⟩) rest
      | none => none

/-- Read a class after its opening bracket. -/
def readClass (f : Flags) (cs : List Char) : Option (ClassValue × List Char) :=
  match openClass f cs with
  | some (negated, items, rest) =>
    readClassFrom f (rest.length + 1) [.bracket {} negated] items rest
  | none => none

end Gatehouse.Pattern
