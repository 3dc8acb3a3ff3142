import Gatehouse.Pattern.Class
import Gatehouse.Pattern.Footprint

/-!
# Reading patterns

`Pattern.compile? text` reads a pattern; letters match in either case unless the pattern says
otherwise. The reader keeps the groups that are open on a stack. A pattern nested more than 250 deep
is refused, and so is one whose footprint is too large.
-/

namespace Gatehouse.Pattern

open Unicode (CharSet)

/-- A pattern and how deep its operators are nested. -/
structure Part where
  pattern : Pattern
  height : Nat

/-- What has been read of a group: its finished alternatives and the parts of the current one, latest
first. A part may be a change of flags, which describes nothing. -/
structure Level where
  alternatives : List Part := []
  parts : List (Option Part) := []

/-- A group that is open: what surrounds it. -/
structure OpenGroup where
  outer : Level
  flags : Flags
  remembered : Bool

/-- The state of the reader. -/
structure State where
  groups : List OpenGroup
  level : Level
  flags : Flags
  names : List String

/-- The part that a change of flags counts as. -/
def nothing : Part := ⟨.empty, 0⟩

/-- The greatest height among parts. -/
def maxHeight (parts : List Part) : Nat := parts.foldl (fun h p => max h p.height) 0

/-- The parts of the current alternative, one after the other. -/
def Level.sequence (l : Level) : Part :=
  match l.parts.map (·.getD nothing) with
  | [] => nothing
  | [p] => p
  | last :: before =>
    ⟨before.foldl (fun q p => .seq p.pattern q) last.pattern, maxHeight (last :: before) + 1⟩

/-- All that has been read of a group. -/
def Level.whole (l : Level) : Part :=
  match l.alternatives with
  | [] => l.sequence
  | before =>
    let last := l.sequence
    ⟨before.foldl (fun q p => .alt p.pattern q) last.pattern, maxHeight (last :: before) + 1⟩

/-- Add a part. -/
def State.push (s : State) (p : Part) : State :=
  { s with level := { s.level with parts := some p :: s.level.parts } }

/-- Copies of a pattern. Of one that describes only the empty piece, one copy is as good as many. -/
def copiesOf (p : Pattern) (least : Nat) (most : Option Nat) : Pattern :=
  if p.onlyEmpty then .copies p (min least 1) (some (most.elim 1 (min · 1)))
  else .copies p least most

/-- Repeat the last part. There must be one, and it must not be a change of flags. -/
def State.repeatLast (s : State) (least : Nat) (most : Option Nat) : Option State :=
  match s.level.parts with
  | some p :: parts =>
    some { s with
      level := { s.level with
        parts := some ⟨copiesOf p.pattern least most, p.height + 1⟩ :: parts } }
  | _ => none

/-- The set for a character on its own. -/
def literal? (f : Flags) (c : Char) (byte : Bool) : Option CharSet :=
  if f.unicode || c.toNat < 0x80 then some (f.fold (.single c.toNat))
  else if byte then none
  else some (.single c.toNat)

/-- The set of the dot. -/
def dot? (f : Flags) : Option CharSet :=
  if !f.unicode then none
  else if f.dotAll then some (CharSet.empty.complement)
  else if f.crlf then some (CharSet.complement ⟨[(0xA, 0xA), (0xD, 0xD)]⟩)
  else some (CharSet.complement ⟨[(0xA, 0xA)]⟩)

/-- The condition of a caret. -/
def caret (f : Flags) : Look :=
  if !f.multiLine then .textStart else if f.crlf then .anyLineStart else .lineStart

/-- The condition of a dollar. -/
def dollar (f : Flags) : Look :=
  if !f.multiLine then .textEnd else if f.crlf then .anyLineEnd else .lineEnd

/-! ### Repetition -/

/-- A number between optional blanks. -/
def readDecimal (f : Flags) (cs : List Char) : Option (Nat × List Char) :=
  let (digits, rest) := f.gather Char.isDigit cs.length (cs.dropWhile Text.isBlank)
  let n := digits.foldl (fun n c => n * 10 + (c.toNat - '0'.toNat)) 0
  let (_, rest) := f.gather Text.isBlank rest.length rest
  if digits.isEmpty || UInt32.size ≤ n then none else some (n, rest)

/-- The bounds of a counted repetition, after its opening brace. -/
def readCounts (f : Flags) (cs : List Char) : Option (Nat × Option Nat × List Char) := do
  let (least, rest) ← readDecimal f (f.skip cs)
  match rest with
  | ',' :: rest =>
    match f.skip rest with
    | '\x7d' :: rest => some (least, none, rest)
    | cs =>
      let (most, rest) ← readDecimal f cs
      match rest with
      | '\x7d' :: rest => if least ≤ most then some (least, some most, rest) else none
      | _ => none
  | '\x7d' :: rest => some (least, some least, rest)
  | _ => none

/-- A question mark after a repetition changes which piece is preferred, not whether there is one. -/
def skipLazy : List Char → List Char
  | '?' :: cs => cs
  | cs => cs

/-! ### Groups -/

/-- Whether a character may stand in the name of a group. -/
def isNameChar (first : Bool) (c : Char) : Bool :=
  if first then c = '_' || Unicode.alphabeticSet.contains c
  else c = '_' || c = '.' || c = '[' || c = ']' || Unicode.alphanumericSet.contains c

/-- The name of a group, up to its closing angle. -/
def readName (cs : List Char) : Option (String × List Char) :=
  match splitAtChar? '>' cs with
  | some (c :: name, rest) =>
    if isNameChar true c && name.all (isNameChar false) then some (String.ofList (c :: name), rest)
    else none
  | _ => none

/-- Set one flag by its letter. The letter `U` only changes which piece is preferred. -/
def setFlag? (f : Flags) (letter : Char) (value : Bool) : Option Flags :=
  match letter with
  | 'i' => some { f with foldCase := value }
  | 'm' => some { f with multiLine := value }
  | 's' => some { f with dotAll := value }
  | 'u' => some { f with unicode := value }
  | 'R' => some { f with crlf := value }
  | 'x' => some { f with spaced := value }
  | 'U' => some f
  | _ => none

/-- Flags after `(?`: letters, each at most once, and one hyphen at most, before some letter. Reads up
to the closing colon or parenthesis, which is handed back with whether any letter was read. -/
def readFlags (f : Flags) (seen : List Char) (value : Bool) (dangling : Bool) :
    List Char → Option (Flags × Bool × Char × List Char)
  | [] => none
  | c :: cs =>
    if c = ':' || c = ')' then if dangling then none else some (f, !seen.isEmpty, c, cs)
    else if seen.contains c then none
    else if c = '-' then readFlags f (c :: seen) false true cs
    else match setFlag? f c value with
    | some f => readFlags f (c :: seen) value false cs
    | none => none

/-- Open a group. -/
def State.open (s : State) (flags : Flags) (remembered : Bool) : State :=
  { s with groups := ⟨s.level, s.flags, remembered⟩ :: s.groups, level := {}, flags := flags }

/-- Open a named group; no name occurs twice. -/
def State.openNamed (s : State) (cs : List Char) : Option (State × List Char) := do
  let (name, rest) ← readName cs
  if s.names.contains name then none
  else some ({ s.open s.flags true with names := name :: s.names }, rest)

/-- What follows an opening parenthesis. -/
def readGroup (s : State) (cs : List Char) : Option (State × List Char) :=
  match s.flags.skip cs with
  | '?' :: 'P' :: '<' :: rest => s.openNamed rest
  | '?' :: '<' :: c :: rest => if c = '=' || c = '!' then none else s.openNamed (c :: rest)
  | '?' :: rest =>
    match readFlags s.flags [] true false rest with
    | some (flags, any, ')', rest) =>
      if any then
        some ({ s with flags := flags, level := { s.level with parts := none :: s.level.parts } },
          rest)
      else none
    | some (flags, _, _, rest) => some (s.open flags false, rest)
    | none => none
  | cs => some (s.open s.flags true, cs)

/-- Close the innermost group. -/
def State.close (s : State) : Option State :=
  match s.groups with
  | [] => none
  | g :: groups =>
    let inner := s.level.whole
    let pattern := if g.remembered then .capture inner.pattern else inner.pattern
    some <| State.push ⟨groups, g.outer, g.flags, s.names⟩ ⟨pattern, inner.height + 1⟩

/-! ### The whole pattern -/

/-- Read one element, which starts with the given character. -/
def readElement (s : State) (c : Char) (cs : List Char) : Option (State × List Char) :=
  let f := s.flags
  match c with
  | '(' => readGroup s cs
  | ')' => s.close.map fun s => (s, cs)
  | '|' => some ({ s with level := ⟨s.level.sequence :: s.level.alternatives, []⟩ }, cs)
  | '[' => (readClass f cs).map fun (v, rest) => (s.push ⟨.one v.set, v.height⟩, rest)
  | '?' => (s.repeatLast 0 (some 1)).map fun s => (s, skipLazy cs)
  | '*' => (s.repeatLast 0 none).map fun s => (s, skipLazy cs)
  | '+' => (s.repeatLast 1 none).map fun s => (s, skipLazy cs)
  | '\x7b' => do
    let (least, most, rest) ← readCounts f cs
    let s ← s.repeatLast least most
    return (s, skipLazy (f.skip rest))
  | '.' => (dot? f).map fun set => (s.push ⟨.one set, 0⟩, cs)
  | '^' => some (s.push ⟨.look (caret f), 0⟩, cs)
  | '$' => some (s.push ⟨.look (dollar f), 0⟩, cs)
  | '\\' => do
    let (escape, rest) ← readEscape f cs
    match escape with
    | .char c byte => (literal? f c byte).map fun set => (s.push ⟨.one set, 0⟩, rest)
    | .set set => some (s.push ⟨.one set, 0⟩, rest)
    | .look l => some (s.push ⟨.look l, 0⟩, rest)
  | c => (literal? f c false).map fun set => (s.push ⟨.one set, 0⟩, cs)

/-- Read elements to the end. Each takes at least one character. -/
def readElements : (fuel : Nat) → State → List Char → Option State
  | 0, _, _ => none
  | fuel + 1, s, cs =>
    match s.flags.skip cs with
    | [] => some s
    | c :: cs =>
      match readElement s c cs with
      | some (s, rest) => readElements fuel s rest
      | none => none

/-- How deep a pattern may be nested. -/
def heightLimit : Nat := 250

/-- The pattern that a text denotes, if it is not nested too deep and, by estimate, not too large. -/
def compile? (text : String) : Option Pattern := do
  let cs := text.toList
  let s ← readElements (cs.length + 1) ⟨[], {}, { foldCase := true }, []⟩ cs
  let whole := s.level.whole
  if s.groups.isEmpty && whole.height ≤ heightLimit &&
      whole.pattern.footprint ≤ footprintLimit then
    some whole.pattern
  else none

end Gatehouse.Pattern
