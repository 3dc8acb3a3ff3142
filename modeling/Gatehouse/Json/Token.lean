import Gatehouse.Text.Utf8
import Gatehouse.Number.Literal

/-!
# JSON tokens

`Token.scan` cuts a sequence of symbols (characters, or holes where bytes could not be read) into
tokens. It is a state machine that takes one symbol a step, so it is total and needs no bound.

A token of a string or a number may be well formed and still **have no value**: a string with half
of a surrogate pair or an unreadable run, a number too large for a double. Such a token may be
skipped, but not read. What is no token at all is `Token.bad`, and scanning stops there.
-/

namespace Gatehouse.Json

/-- A lexical element of JSON. -/
inductive Token where
  | openBrace
  | closeBrace
  | openBracket
  | closeBracket
  | colon
  | comma
  | null
  | bool (b : Bool)
  /-- A string, and its text if it has one. -/
  | string (text : Option String)
  /-- A number, and its value if it has one. -/
  | number (value : Option Number)
  /-- No token. -/
  | bad
  deriving DecidableEq, Repr

namespace Token

/-- Characters gathered so far, latest first; `none` once the text cannot be read. -/
abbrev Gathered := Option (List Char)

/-- Inside an escape of four hexadecimal digits: the value and the digits still missing. -/
structure Hex where
  value : Nat
  missing : Nat
  deriving DecidableEq, Repr

/-- The parts of a number. -/
inductive NumberPart where
  /-- After the minus sign. -/
  | start
  /-- After a leading zero. -/
  | zero
  /-- Among the digits before the point. -/
  | whole
  /-- After the point. -/
  | point
  /-- Among the digits after the point. -/
  | fraction
  /-- After the letter `e`. -/
  | letter
  /-- After the sign of the exponent. -/
  | sign
  /-- Among the digits of the exponent. -/
  | exponent
  deriving DecidableEq, Repr

/-- Where the scanner stands. -/
inductive State where
  /-- Between tokens. -/
  | between
  /-- Inside a string; `high` is the first half of a surrogate pair that waits for its second. -/
  | string (text : Gathered) (high : Option Nat)
  /-- After a backslash. -/
  | escape (text : Gathered) (high : Option Nat)
  /-- Inside a `\u` escape. -/
  | hex (text : Gathered) (high : Option Nat) (digits : Hex)
  /-- Inside a number; the digits of each part are latest first. -/
  | number (literal : Literal) (part : NumberPart)
  /-- Inside a word: the letters still to come. -/
  | word (rest : List Char) (token : Token)
  /-- Past the first fault. -/
  | stopped
  deriving Repr

/-- The value of a decimal digit. -/
def digit? (c : Char) : Option Nat :=
  if '0' ≤ c ∧ c ≤ '9' then some (c.toNat - '0'.toNat) else none

/-- The value of a hexadecimal digit. -/
def hexDigit? (c : Char) : Option Nat :=
  if '0' ≤ c ∧ c ≤ '9' then some (c.toNat - '0'.toNat)
  else if 'a' ≤ c ∧ c ≤ 'f' then some (c.toNat - 'a'.toNat + 10)
  else if 'A' ≤ c ∧ c ≤ 'F' then some (c.toNat - 'A'.toNat + 10)
  else none

/-- Add a character to gathered text; a waiting half of a surrogate pair makes it unreadable. -/
def Gathered.add (text : Gathered) (high : Option Nat) (c : Char) : Gathered :=
  if high.isSome then none else text.map (c :: ·)

/-- The number a finished literal denotes: its digits were gathered backwards. -/
def finishNumber (l : Literal) : Token :=
  .number <| Literal.value?
    { negative := l.negative
      whole := l.whole.reverse
      fraction := l.fraction.map List.reverse
      exponent := l.exponent.map fun e => (e.1, e.2.reverse) }

/-- Whether a number may end here. -/
def NumberPart.final : NumberPart → Bool
  | .zero | .whole | .fraction | .exponent => true
  | _ => false

/-- The blanks between tokens. -/
def isSpace (c : Char) : Bool := c = ' ' || c = '\t' || c = '\n' || c = '\r'

/-- Read a symbol that starts a token or stands between tokens. -/
def start (symbol : Option Char) : List Token × State :=
  match symbol with
  | none => ([.bad], .stopped)
  | some c =>
    if isSpace c then ([], .between)
    else match c with
    | '{' => ([.openBrace], .between)
    | '}' => ([.closeBrace], .between)
    | '[' => ([.openBracket], .between)
    | ']' => ([.closeBracket], .between)
    | ':' => ([.colon], .between)
    | ',' => ([.comma], .between)
    | '"' => ([], .string (some []) none)
    | 'n' => ([], .word ['u', 'l', 'l'] .null)
    | 't' => ([], .word ['r', 'u', 'e'] (.bool true))
    | 'f' => ([], .word ['a', 'l', 's', 'e'] (.bool false))
    | '-' => ([], .number ⟨true, [], none, none⟩ .start)
    | '0' => ([], .number ⟨false, [0], none, none⟩ .zero)
    | c =>
      match digit? c with
      | some d => ([], .number ⟨false, [d], none, none⟩ .whole)
      | none => ([.bad], .stopped)

/-- How a number goes on with a character, if it does. -/
def extendNumber (l : Literal) (part : NumberPart) (c : Char) : Option (Literal × NumberPart) :=
  match part, digit? c with
  | .start, some d =>
    some ({ l with whole := [d] }, if d = 0 then .zero else .whole)
  | .whole, some d => some ({ l with whole := d :: l.whole }, .whole)
  | .point, some d => some ({ l with fraction := some [d] }, .fraction)
  | .fraction, some d => some ({ l with fraction := l.fraction.map (d :: ·) }, .fraction)
  | .letter, some d => some ({ l with exponent := some (false, [d]) }, .exponent)
  | .sign, some d => some ({ l with exponent := l.exponent.map fun e => (e.1, d :: e.2) }, .exponent)
  | .exponent, some d =>
    some ({ l with exponent := l.exponent.map fun e => (e.1, d :: e.2) }, .exponent)
  | _, some _ => none
  | part, none =>
    if c = '.' && (part = .zero || part = .whole) then some ({ l with fraction := some [] }, .point)
    else if (c = 'e' || c = 'E') && (part = .zero || part = .whole || part = .fraction) then
      some (l, .letter)
    else if (c = '+' || c = '-') && part = .letter then
      some ({ l with exponent := some (c = '-', []) }, .sign)
    else none

/-- What a single-letter escape stands for. -/
def escaped? : Char → Option Char
  | '"' => some '"'
  | '\\' => some '\\'
  | '/' => some '/'
  | 'b' => some '\x08'
  | 'f' => some '\x0c'
  | 'n' => some '\n'
  | 'r' => some '\r'
  | 't' => some '\t'
  | _ => none

/-- The state after a complete `\u` escape of value `unit`. The first half of a surrogate pair waits
for the second; either half alone makes the text unreadable. -/
def afterUnit (text : Gathered) (high : Option Nat) (unit : Nat) : State :=
  match high with
  | some h =>
    if 0xDC00 ≤ unit && unit < 0xE000 then
      .string (text.map (Char.ofNat (0x10000 + (h - 0xD800) * 0x400 + (unit - 0xDC00)) :: ·)) none
    else .string none none
  | none =>
    if 0xD800 ≤ unit && unit < 0xDC00 then .string text (some unit)
    else if 0xDC00 ≤ unit && unit < 0xE000 then .string none none
    else .string (text.map (Char.ofNat unit :: ·)) none

/-- Take one symbol: the tokens it completes, and where the scanner stands after it. -/
def step (state : State) (symbol : Option Char) : List Token × State :=
  match state with
  | .stopped => ([], .stopped)
  | .between => start symbol
  | .word rest token =>
    match rest, symbol with
    | [r], some c => if c = r then ([token], .between) else ([.bad], .stopped)
    | r :: rest, some c => if c = r then ([], .word rest token) else ([.bad], .stopped)
    | _, _ => ([.bad], .stopped)
  | .string text high =>
    match symbol with
    | none => ([], .string none none)
    | some c =>
      if c = '"' then
        ([.string (if high.isSome then none else text.map fun cs => String.ofList cs.reverse)],
          .between)
      else if c = '\\' then ([], .escape text high)
      else if c.toNat < 0x20 then ([.bad], .stopped)
      else ([], .string (text.add high c) none)
  | .escape text high =>
    match symbol with
    | none => ([.bad], .stopped)
    | some c =>
      if c = 'u' then ([], .hex text high ⟨0, 4⟩)
      else match escaped? c with
      | some e => ([], .string (text.add high e) none)
      | none => ([.bad], .stopped)
  | .hex text high digits =>
    match symbol.bind hexDigit? with
    | none => ([.bad], .stopped)
    | some d =>
      let value := digits.value * 16 + d
      if digits.missing ≤ 1 then ([], afterUnit text high value)
      else ([], .hex text high ⟨value, digits.missing - 1⟩)
  | .number l part =>
    match symbol.bind (extendNumber l part) with
    | some (l, part) => ([], .number l part)
    | none =>
      if part = .zero && (symbol.bind digit?).isSome then ([.bad], .stopped)
      else if part.final then
        let (tokens, state) := start symbol
        (finishNumber l :: tokens, state)
      else ([.bad], .stopped)

/-- The tokens left when the input ends. -/
def finish : State → List Token
  | .between | .stopped => []
  | .number l part => if part.final then [finishNumber l] else [.bad]
  | _ => [.bad]

/-- Scan on from a state. -/
def scanFrom (state : State) : List (Option Char) → List Token
  | [] => finish state
  | s :: ss =>
    let (tokens, next) := step state s
    tokens ++ scanFrom next ss

/-- The tokens of a sequence of symbols. -/
def scan (symbols : List (Option Char)) : List Token := scanFrom .between symbols

/-- The tokens of a text. -/
def ofText (text : String) : List Token := scan (text.toList.map some)

/-- The tokens of a sequence of bytes. -/
def ofBytes (bytes : List UInt8) : List Token := scan (Utf8.symbols bytes)

end Token

end Gatehouse.Json
