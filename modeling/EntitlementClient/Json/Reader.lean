import EntitlementClient.Json.Basic
import EntitlementClient.Number.Decimal

/-!
# `EntitlementClient.Json.Reader`: reading JSON text

`Json.read?` accepts exactly the texts of strict JSON: one value, with space, tab, newline
and carriage return around and between tokens. It refuses an unpaired surrogate escape, a
control character in a string, a number beyond the largest double, and a value nested more
than `maxDepth` deep. A repeated member keeps its first place and its last value.

The digits of a numeral are gathered as long as their value fits in 64 bits
(`gatherDigits`). A numeral without fraction and exponent that was gathered whole is an
integer, except `-0` and those below `-2 ^ 63`; every other numeral is a double.

The readers of strings and numerals work on the characters and give back what they leave.
The reader of values takes a count of steps, `4 * n + 4` for a text of `n` characters, of
which it needs at most two for each character it consumes.
-/

set_option autoImplicit false

namespace EntitlementClient

namespace Json

/-! ### Blanks and literals -/

/-- The characters allowed between tokens. -/
def isBlank (c : Char) : Bool := c = ' ' || c = '\t' || c = '\n' || c = '\r'

/-- What follows the leading blanks. -/
def skipBlanks (cs : List Char) : List Char := cs.dropWhile isBlank

/-! ### Strings -/

/-- The value of a hexadecimal digit, of either case. -/
def hexDigit? (c : Char) : Option Nat :=
  if '0' ≤ c ∧ c ≤ '9' then some (c.toNat - '0'.toNat)
  else if 'a' ≤ c ∧ c ≤ 'f' then some (c.toNat - 'a'.toNat + 10)
  else if 'A' ≤ c ∧ c ≤ 'F' then some (c.toNat - 'A'.toNat + 10)
  else none

/-- The value of four hexadecimal digits. -/
def hexQuad? (a b c d : Char) : Option Nat := do
  let a ← hexDigit? a
  let b ← hexDigit? b
  let c ← hexDigit? c
  let d ← hexDigit? d
  return ((a * 16 + b) * 16 + c) * 16 + d

/-- The character of a pair of surrogates. -/
def joinSurrogates (high low : Nat) : Char :=
  Char.ofNat (0x10000 + (high - 0xD800) * 0x400 + (low - 0xDC00))

/-- The character that a letter after a backslash stands for. -/
def shortEscape? (c : Char) : Option Char :=
  if c = '"' then some '"'
  else if c = '\\' then some '\\'
  else if c = '/' then some '/'
  else if c = 'b' then some '\x08'
  else if c = 'f' then some '\x0c'
  else if c = 'n' then some '\n'
  else if c = 'r' then some '\r'
  else if c = 't' then some '\t'
  else none

/-- The rest of a string after its opening quote, with the characters read so far in reverse. -/
def readString (done : List Char) : List Char → Option (String × List Char)
  | [] => none
  | '"' :: rest => some (String.ofList done.reverse, rest)
  | '\\' :: 'u' :: a :: b :: c :: d :: rest =>
    match hexQuad? a b c d with
    | none => none
    | some n =>
      if 0xD800 ≤ n ∧ n < 0xDC00 then
        match rest with
        | '\\' :: 'u' :: e :: f :: g :: h :: rest =>
          match hexQuad? e f g h with
          | none => none
          | some m =>
            if 0xDC00 ≤ m ∧ m < 0xE000 then readString (joinSurrogates n m :: done) rest else none
        | _ => none
      else if 0xDC00 ≤ n ∧ n < 0xE000 then none
      else readString (Char.ofNat n :: done) rest
  | '\\' :: c :: rest =>
    match shortEscape? c with
    | none => none
    | some e => readString (e :: done) rest
  | c :: rest => if c.toNat < 0x20 then none else readString (c :: done) rest

/-! ### Numerals -/

/-- Adds digits to a value as long as it fits in 64 bits; gives back the digits that did not. -/
def gatherDigits (value : Nat) : List Char → Nat × List Char
  | [] => (value, [])
  | c :: rest =>
    let next := value * 10 + (c.toNat - '0'.toNat)
    if next < Nat.pow 2 64 then gatherDigits next rest else (value, c :: rest)

/-- The value of decimal digits. -/
def digitsValue (digits : List Char) : Nat :=
  digits.foldl (fun n c => n * 10 + (c.toNat - '0'.toNat)) 0

/-- The leading decimal digits and what follows them. -/
def splitDigits (cs : List Char) : List Char × List Char :=
  (cs.takeWhile Char.isDigit, cs.dropWhile Char.isDigit)

/-- The parts of a numeral: the digits before the point, those after it if there is a
point, and the exponent if there is one. -/
structure Numeral where
  negative : Bool
  whole : List Char
  fraction : Option (List Char)
  exponent : Option Int

/-- The digits of the whole part: a lone zero, or digits that do not begin with one. -/
def readWhole (cs : List Char) : Option (List Char × List Char) :=
  match splitDigits cs with
  | ([], _) => none
  | (['0'], rest) => some (['0'], rest)
  | ('0' :: _, _) => none
  | split => some split

/-- The digits after a point, if a point follows; a point needs digits. -/
def readFraction : List Char → Option (Option (List Char) × List Char)
  | '.' :: rest =>
    match splitDigits rest with
    | ([], _) => none
    | (digits, rest) => some (some digits, rest)
  | cs => some (none, cs)

/-- The sign and the digits of an exponent after its letter. -/
def readExponentDigits (cs : List Char) : Option (Option Int × List Char) :=
  let (negative, cs) : Bool × List Char := match cs with
    | '+' :: rest => (false, rest)
    | '-' :: rest => (true, rest)
    | cs => (false, cs)
  match splitDigits cs with
  | ([], _) => none
  | (digits, rest) =>
    let n : Int := digitsValue digits
    some (some (if negative then -n else n), rest)

/-- The exponent, if its letter follows; the letter needs digits. -/
def readExponent : List Char → Option (Option Int × List Char)
  | 'e' :: rest => readExponentDigits rest
  | 'E' :: rest => readExponentDigits rest
  | cs => some (none, cs)

/-- The parts of the numeral at the head of a text, and what follows it. -/
def readNumeral (cs : List Char) : Option (Numeral × List Char) := do
  let (negative, cs) := match cs with
    | '-' :: rest => (true, rest)
    | cs => (false, cs)
  let (whole, cs) ← readWhole cs
  let (fraction, cs) ← readFraction cs
  let (exponent, cs) ← readExponent cs
  return (⟨negative, whole, fraction, exponent⟩, cs)

/-- A double with the sign of the numeral. -/
def signed (negative : Bool) (x : Binary64) : Number := .float (if negative then x.negate else x)

/-- The number of a numeral. Absent when it is beyond the largest double. -/
def Numeral.toNumber? (n : Numeral) : Option Number :=
  let (value, unread) := gatherDigits 0 n.whole
  match n.fraction, n.exponent, unread with
  | none, none, [] =>
    if n.negative then
      if value = 0 ∨ Nat.pow 2 63 < value then (Binary64.ofNat? value).map (signed true)
      else some (.integer (-value))
    else some (.integer value)
  | fraction, exponent, _ =>
    let digits := fraction.getD []
    let (value, dropped) := gatherDigits value digits
    let shift : Int := unread.length - (digits.length - dropped.length)
    (Binary64.ofDecimal value (shift + exponent.getD 0)).map (signed n.negative)

/-! ### Values -/

/-- How deep arrays and objects may be nested. -/
def maxDepth : Nat := 127

mutual

/-- The value at the head of a text, and what follows it. -/
def readValue : Nat → Nat → List Char → Option (Json × List Char)
  | 0, _, _ => none
  | fuel + 1, depth, cs =>
    match skipBlanks cs with
    | 'n' :: 'u' :: 'l' :: 'l' :: rest => some (.null, rest)
    | 't' :: 'r' :: 'u' :: 'e' :: rest => some (.bool true, rest)
    | 'f' :: 'a' :: 'l' :: 's' :: 'e' :: rest => some (.bool false, rest)
    | '"' :: rest => (readString [] rest).map fun (s, rest) => (.string s, rest)
    | '[' :: rest =>
      match depth with
      | 0 => none
      | depth + 1 =>
        match skipBlanks rest with
        | ']' :: rest => some (.array [], rest)
        | rest => (readItems fuel depth [] rest).map fun (items, rest) => (.array items, rest)
    | '\x7b' :: rest =>
      match depth with
      | 0 => none
      | depth + 1 =>
        match skipBlanks rest with
        | '\x7d' :: rest => some (.object [], rest)
        | rest =>
          (readMembers fuel depth .empty rest).map fun (fields, rest) => (.ofMap fields, rest)
    | rest =>
      match readNumeral rest with
      | none => none
      | some (n, rest) => n.toNumber?.map fun number => (.number number, rest)

/-- The items of an array up to its closing bracket, those read so far in reverse. -/
def readItems : Nat → Nat → List Json → List Char → Option (List Json × List Char)
  | 0, _, _, _ => none
  | fuel + 1, depth, done, cs =>
    match readValue fuel depth cs with
    | none => none
    | some (v, rest) =>
      match skipBlanks rest with
      | ',' :: rest => readItems fuel depth (v :: done) rest
      | ']' :: rest => some ((v :: done).reverse, rest)
      | _ => none

/-- The members of an object up to its closing brace. -/
def readMembers : Nat → Nat → OrderedMap Json → List Char → Option (OrderedMap Json × List Char)
  | 0, _, _, _ => none
  | fuel + 1, depth, done, cs =>
    match skipBlanks cs with
    | '"' :: rest =>
      match readString [] rest with
      | none => none
      | some (name, rest) =>
        match skipBlanks rest with
        | ':' :: rest =>
          match readValue fuel depth rest with
          | none => none
          | some (v, rest) =>
            match skipBlanks rest with
            | ',' :: rest => readMembers fuel depth (done.insert name v) rest
            | '\x7d' :: rest => some (done.insert name v, rest)
            | _ => none
        | _ => none
    | _ => none

end

/-- The value that a text holds, if it is JSON. -/
def readChars? (cs : List Char) : Option Json :=
  match readValue (4 * cs.length + 4) maxDepth cs with
  | none => none
  | some (v, rest) => if (skipBlanks rest).isEmpty then some v else none

/-- The value that a text holds, if it is JSON. -/
def read? (text : String) : Option Json := readChars? text.toList

end Json

end EntitlementClient
