/-!
# `EntitlementClient.Text.Base64`: bytes as base64

`encode` writes three bytes as four letters and fills the last group with equals signs.
`decode` is more lenient than `encode` needs: it skips white space, and the fill may be
left out, wholly or in part. It refuses any other symbol, a last group of a single letter,
and a fill that is not at the end or longer than the last group leaves room for.
-/

set_option autoImplicit false

namespace EntitlementClient.Text.Base64

/-! ### Letters -/

/-- The letter for six bits. -/
def letter (n : Nat) : Char :=
  if n < 26 then Char.ofNat (65 + n)
  else if n < 52 then Char.ofNat (71 + n)
  else if n < 62 then Char.ofNat (n - 4)
  else if n = 62 then '+'
  else '/'

/-- The six bits that a byte stands for as a letter. -/
def bits? (b : UInt8) : Option Nat :=
  let n := b.toNat
  if 65 ≤ n && n ≤ 90 then some (n - 65)
  else if 97 ≤ n && n ≤ 122 then some (n - 71)
  else if 48 ≤ n && n ≤ 57 then some (n + 4)
  else if n = 43 then some 62
  else if n = 47 then some 63
  else none

/-! ### Writing -/

/-- Bytes as base64. -/
def encode : List UInt8 → List Char
  | [] => []
  | [a] =>
    let n := a.toNat * 65536
    [letter (n / 262144), letter (n / 4096 % 64), '=', '=']
  | [a, b] =>
    let n := a.toNat * 65536 + b.toNat * 256
    [letter (n / 262144), letter (n / 4096 % 64), letter (n / 64 % 64), '=']
  | a :: b :: c :: rest =>
    let n := a.toNat * 65536 + b.toNat * 256 + c.toNat
    letter (n / 262144) :: letter (n / 4096 % 64) :: letter (n / 64 % 64) :: letter (n % 64)
      :: encode rest

/-! ### Reading -/

/-- The bytes of a list of six-bit groups. Bits that do not fill a byte are dropped. -/
def join : List Nat → List UInt8
  | a :: b :: c :: d :: rest =>
    let n := a * 262144 + b * 4096 + c * 64 + d
    UInt8.ofNat (n / 65536) :: UInt8.ofNat (n / 256) :: UInt8.ofNat n :: join rest
  | [a, b, c] =>
    let n := a * 262144 + b * 4096 + c * 64
    [UInt8.ofNat (n / 65536), UInt8.ofNat (n / 256)]
  | [a, b] => [UInt8.ofNat ((a * 262144 + b * 4096) / 65536)]
  | _ => []

/-- Whether a byte is white space: a space, or one of the five controls from tab to
carriage return. -/
def isBlank (b : UInt8) : Bool := b = 32 || (9 ≤ b && b ≤ 13)

/-- The byte of the equals sign. -/
def fill : UInt8 := 61

/-- How many equals signs may follow so many letters: as many as the last group leaves
room for. A single letter in the last group does not make a byte. -/
def maxFill? (letters : Nat) : Option Nat :=
  match letters % 4 with
  | 0 => some 0
  | 1 => none
  | used => some (4 - used)

/-- The bytes that base64 text stands for. -/
def decode (text : List UInt8) : Option (List UInt8) := do
  let symbols := text.filter fun b => !isBlank b
  let letters := symbols.takeWhile (· ≠ fill)
  let tail := symbols.dropWhile (· ≠ fill)
  let room ← maxFill? letters.length
  if tail.all (· = fill) && tail.length ≤ room then (letters.mapM bits?).map join else none

end EntitlementClient.Text.Base64
