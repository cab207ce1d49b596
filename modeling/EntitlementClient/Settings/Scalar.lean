import EntitlementClient.Json.Reader
import EntitlementClient.Settings.Value

/-!
# `EntitlementClient.Settings.Scalar`: numerals in configuration sources

Configuration sources agree on what a numeral is made of and differ in which numerals they
take. `natOfDigits?` reads digits in a base, `decimal?` a decimal numeral that may have a
point and an exponent.
-/

set_option autoImplicit false

namespace EntitlementClient.Scalar

/-- A sign and what follows it. No sign counts as plus. -/
def splitSign : List Char → Bool × List Char
  | '+' :: rest => (false, rest)
  | '-' :: rest => (true, rest)
  | cs => (false, cs)

/-- The number that digits in a base stand for. There must be at least one. -/
def natOfDigits? (base : Nat) (cs : List Char) : Option Nat :=
  if cs.isEmpty then none
  else do
    let digits ← cs.mapM Json.hexDigit?
    if digits.all (· < base) then return digits.foldl (fun n d => n * base + d) 0 else none

/-- The exponent of a decimal numeral, which must end with it. -/
def exponent? : List Char → Option Int
  | [] => some 0
  | c :: rest =>
    if c = 'e' || c = 'E' then
      let (negative, digits) := splitSign rest
      (natOfDigits? 10 digits).map fun n => if negative then -(n : Int) else n
    else none

/-- The significand and the exponent of a decimal numeral without sign. It has a digit
before or after the point. -/
def decimal? (cs : List Char) : Option (Nat × Int) :=
  let (whole, rest) := Json.splitDigits cs
  match rest with
  | '.' :: rest =>
    let (decimals, rest) := Json.splitDigits rest
    (natOfDigits? 10 (whole ++ decimals)).bind fun n =>
      (exponent? rest).map fun e => (n, e - decimals.length)
  | rest => (natOfDigits? 10 whole).bind fun n => (exponent? rest).map fun e => (n, e)

/-- Whether the characters are a decimal numeral, possibly with a sign. -/
def isDecimal (cs : List Char) : Bool := (decimal? (splitSign cs).2).isSome

end EntitlementClient.Scalar
