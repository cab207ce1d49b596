import EntitlementClient.Number.Binary64

/-!
# `EntitlementClient.Number.Decimal`: doubles from and to decimal digits

Reading. A decimal numeral is an integer of at most 64 bits times a power of ten.
`Binary64.ofDecimal` rounds the integer to a double and then multiplies or divides it by
the power of ten, rounding again. A value beyond the largest double is refused; one below
the smallest becomes zero.

Writing. `Binary64.shortestDigits` gives the fewest decimal digits that read back as the
same double, and of these the nearest to its exact value. `FloatLayout` holds the choices
of a notation: from which to which decimal exponent a number is written positionally.
`FloatLayout.json` is the one that JSON text uses.
-/

set_option autoImplicit false

namespace EntitlementClient

/-! ### From digits -/

namespace Binary64

/-- The largest power of ten below the largest double. -/
def maxPowerOfTen : Nat := 308

/-- `x / 10 ^ n` for any `n`, in steps of at most `10 ^ 308`. What two such steps leave of
a 64-bit integer is below the smallest double. -/
def divPowerOfTen (x : Binary64) (n : Nat) : Option Binary64 :=
  if n ≤ maxPowerOfTen then (powerOfTen n).bind x.divMagnitude
  else if n ≤ 2 * maxPowerOfTen then do
    let step ← (powerOfTen maxPowerOfTen).bind x.divMagnitude
    (powerOfTen (n - maxPowerOfTen)).bind step.divMagnitude
  else some zero

/-- The double of the numeral `significand * 10 ^ exponent`. -/
def ofDecimal (significand : Nat) (exponent : Int) : Option Binary64 := do
  let x ← ofNat? significand
  if x.isZero then return zero
  if 0 ≤ exponent then
    if exponent.toNat ≤ maxPowerOfTen then (powerOfTen exponent.toNat).bind x.mulMagnitude
    else none
  else x.divPowerOfTen (-exponent).toNat

/-! ### To digits -/

/-- How many decimal digits a positive natural number has. -/
def digitCount (n : Nat) : Nat := (Nat.toDigits 10 n).length

/-- The exponent of the leading decimal digit of `num / den`. -/
def leadingExponent (num den : Nat) : Int :=
  if den ≤ num then (digitCount (num / den) : Int) - 1
  else -(digitCount ((den + num - 1) / num - 1) : Int)

/-- The reals that round to a positive double, as quarters of its last bit: the value, the
lower and the upper end, and whether the ends belong to it. Below a power of two the
doubles lie twice as close. -/
structure RoundingInterval where
  /-- Four times the significand. -/
  value : Nat
  /-- Half way to the double below. -/
  lower : Nat
  /-- Half way to the double above. -/
  upper : Nat
  /-- Whether the half-way points round to this double. -/
  closed : Bool

/-- The interval of a positive double. -/
def roundingInterval (x : Binary64) : RoundingInterval :=
  let m := x.significand
  let narrow := x.fractionBits = 0 ∧ 1 < x.exponentBits
  { value := 4 * m
    lower := if narrow then 4 * m - 1 else 4 * m - 2
    upper := 4 * m + 2
    closed := m % 2 = 0 }

/-- Whether `q`, given as a numerator over the common denominator, lies in the interval. -/
def RoundingInterval.contains (r : RoundingInterval) (unit q : Nat) : Bool :=
  if r.closed then r.lower * unit ≤ q && q ≤ r.upper * unit
  else r.lower * unit < q && q < r.upper * unit

/-- The neighbour of the value on the grid of multiples of `10 ^ k` that reads back, the
nearer one if both do, an even one on a tie. -/
def onGrid (x : Binary64) (k : Int) : Option Nat :=
  let r := x.roundingInterval
  -- A quarter of the last bit is `2 ^ (exponent - 2)`, written as `unit / den`.
  let quarter := scale 1 1 (-(x.exponent - 2))
  let unit := if 0 ≤ k then quarter.1 else quarter.1 * Nat.pow 10 (-k).toNat
  let grid := if 0 ≤ k then quarter.2 * Nat.pow 10 k.toNat else quarter.2
  let value := r.value * unit
  let below := value / grid
  let above := below + 1
  let hasBelow := r.contains unit (below * grid)
  let hasAbove := r.contains unit (above * grid)
  if hasBelow && hasAbove then
    let down := value - below * grid
    let up := above * grid - value
    if down < up then some below else if up < down then some above
    else some (if below % 2 = 0 then below else above)
  else if hasBelow then some below
  else if hasAbove then some above
  else none

/-- The digits without trailing zeros, and how many zeros there were. -/
def stripZeros (digits : List Char) : List Char × Nat :=
  let kept := (digits.reverse.dropWhile (· = '0')).reverse
  (kept, digits.length - kept.length)

/-- The fewest digits that read back as the positive double `x`, with the exponent of the
first. Seventeen digits always do. -/
def shortestDigits (x : Binary64) : List Char × Int :=
  let q := x.toQuotient
  let lead := leadingExponent q.1 q.2
  let found := (List.range 17).findSome? fun (n : Nat) =>
    (x.onGrid (lead - n)).map fun d => (d, lead - (n : Int))
  match found with
  | none => (['0'], 0)
  | some (d, k) =>
    let digits := Nat.toDigits 10 d
    ((stripZeros digits).1, k + ((digits.length : Int) - 1))

end Binary64

/-! ### The notation -/

/-- The choices of a notation for doubles. -/
structure FloatLayout where
  /-- The smallest exponent of the leading digit that is written positionally. -/
  minPositional : Int
  /-- The largest such exponent. -/
  maxPositional : Int

/-- JSON text is positional from `1e-5` to below `1e16`. -/
def FloatLayout.json : FloatLayout := ⟨-5, 15⟩

namespace FloatLayout

/-- Digits with a leading exponent in positional notation, with at least one digit on each
side of the point. -/
def positional (digits : List Char) (lead : Int) : List Char :=
  if lead < 0 then
    ['0', '.'] ++ List.replicate ((-lead).toNat - 1) '0' ++ digits
  else
    let whole := lead.toNat + 1
    if digits.length ≤ whole then
      digits ++ List.replicate (whole - digits.length) '0' ++ ['.', '0']
    else digits.take whole ++ ['.'] ++ digits.drop whole

/-- Digits with a leading exponent in scientific notation: a point only after a lone first
digit that is followed by more, and always a sign on the exponent. -/
def scientific (digits : List Char) (lead : Int) : List Char :=
  let mantissa := match digits with
    | [] => ['0']
    | [d] => [d]
    | d :: rest => d :: '.' :: rest
  let sign := if lead < 0 then '-' else '+'
  mantissa ++ ['e', sign] ++ Nat.toDigits 10 lead.natAbs

/-- The text of a double. -/
def render (layout : FloatLayout) (x : Binary64) : List Char :=
  let sign := if x.isNegative then ['-'] else []
  if x.isZero then sign ++ ['0', '.', '0']
  else
    let (digits, lead) := x.shortestDigits
    if layout.minPositional ≤ lead ∧ lead ≤ layout.maxPositional then
      sign ++ positional digits lead
    else sign ++ scientific digits lead

end FloatLayout

end EntitlementClient
