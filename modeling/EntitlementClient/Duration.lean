import EntitlementClient.Text.Blank

/-!
# `EntitlementClient.Duration`: lengths of time and their text

A duration counts nanoseconds, and its seconds fit in 64 bits. Its text is a sum of parts,
each a number and a unit. A month is 2630016 seconds and a year 31557600.

* `Duration.text` writes each of year, month, day, hour, minute, second, millisecond,
  microsecond and nanosecond at most once, from the longest to the shortest, and leaves
  out zeros. The duration without length is `0s`.
* `Duration.ofText?` reads parts in any order. White space may stand everywhere but inside
  a unit, even between the digits of a number. A number may have decimals; they must come
  to whole seconds for units from the hour on, and to whole nanoseconds for shorter ones.
  `0` alone needs no unit. Every number that occurs on the way must fit in 64 bits.
-/

set_option autoImplicit false

namespace EntitlementClient

/-- How many numbers fit in 64 bits. -/
def wordSize : Nat := Nat.pow 2 64

/-- The nanoseconds in a second. -/
def nanosPerSecond : Nat := 1000000000

/-- A length of time. -/
structure Duration where
  /-- How many nanoseconds it lasts. -/
  nanos : Nat
  /-- Its seconds fit in 64 bits. -/
  inRange : nanos < wordSize * nanosPerSecond
deriving DecidableEq, Repr

namespace Duration

/-- The duration without length. -/
def zero : Duration := ⟨0, by decide⟩

instance : Inhabited Duration := ⟨zero⟩

/-- The duration of so many nanoseconds, if they are not too many. -/
def ofNanos? (n : Nat) : Option Duration :=
  if h : n < wordSize * nanosPerSecond then some ⟨n, h⟩ else none

/-- The duration of a number of seconds that fits in 64 bits. -/
def ofSeconds (s : UInt64) : Duration :=
  ⟨s.toNat * nanosPerSecond, Nat.mul_lt_mul_of_pos_right s.toNat_lt (by decide)⟩

/-! ### Writing -/

/-- A part with a short unit, unless its number is zero. -/
def shortPart (n : Nat) (unit : String) : List String := if n = 0 then [] else [toString n ++ unit]

/-- A part whose unit takes an s in the plural, unless its number is zero. -/
def longPart (n : Nat) (unit : String) : List String :=
  shortPart n (if n = 1 then unit else unit ++ "s")

/-- The parts of a duration, the longest unit first. -/
def parts (d : Duration) : List String :=
  let seconds := d.nanos / nanosPerSecond
  let nanos := d.nanos % nanosPerSecond
  let ofYear := seconds % 31557600
  let ofMonth := ofYear % 2630016
  let ofDay := ofMonth % 86400
  longPart (seconds / 31557600) "year" ++ longPart (ofYear / 2630016) "month"
    ++ longPart (ofMonth / 86400) "day" ++ shortPart (ofDay / 3600) "h"
    ++ shortPart (ofDay % 3600 / 60) "m" ++ shortPart (ofDay % 60) "s"
    ++ shortPart (nanos / 1000000) "ms" ++ shortPart (nanos / 1000 % 1000) "us"
    ++ shortPart (nanos % 1000) "ns"

/-- The text of a duration. -/
def text (d : Duration) : String :=
  if d.nanos = 0 then "0s" else String.intercalate " " d.parts

/-! ### Units -/

/-- A number of nanoseconds or of seconds. -/
inductive Measure where
  | nanos (n : Nat)
  | seconds (n : Nat)
deriving DecidableEq, Repr

/-- A unit of time. -/
structure TimeUnit where
  /-- What a whole unit measures. -/
  whole : Measure
  /-- What a whole unit measures when decimals are taken of it, if they may be. -/
  divided : Option Measure
deriving DecidableEq, Repr

/-- The units with their names. -/
def units : List (List String × TimeUnit) :=
  [(["nanos", "nsec", "ns"], ⟨.nanos 1, none⟩),
    (["usec", "us", "µs"], ⟨.nanos 1000, some (.nanos 1000)⟩),
    (["millis", "msec", "ms"], ⟨.nanos 1000000, some (.nanos 1000000)⟩),
    (["seconds", "second", "secs", "sec", "s"], ⟨.seconds 1, some (.nanos 1000000000)⟩),
    (["minutes", "minute", "min", "mins", "m"], ⟨.seconds 60, some (.nanos 60000000000)⟩),
    (["hours", "hour", "hr", "hrs", "h"], ⟨.seconds 3600, some (.seconds 3600)⟩),
    (["days", "day", "d"], ⟨.seconds 86400, some (.seconds 86400)⟩),
    (["weeks", "week", "wk", "wks", "w"], ⟨.seconds 604800, some (.seconds 604800)⟩),
    (["months", "month", "M"], ⟨.seconds 2630016, some (.seconds 2630016)⟩),
    (["years", "year", "yr", "yrs", "y"], ⟨.seconds 31557600, some (.seconds 31557600)⟩)]

/-- The unit with a name. -/
def unit? (name : List Char) : Option TimeUnit :=
  (units.find? fun (names, _) => names.contains (String.ofList name)).map Prod.snd

/-! ### Reading the parts -/

/-- Whether a character can stand in a unit. -/
def isUnitChar (c : Char) : Bool := c.isAlpha || c = 'µ'

/-- The digits at the head of the characters, white space skipped, and what follows. -/
def takeDigits : List Char → List Nat × List Char
  | [] => ([], [])
  | c :: rest =>
    if c.isDigit then
      let (digits, rest) := takeDigits rest
      ((c.toNat - 48) :: digits, rest)
    else if Text.isBlank c then takeDigits rest
    else ([], c :: rest)

/-- The number that digits stand for. -/
def numberOf (digits : List Nat) : Nat := digits.foldl (fun n d => n * 10 + d) 0

/-- A number with its decimals. -/
structure Amount where
  /-- The digits before the point, as a number. -/
  whole : Nat
  /-- The digits after the point, if there is one. -/
  decimals : Option (List Nat)
deriving DecidableEq, Repr

/-- The amount at the head of the characters, and what follows. -/
def readAmount? (cs : List Char) : Option (Amount × List Char) :=
  match takeDigits cs with
  | ([], _) => none
  | (digits, '.' :: rest) =>
    match takeDigits rest with
    | ([], _) => none
    | (decimals, rest) => some (⟨numberOf digits, some decimals⟩, rest)
  | (digits, rest) => some (⟨numberOf digits, none⟩, rest)

/-- So many times a measure, if the number fits in 64 bits. -/
def Measure.times? (n : Nat) : Measure → Option Measure
  | .nanos k => if n * k < wordSize then some (.nanos (n * k)) else none
  | .seconds k => if n * k < wordSize then some (.seconds (n * k)) else none

/-- A fraction of a measure, if it is whole in what is measured. -/
def Measure.over? (d : Nat) : Measure → Option Measure
  | .nanos k => if k % d = 0 then some (.nanos (k / d)) else none
  | .seconds k => if k % d = 0 then some (.seconds (k / d)) else none

/-- A number of nanoseconds and a measure together. Nanoseconds are first added to those
that are no whole second yet, and that sum must fit in 64 bits too. -/
def Measure.addTo? (total : Nat) : Measure → Option Nat
  | .nanos n =>
    if total % nanosPerSecond + n < wordSize && total + n < wordSize * nanosPerSecond then
      some (total + n)
    else none
  | .seconds n =>
    if total + n * nanosPerSecond < wordSize * nanosPerSecond then
      some (total + n * nanosPerSecond)
    else none

/-- A number that fits in 64 bits. -/
def word? (n : Nat) : Option Nat := if n < wordSize then some n else none

/-- A number of nanoseconds and an amount of a unit together. -/
def addAmount? (total : Nat) (amount : Amount) (unit : TimeUnit) : Option Nat := do
  let whole ← unit.whole.times? (← word? amount.whole)
  let total ← whole.addTo? total
  match amount.decimals with
  | none => some total
  | some digits =>
    let scale ← word? (Nat.pow 10 digits.length)
    let part ← (← unit.divided).times? (numberOf digits)
    (← part.over? scale).addTo? total

/-- The sum of parts. The first argument bounds how many there are. -/
def sumParts? : Nat → (total : Nat) → List Char → Option Nat
  | 0, _, _ => none
  | fuel + 1, total, cs => do
    let (amount, rest) ← readAmount? cs
    let unit ← unit? (rest.takeWhile isUnitChar)
    let total ← addAmount? total amount unit
    let rest := rest.dropWhile isUnitChar
    let next := rest.dropWhile Text.isBlank
    match next with
    | [] => some total
    | c :: _ => if c.isDigit then sumParts? fuel total next else none

/-- The duration that a text gives. -/
def ofText? (text : String) : Option Duration :=
  if text = "0" then some zero
  else
    let cs := text.toList
    (sumParts? (cs.length + 1) 0 cs).bind ofNanos?

end Duration

end EntitlementClient
