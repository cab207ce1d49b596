import EntitlementClient.Settings.Scalar
import EntitlementClient.Text.Blank
import EntitlementClient.Text.Split

/-!
# `EntitlementClient.Settings.Environment`: settings from environment variables

A variable whose name begins with `CANDLEPIN_`, in any letter case, assigns its value to
the setting named by the rest. A point in that rest descends into a dictionary, which no
setting is.

The value has a syntax (`readValue`): `true` and `false`, a text in double quotes with
escapes, one character in single quotes, a list in brackets, a dictionary in braces, and
otherwise whatever stands before a comma, a bracket or a brace. Of that, white space is
removed on both sides; then it is a real number if it has a point, an integer if it fits
in 64 bits, and else a text. A variable that does not follow the syntax to its end is a
text as it stands.
-/

set_option autoImplicit false

namespace EntitlementClient.Environment

/-! ### Values -/

/-- The white space that may surround values. -/
def isSpace (c : Char) : Bool :=
  c = ' ' || c = '\t' || c = '\n' || c = '\r' || c = '\x0c'

/-- Whether a character ends a value that is not quoted. -/
def isSeparator (c : Char) : Bool :=
  c = ',' || c = '[' || c = ']' || c = '\x7b' || c = '\x7d'

/-- What follows the leading white space. -/
def skipSpace (cs : List Char) : List Char := cs.dropWhile isSpace

/-- A value that is neither quoted nor bracketed. -/
def plain (cs : List Char) : ConfigValue :=
  let cs := Text.trim cs
  if cs.contains '.' && Scalar.isDecimal cs then .real
  else
    let (negative, digits) := Scalar.splitSign cs
    match Scalar.natOfDigits? 10 digits with
    | none => .text (String.ofList cs)
    | some n =>
      if !negative && n < Nat.pow 2 64 then .integer n
      else if negative && n ≤ Nat.pow 2 63 then .integer (-n)
      else .text (String.ofList cs)

/-- The character with a code, if there is one. -/
def charOfCode? (n : Nat) : Option Char := if n.isValidChar then some (.ofNat n) else none

/-- The character that a number of hexadecimal digits at the head stands for, and what follows. -/
def readCode? (count : Nat) (cs : List Char) : Option (Char × List Char) :=
  if cs.length < count then none
  else
    ((Scalar.natOfDigits? 16 (cs.take count)).bind charOfCode?).map fun c => (c, cs.drop count)

/-- The rest of a text in double quotes, and what follows the closing quote. The first
argument bounds the length. -/
def readQuoted? : Nat → List Char → Option (List Char × List Char)
  | 0, _ => none
  | fuel + 1, cs =>
    match cs with
    | [] => none
    | '"' :: rest => some ([], rest)
    | '\\' :: 'u' :: rest => do
      let (c, rest) ← readCode? 4 rest
      let (more, rest) ← readQuoted? fuel rest
      return (c :: more, rest)
    | '\\' :: 'U' :: rest => do
      let (c, rest) ← readCode? 8 rest
      let (more, rest) ← readQuoted? fuel rest
      return (c :: more, rest)
    | '\\' :: c :: rest => do
      let c ← if c = '/' then none else Json.shortEscape? c
      let (more, rest) ← readQuoted? fuel rest
      return (c :: more, rest)
    | c :: rest => do
      if (c.toNat < 0x20 && c ≠ '\t') || c = '\x7f' then none
      let (more, rest) ← readQuoted? fuel rest
      return (c :: more, rest)

/-- Whether a character may stand in the name of a dictionary's member. -/
def isNameChar (c : Char) : Bool := c.isAlphanum || c = '_' || c = '-'

/-- What follows the name of a member and the equals sign after it. -/
def skipName? (cs : List Char) : Option (List Char) := do
  let rest ← match skipSpace cs with
    | '"' :: rest => (readQuoted? (rest.length + 1) rest).map Prod.snd
    | cs =>
      if (cs.takeWhile isNameChar).isEmpty then none else some (cs.dropWhile isNameChar)
  match skipSpace rest with
  | '=' :: rest => some rest
  | _ => none

mutual

/-- The value at the head of the characters, and what follows it and the white space after
it. The first argument bounds the steps. -/
def readValue : Nat → List Char → Option (ConfigValue × List Char)
  | 0, _ => none
  | fuel + 1, cs =>
    let cs := skipSpace cs
    let found : Option (ConfigValue × List Char) :=
      match cs with
      | 't' :: 'r' :: 'u' :: 'e' :: rest => some (.bool true, rest)
      | 'f' :: 'a' :: 'l' :: 's' :: 'e' :: rest => some (.bool false, rest)
      | '"' :: rest =>
        (readQuoted? (rest.length + 1) rest).map fun (text, rest) =>
          (.text (String.ofList text), rest)
      | '\x27' :: c :: '\x27' :: rest => some (.text (String.singleton c), rest)
      | '\x27' :: _ => none
      | '[' :: rest => (readItems fuel false rest).map fun rest => (.collection, rest)
      | '\x7b' :: rest => (readItems fuel true rest).map fun rest => (.collection, rest)
      | cs =>
        some (plain (cs.takeWhile fun c => !isSeparator c), cs.dropWhile fun c => !isSeparator c)
    found.map fun (v, rest) => (v, skipSpace rest)

/-- What follows the elements of a list, or the members of a dictionary if they are
`named`, and the bracket or brace that closes it. -/
def readItems : Nat → (named : Bool) → List Char → Option (List Char)
  | 0, _, _ => none
  | fuel + 1, named, cs =>
    let closing := if named then '\x7d' else ']'
    match cs with
    | [] => none
    | c :: rest =>
      if c = closing then some rest
      else do
        let cs ← if named then skipName? (c :: rest) else some (c :: rest)
        let (_, rest) ← readValue fuel cs
        match rest with
        | [] => none
        | d :: rest =>
          if d = ',' then readItems fuel named rest
          else if d = closing then some rest
          else none

end

/-- The value of a variable. -/
def valueOf (text : String) : ConfigValue :=
  let cs := text.toList
  match readValue (2 * cs.length + 2) cs with
  | some (v, []) => v
  | _ => .text text

/-! ### Names -/

/-- The start of the names of the variables that assign settings. -/
def nameStart : List Char := "candlepin_".toList

/-- The name of the setting that a variable assigns, in lower case. -/
def settingName? (name : String) : Option (List Char) :=
  let lower := (Text.trim name.toList).map Char.toLower
  if nameStart.isPrefixOf lower then
    let rest := Text.trim (lower.drop nameStart.length)
    if rest.isEmpty || (Text.splitAt '.' rest).any List.isEmpty then none else some rest
  else none

/-- What a variable assigns. -/
def entry? (assignment : String × String) : Option (String × ConfigValue) :=
  (settingName? assignment.1).map fun name =>
    let head := name.takeWhile (· ≠ '.')
    (String.ofList head,
      if head.length < name.length then .collection else valueOf assignment.2)

/-- What environment variables assign. Of several for one setting the last counts. -/
def layer (assignments : List (String × String)) : Layer := .ofList (assignments.filterMap entry?)

end EntitlementClient.Environment
