import EntitlementClient.Text.CaseTable

/-!
# `EntitlementClient.Text.CaseMapping`: upper and lower case, character by character

`Text.upperChar` and `Text.lowerChar` give the full case mapping of one character, which
may be several characters. `Text.isUppercase` is the Unicode property `Uppercase`; a
title-case letter does not have it. An ASCII character is decided without the tables, so
that statements about ASCII text need none of their entries.
-/

set_option autoImplicit false

namespace EntitlementClient.Text

/-- Whether the character is an ASCII character. -/
def isAscii (c : Char) : Bool := c.toNat < 0x80

/-- The shift of the run that covers a code point. -/
def shiftOf (runs : List (Nat × Nat × Nat × Int)) (n : Nat) : Option Int :=
  (runs.find? fun (first, last, stride, _) =>
    first ≤ n && n ≤ last && (n - first) % stride = 0).map fun (_, _, _, shift) => shift

/-- A character mapped by tables of expansions and runs; to itself if they do not name it. -/
def mapChar (expansions : List (Nat × List Nat)) (runs : List (Nat × Nat × Nat × Int))
    (c : Char) : List Char :=
  match expansions.lookup c.toNat with
  | some codes => codes.map Char.ofNat
  | none =>
    match shiftOf runs c.toNat with
    | some shift => [Char.ofNat (c.toNat + shift).toNat]
    | none => [c]

/-- The upper-case mapping of a character. -/
def upperChar (c : Char) : List Char :=
  if isAscii c then [c.toUpper]
  else mapChar CaseTable.upperExpansions CaseTable.upperRuns c

/-- The lower-case mapping of a character. -/
def lowerChar (c : Char) : List Char :=
  if isAscii c then [c.toLower]
  else mapChar CaseTable.lowerExpansions CaseTable.lowerRuns c

/-- Whether the character is an upper-case letter. -/
def isUppercase (c : Char) : Bool :=
  if isAscii c then c.isUpper
  else CaseTable.uppercaseRuns.any fun (first, last, stride) =>
    first ≤ c.toNat && c.toNat ≤ last && (c.toNat - first) % stride = 0

end EntitlementClient.Text
