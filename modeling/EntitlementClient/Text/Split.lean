/-!
# `EntitlementClient.Text.Split`: texts cut at a separator and joined again

`splitAt` cuts at every occurrence of a separator and gives one part more than there are
separators. `joinWith` puts a separator between texts.
-/

set_option autoImplicit false

namespace EntitlementClient.Text

/-- The parts of a text between separators, at least one. -/
def splitAt (separator : Char) : List Char → List (List Char)
  | [] => [[]]
  | c :: rest =>
    if c = separator then [] :: splitAt separator rest
    else
      match splitAt separator rest with
      | [] => [[c]]
      | part :: parts => (c :: part) :: parts

/-- Texts with a separator between. -/
def joinWith (separator : Char) : List (List Char) → List Char
  | [] => []
  | [part] => part
  | part :: next :: rest => part ++ separator :: joinWith separator (next :: rest)

/-- There is always a part, if only the empty one. -/
theorem splitAt_ne_nil (separator : Char) (cs : List Char) : splitAt separator cs ≠ [] := by
  cases cs with
  | nil => simp [splitAt]
  | cons c rest =>
    unfold splitAt
    split
    · simp
    · split <;> simp

end EntitlementClient.Text
