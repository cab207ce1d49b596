import EntitlementClient.Wire.Case

/-!
# `EntitlementClient.Proofs.Wire.Case`: which names survive a change of case and back

The results are about names of ASCII characters (`IsAscii`); a letter outside of ASCII may
have no counterpart, or one that is several characters long.

`IsCamel` names have no underscore and do not begin with a capital. They are read back
after a change to snake case (`toCamel_toSnake`). `IsSnake` names have no capital, do not
begin with an underscore, and have a small letter after each underscore. They are read
back after a change to camel case (`toSnake_toCamel`).

A change of case leads into these forms, which is why no other name is read back: camel
case has no underscore (`underscore_not_mem_toCamel`) and keeps a small head
(`isUpper_head_toCamel`), snake case has no capital (`hasNoCapital_toSnake`), and the
snake case of a name without underscores is one that is read back (`isSnake_toSnake`).
-/

set_option autoImplicit false

namespace EntitlementClient

/-! ### Letters -/

namespace Text

/-- What holds of the first 128 code points holds of every ASCII character. So a fact about
letters can be computed. -/
theorem forall_isAscii {P : Char → Prop} (h : ∀ n < 128, P (Char.ofNat n)) {c : Char}
    (hc : isAscii c = true) : P c := by
  have hlt : c.toNat < 128 := by simpa [isAscii] using hc
  rw [← Char.ofNat_toNat c]
  exact h c.toNat hlt

section

variable {c : Char}

/-- Within ASCII the capitals are those from A to Z. -/
theorem isUppercase_eq_isUpper (hc : isAscii c = true) : isUppercase c = c.isUpper := by
  simp [isUppercase, hc]

/-- Within ASCII a character has one small letter. -/
theorem lowerChar_eq (hc : isAscii c = true) : lowerChar c = [c.toLower] := by
  simp [lowerChar, hc]

/-- Within ASCII a character has one capital. -/
theorem upperChar_eq (hc : isAscii c = true) : upperChar c = [c.toUpper] := by
  simp [upperChar, hc]

/-- A capital has a small letter, which has the capital back. -/
theorem toLower_of_isUpper (hc : isAscii c = true) :
    c.isUpper = true → c.toLower.isLower = true ∧ c.toLower.toUpper = c :=
  forall_isAscii (P := fun c => c.isUpper = true → c.toLower.isLower = true ∧ c.toLower.toUpper = c)
    (by decide) hc

/-- A small letter has a capital, which has the small letter back. -/
theorem toUpper_of_isLower (hc : isAscii c = true) :
    c.isLower = true → c.toUpper.isUpper = true ∧ c.toUpper.toLower = c :=
  forall_isAscii (P := fun c => c.isLower = true → c.toUpper.isUpper = true ∧ c.toUpper.toLower = c)
    (by decide) hc

/-- The mappings stay within ASCII, and only the underscore is mapped to the underscore. -/
theorem toLower_toUpper_ascii (hc : isAscii c = true) :
    isAscii c.toLower = true ∧ isAscii c.toUpper = true ∧ c.toLower.isUpper = false ∧
      (c ≠ '_' → c.toLower ≠ '_' ∧ c.toUpper ≠ '_') :=
  forall_isAscii (P := fun c => isAscii c.toLower = true ∧ isAscii c.toUpper = true ∧
    c.toLower.isUpper = false ∧ (c ≠ '_' → c.toLower ≠ '_' ∧ c.toUpper ≠ '_')) (by decide) hc

/-- A small letter is no capital and no underscore. -/
theorem not_isUpper_of_isLower (hc : isAscii c = true) (h : c.isLower = true) :
    c.isUpper = false ∧ c ≠ '_' :=
  forall_isAscii (P := fun c => c.isLower = true → c.isUpper = false ∧ c ≠ '_') (by decide) hc h

/-- What is no capital is its own small letter. -/
theorem toLower_of_not_isUpper (h : c.isUpper = false) : c.toLower = c := by
  have hrange : ¬ (c.val ≥ 'A'.val ∧ c.val ≤ 'Z'.val) := of_decide_eq_false h
  exact dif_neg hrange

end

/-- Characters that are each replaced by themselves are left as they are. -/
theorem flatMap_eq_self {f : Char → List Char} {cs : List Char} (h : ∀ c ∈ cs, f c = [c]) :
    cs.flatMap f = cs := by
  induction cs with
  | nil => rfl
  | cons c rest ih =>
    obtain ⟨hc, hrest⟩ := List.forall_mem_cons.mp h
    rw [List.flatMap_cons, hc, ih hrest, List.singleton_append]

/-! ### Parts between separators -/

section

variable {separator : Char}

/-- A text without the separator is one part. -/
theorem splitAt_of_not_mem {cs : List Char} (h : separator ∉ cs) : splitAt separator cs = [cs] := by
  induction cs with
  | nil => rfl
  | cons c rest ih =>
    rw [List.mem_cons, not_or] at h
    rw [splitAt, if_neg fun heq => h.1 heq.symm, ih h.2]

/-- What stands in a part is a character of the text, and no separator. -/
theorem mem_of_mem_splitAt {cs part : List Char} {x : Char} (hpart : part ∈ splitAt separator cs)
    (hx : x ∈ part) : x ∈ cs ∧ x ≠ separator := by
  induction cs generalizing part with
  | nil =>
    rw [splitAt, List.mem_singleton] at hpart
    subst hpart
    cases hx
  | cons c rest ih =>
    obtain ⟨first, parts, hsplit⟩ := List.exists_cons_of_ne_nil (splitAt_ne_nil separator rest)
    rw [hsplit] at ih
    by_cases hc : c = separator
    · -- The first part ends before the separator.
      rw [splitAt, if_pos hc, hsplit] at hpart
      rcases List.mem_cons.mp hpart with rfl | hpart
      · cases hx
      · obtain ⟨hmem, hne⟩ := ih hpart hx
        exact ⟨List.mem_cons_of_mem c hmem, hne⟩
    · -- The first part is longer by one character.
      rw [splitAt, if_neg hc, hsplit] at hpart
      rcases List.mem_cons.mp hpart with rfl | hpart
      · rcases List.mem_cons.mp hx with rfl | hx
        · exact ⟨List.mem_cons_self, hc⟩
        · obtain ⟨hmem, hne⟩ := ih List.mem_cons_self hx
          exact ⟨List.mem_cons_of_mem c hmem, hne⟩
      · obtain ⟨hmem, hne⟩ := ih (List.mem_cons_of_mem _ hpart) hx
        exact ⟨List.mem_cons_of_mem c hmem, hne⟩

end

end Text

namespace Wire

open Text

/-! ### Names -/

/-- A name of ASCII characters. -/
def IsAscii (name : String) : Prop := ∀ c ∈ name.toList, isAscii c = true

/-- A name without capitals. -/
def HasNoCapital (name : String) : Prop := ∀ c ∈ name.toList, c.isUpper = false

/-- A name in camel case: it has no underscore and does not begin with a capital. -/
structure IsCamel (name : String) : Prop where
  underscore : '_' ∉ name.toList
  head : ∀ c ∈ name.toList.head?, c.isUpper = false

/-- Each underscore has a small letter after it. -/
def SmallAfterUnderscore (cs : List Char) : Prop :=
  ∀ before after, cs = before ++ '_' :: after → ∃ c ∈ after.head?, c.isLower = true

/-- A name in plain snake case: it has no capital, does not begin with an underscore, and
has a small letter after each underscore. -/
structure IsSnake (name : String) : Prop where
  capital : HasNoCapital name
  head : name.toList.head? ≠ some '_'
  underscore : SmallAfterUnderscore name.toList

/-- The empty text has no underscore. -/
theorem smallAfterUnderscore_nil : SmallAfterUnderscore [] := by
  intro before after h
  simp at h

/-- A character and a rest have the form when the rest has it, and when an underscore in
front is followed by a small letter. -/
theorem smallAfterUnderscore_cons_iff {c : Char} {cs : List Char} :
    SmallAfterUnderscore (c :: cs) ↔
      (c = '_' → ∃ d ∈ cs.head?, d.isLower = true) ∧ SmallAfterUnderscore cs := by
  constructor
  · intro h
    refine ⟨fun hc => h [] cs (by rw [hc]; rfl), fun before after hcs => ?_⟩
    exact h (c :: before) after (by rw [hcs]; rfl)
  · rintro ⟨hhead, hrest⟩ before after hcs
    cases before with
    | nil =>
      rw [List.nil_append, List.cons.injEq] at hcs
      obtain ⟨rfl, rfl⟩ := hcs
      exact hhead rfl
    | cons b before =>
      rw [List.cons_append, List.cons.injEq] at hcs
      exact hrest before after hcs.2

-- The instances name how a text is searched; to search all characters instead would not compute.
instance : DecidablePred IsAscii := fun name => List.decidableBAll _ name.toList

instance : DecidablePred HasNoCapital := fun name => List.decidableBAll _ name.toList

instance : DecidablePred IsCamel := fun name =>
  have := Option.decidableForallMem (p := (Char.isUpper · = false)) name.toList.head?
  decidable_of_iff
    ('_' ∉ name.toList ∧ ∀ c ∈ name.toList.head?, c.isUpper = false)
    ⟨fun h => ⟨h.1, h.2⟩, fun h => ⟨h.underscore, h.head⟩⟩

instance decidableSmallAfterUnderscore : DecidablePred SmallAfterUnderscore
  | [] => isTrue smallAfterUnderscore_nil
  | c :: cs =>
    have := decidableSmallAfterUnderscore cs
    have := Option.decidableExistsMem (p := (Char.isLower · = true)) cs.head?
    decidable_of_iff ((c = '_' → ∃ d ∈ cs.head?, d.isLower = true) ∧ SmallAfterUnderscore cs)
      smallAfterUnderscore_cons_iff.symm

instance : DecidablePred IsSnake := fun name =>
  decidable_of_iff
    (HasNoCapital name ∧ name.toList.head? ≠ some '_' ∧ SmallAfterUnderscore name.toList)
    ⟨fun h => ⟨h.1, h.2.1, h.2.2⟩, fun h => ⟨h.capital, h.head, h.underscore⟩⟩

/-! ### Camel case -/

/-- The camel case of a text whose parts are known: the first part stays, and each of the others
gets a capital. -/
theorem camelChars_of_splitAt {cs part : List Char} {parts : List (List Char)}
    (h : splitAt '_' cs = part :: parts) : camelChars cs = part ++ parts.flatMap capitalize := by
  unfold camelChars
  split
  · rw [h]
  · rename_i hmem
    -- Without an underscore there is one part, which is the text.
    rw [splitAt_of_not_mem hmem, List.cons.injEq] at h
    obtain ⟨rfl, rfl⟩ := h
    rw [List.flatMap_nil, List.append_nil]

/-- A character before the first underscore stays. -/
theorem camelChars_cons {c : Char} (hc : c ≠ '_') (cs : List Char) :
    camelChars (c :: cs) = c :: camelChars cs := by
  obtain ⟨part, parts, hsplit⟩ := List.exists_cons_of_ne_nil (splitAt_ne_nil '_' cs)
  have hlonger : splitAt '_' (c :: cs) = (c :: part) :: parts := by
    rw [splitAt, if_neg hc, hsplit]
  rw [camelChars_of_splitAt hlonger, camelChars_of_splitAt hsplit, List.cons_append]

/-- An underscore goes and raises the character after it. What follows has to be in lower case,
for the rest of a raised part is lowered. -/
theorem camelChars_underscore_cons {c : Char} (hc : c ≠ '_') {cs : List Char}
    (hlower : ∀ d ∈ cs, lowerChar d = [d]) :
    camelChars ('_' :: c :: cs) = upperChar c ++ camelChars cs := by
  obtain ⟨part, parts, hsplit⟩ := List.exists_cons_of_ne_nil (splitAt_ne_nil '_' cs)
  have hsplit' : splitAt '_' ('_' :: c :: cs) = [] :: (c :: part) :: parts := by
    rw [splitAt, if_pos rfl, splitAt, if_neg hc, hsplit]
  have hpart : part.flatMap lowerChar = part := by
    refine flatMap_eq_self fun d hd => hlower d ?_
    exact (mem_of_mem_splitAt (by rw [hsplit]; exact List.mem_cons_self) hd).1
  rw [camelChars_of_splitAt hsplit', camelChars_of_splitAt hsplit, List.nil_append,
    List.flatMap_cons, capitalize, hpart, List.append_assoc]

/-- What stands in a raised part is in ASCII and no underscore. -/
theorem mem_capitalize {part : List Char} (h : ∀ c ∈ part, isAscii c = true ∧ c ≠ '_') {d : Char}
    (hd : d ∈ capitalize part) : isAscii d = true ∧ d ≠ '_' := by
  cases part with
  | nil => cases hd
  | cons c rest =>
    rw [capitalize, List.mem_append, List.mem_flatMap] at hd
    rcases hd with hd | ⟨e, he, hd⟩
    · obtain ⟨hascii, hne⟩ := h c List.mem_cons_self
      rw [upperChar_eq hascii, List.mem_singleton] at hd
      have hmapped := toLower_toUpper_ascii hascii
      rw [hd]
      exact ⟨hmapped.2.1, (hmapped.2.2.2 hne).2⟩
    · obtain ⟨hascii, hne⟩ := h e (List.mem_cons_of_mem c he)
      rw [lowerChar_eq hascii, List.mem_singleton] at hd
      have hmapped := toLower_toUpper_ascii hascii
      rw [hd]
      exact ⟨hmapped.1, (hmapped.2.2.2 hne).1⟩

/-- Camel case stays within ASCII and has no underscore: each of them separates two parts. -/
theorem mem_camelChars {cs : List Char} (h : ∀ c ∈ cs, isAscii c = true) {d : Char}
    (hd : d ∈ camelChars cs) : isAscii d = true ∧ d ≠ '_' := by
  obtain ⟨part, parts, hsplit⟩ := List.exists_cons_of_ne_nil (splitAt_ne_nil '_' cs)
  have hparts : ∀ p ∈ part :: parts, ∀ c ∈ p, isAscii c = true ∧ c ≠ '_' := by
    intro p hp c hc
    rw [← hsplit] at hp
    obtain ⟨hmem, hne⟩ := mem_of_mem_splitAt hp hc
    exact ⟨h c hmem, hne⟩
  rw [camelChars_of_splitAt hsplit, List.mem_append, List.mem_flatMap] at hd
  rcases hd with hd | ⟨p, hp, hd⟩
  · exact hparts part List.mem_cons_self d hd
  · exact mem_capitalize (hparts p (List.mem_cons_of_mem _ hp)) hd

/-! ### Snake case -/

/-- A character that is no capital of any alphabet stays as it is. -/
theorem snakeChar_eq_singleton {c : Char} (h : isUppercase c = false) : snakeChar c = [c] := by
  rw [snakeChar, h, if_neg Bool.false_ne_true]

/-- A capital becomes an underscore and its small letter. -/
theorem snakeChar_eq_underscore_cons {c : Char} (h : isUppercase c = true) :
    snakeChar c = '_' :: lowerChar c := by
  rw [snakeChar, if_pos h]

/-- A capital in ASCII becomes an underscore and its one small letter. -/
theorem snakeChar_of_isUpper {c : Char} (hc : isAscii c = true) (h : c.isUpper = true) :
    snakeChar c = ['_', c.toLower] := by
  rw [snakeChar_eq_underscore_cons ((isUppercase_eq_isUpper hc).trans h), lowerChar_eq hc]

/-- Any other character of ASCII stays as it is. -/
theorem snakeChar_of_not_isUpper {c : Char} (hc : isAscii c = true) (h : c.isUpper = false) :
    snakeChar c = [c] :=
  snakeChar_eq_singleton ((isUppercase_eq_isUpper hc).trans h)

/-- The head of a text becomes its small letter. -/
theorem snakeChars_cons {c : Char} (hc : isAscii c = true) (cs : List Char) :
    snakeChars (c :: cs) = c.toLower :: cs.flatMap snakeChar := by
  rw [snakeChars, isUppercase_eq_isUpper hc]
  cases h : c.isUpper with
  | false => rw [if_neg Bool.false_ne_true, toLower_of_not_isUpper h, List.singleton_append]
  | true => rw [if_pos rfl, lowerChar_eq hc, List.singleton_append]

/-- Snake case stays within ASCII and has no capital. -/
theorem mem_flatMap_snakeChar {cs : List Char} (h : ∀ c ∈ cs, isAscii c = true) {d : Char}
    (hd : d ∈ cs.flatMap snakeChar) : isAscii d = true ∧ d.isUpper = false := by
  obtain ⟨c, hc, hd⟩ := List.mem_flatMap.mp hd
  have hascii := h c hc
  cases hupper : c.isUpper with
  | false =>
    rw [snakeChar_of_not_isUpper hascii hupper, List.mem_singleton] at hd
    rw [hd]
    exact ⟨hascii, hupper⟩
  | true =>
    rw [snakeChar_of_isUpper hascii hupper] at hd
    have hmapped := toLower_toUpper_ascii hascii
    rcases List.mem_cons.mp hd with rfl | hd
    · decide
    · rw [List.mem_singleton.mp hd]
      exact ⟨hmapped.1, hmapped.2.2.1⟩

/-- Snake case stays within ASCII and has no capitals. -/
theorem mem_snakeChars {cs : List Char} (h : ∀ c ∈ cs, isAscii c = true) {d : Char}
    (hd : d ∈ snakeChars cs) : isAscii d = true ∧ d.isUpper = false := by
  cases cs with
  | nil => cases hd
  | cons c rest =>
    obtain ⟨hascii, hrest⟩ := List.forall_mem_cons.mp h
    rw [snakeChars_cons hascii, List.mem_cons] at hd
    rcases hd with rfl | hd
    · have hmapped := toLower_toUpper_ascii hascii
      exact ⟨hmapped.1, hmapped.2.2.1⟩
    · exact mem_flatMap_snakeChar hrest hd

/-- Each underscore of a text without underscores stands where a capital was, so its small
letter follows. -/
theorem smallAfterUnderscore_flatMap_snakeChar {cs : List Char}
    (h : ∀ c ∈ cs, isAscii c = true) (hunderscore : '_' ∉ cs) :
    SmallAfterUnderscore (cs.flatMap snakeChar) := by
  induction cs with
  | nil => exact smallAfterUnderscore_nil
  | cons c rest ih =>
    obtain ⟨hascii, hmore⟩ := List.forall_mem_cons.mp h
    rw [List.mem_cons, not_or] at hunderscore
    have hrest := ih hmore hunderscore.2
    rw [List.flatMap_cons]
    cases hupper : c.isUpper with
    | false =>
      rw [snakeChar_of_not_isUpper hascii hupper, List.singleton_append,
        smallAfterUnderscore_cons_iff]
      exact ⟨fun hc => absurd hc.symm hunderscore.1, hrest⟩
    | true =>
      have hsmall := (toLower_of_isUpper hascii hupper).1
      have hne := (not_isUpper_of_isLower (toLower_toUpper_ascii hascii).1 hsmall).2
      -- The capital leaves one underscore, with its small letter after it.
      rw [snakeChar_of_isUpper hascii hupper, List.cons_append, List.singleton_append,
        smallAfterUnderscore_cons_iff, smallAfterUnderscore_cons_iff]
      exact ⟨fun _ => ⟨c.toLower, rfl, hsmall⟩, fun hc => absurd hc hne, hrest⟩

/-! ### There and back -/

/-- A text without underscores is read back after a change to snake case. Every underscore in
between then comes from a capital. -/
theorem camelChars_flatMap_snakeChar {cs : List Char} (h : ∀ c ∈ cs, isAscii c = true)
    (hunderscore : '_' ∉ cs) : camelChars (cs.flatMap snakeChar) = cs := by
  induction cs with
  | nil => rfl
  | cons c rest ih =>
    obtain ⟨hascii, hrest⟩ := List.forall_mem_cons.mp h
    rw [List.mem_cons, not_or] at hunderscore
    rw [List.flatMap_cons]
    cases hupper : c.isUpper with
    | false =>
      rw [snakeChar_of_not_isUpper hascii hupper, List.singleton_append,
        camelChars_cons fun hc => hunderscore.1 hc.symm, ih hrest hunderscore.2]
    | true =>
      obtain ⟨hsmall, hback⟩ := toLower_of_isUpper hascii hupper
      have hsmallAscii := (toLower_toUpper_ascii hascii).1
      have hne := (not_isUpper_of_isLower hsmallAscii hsmall).2
      -- What follows is in snake case, so the underscore raises one character only.
      have hlower : ∀ d ∈ rest.flatMap snakeChar, lowerChar d = [d] := by
        intro d hd
        obtain ⟨hd, hd'⟩ := mem_flatMap_snakeChar hrest hd
        rw [lowerChar_eq hd, toLower_of_not_isUpper hd']
      rw [snakeChar_of_isUpper hascii hupper, List.cons_append, List.singleton_append,
        camelChars_underscore_cons hne hlower, ih hrest hunderscore.2, upperChar_eq hsmallAscii,
        hback, List.singleton_append]

/-- A text with a small letter after each underscore and no capital is read back after a
change to camel case. -/
theorem flatMap_snakeChar_camelChars {cs : List Char} (h : ∀ c ∈ cs, isAscii c = true)
    (hcapital : ∀ c ∈ cs, c.isUpper = false) (hunderscore : SmallAfterUnderscore cs) :
    (camelChars cs).flatMap snakeChar = cs := by
  -- An underscore is worked off together with the letter after it.
  induction hn : cs.length using Nat.strongRecOn generalizing cs with
  | ind n ih =>
    cases cs with
    | nil => rfl
    | cons c rest =>
      obtain ⟨hascii, hrest⟩ := List.forall_mem_cons.mp h
      obtain ⟨hcCapital, hrestCapital⟩ := List.forall_mem_cons.mp hcapital
      obtain ⟨hfollowed, hrestUnderscore⟩ := smallAfterUnderscore_cons_iff.mp hunderscore
      by_cases hc : c = '_'
      · subst hc
        obtain ⟨d, hhead, hsmall⟩ := hfollowed rfl
        cases rest with
        | nil => cases hhead
        | cons e rest =>
          cases hhead
          obtain ⟨hdAscii, hmore⟩ := List.forall_mem_cons.mp hrest
          have hne := (not_isUpper_of_isLower hdAscii hsmall).2
          obtain ⟨hbig, hback⟩ := toUpper_of_isLower hdAscii hsmall
          obtain ⟨-, hmoreCapital⟩ := List.forall_mem_cons.mp hrestCapital
          have hlower : ∀ e ∈ rest, lowerChar e = [e] := by
            intro e he
            rw [lowerChar_eq (hmore e he), toLower_of_not_isUpper (hmoreCapital e he)]
          have hshorter : rest.length < n := by
            rw [← hn, List.length_cons, List.length_cons]
            omega
          rw [camelChars_underscore_cons hne hlower, upperChar_eq hdAscii, List.singleton_append,
            List.flatMap_cons, snakeChar_of_isUpper (toLower_toUpper_ascii hdAscii).2.1 hbig, hback,
            ih rest.length hshorter hmore hmoreCapital
              (smallAfterUnderscore_cons_iff.mp hrestUnderscore).2 rfl]
          rfl
      · have hshorter : rest.length < n := by
          rw [← hn, List.length_cons]
          omega
        rw [camelChars_cons hc, List.flatMap_cons,
          snakeChar_of_not_isUpper hascii hcCapital, List.singleton_append,
          ih rest.length hshorter hrest hrestCapital hrestUnderscore rfl]

section

variable {name : String}

/-- Camel case stays within ASCII. -/
theorem isAscii_toCamel (h : IsAscii name) : IsAscii (toCamel name) := by
  intro c hc
  rw [toCamel, String.toList_ofList] at hc
  exact (mem_camelChars h hc).1

/-- Camel case has no underscore. So a name with one never comes back as it was. -/
theorem underscore_not_mem_toCamel (h : IsAscii name) : '_' ∉ (toCamel name).toList := by
  intro hmem
  rw [toCamel, String.toList_ofList] at hmem
  exact (mem_camelChars h hmem).2 rfl

/-- So does snake case. -/
theorem isAscii_toSnake (h : IsAscii name) : IsAscii (toSnake name) := by
  intro c hc
  rw [toSnake, String.toList_ofList] at hc
  exact (mem_snakeChars h hc).1

/-- Snake case has no capital. So a name with one never comes back as it was. -/
theorem hasNoCapital_toSnake (h : IsAscii name) : HasNoCapital (toSnake name) := by
  intro c hc
  rw [toSnake, String.toList_ofList] at hc
  exact (mem_snakeChars h hc).2

/-- The empty name is its own snake case, and any other name in snake case begins with the
small letter of its head. -/
theorem toList_toSnake (h : IsAscii name) :
    (name.toList = [] ∧ (toSnake name).toList = []) ∨
      ∃ c rest, name.toList = c :: rest ∧
        (toSnake name).toList = c.toLower :: rest.flatMap snakeChar := by
  rw [toSnake, String.toList_ofList]
  unfold IsAscii at h
  cases hname : name.toList with
  | nil => exact Or.inl ⟨rfl, rfl⟩
  | cons c rest =>
    rw [hname] at h
    exact Or.inr ⟨c, rest, rfl, snakeChars_cons (h c List.mem_cons_self) rest⟩

/-- A name in camel case is read back after a change to snake case. Its head is no capital, so
snake case has no underscore in front. -/
theorem toCamel_toSnake (h : IsAscii name) (hcamel : IsCamel name) :
    toCamel (toSnake name) = name := by
  rw [toCamel, ← String.toList_inj, String.toList_ofList]
  rcases toList_toSnake h with ⟨hname, hsnake⟩ | ⟨c, rest, hname, hsnake⟩
  · rw [hsnake, hname]
    rfl
  · obtain ⟨hunderscore, hhead⟩ := hcamel
    unfold IsAscii at h
    rw [hname] at h hunderscore hhead
    rw [List.mem_cons, not_or] at hunderscore
    obtain ⟨-, hrest⟩ := List.forall_mem_cons.mp h
    -- The head is no capital, so it is kept both ways.
    rw [hsnake, hname, toLower_of_not_isUpper (hhead c rfl),
      camelChars_cons fun hc => hunderscore.1 hc.symm,
      camelChars_flatMap_snakeChar hrest hunderscore.2]

/-- A name in plain snake case is read back after a change to camel case. Each of its underscores
is found again before a capital. -/
theorem toSnake_toCamel (h : IsAscii name) (hsnake : IsSnake name) :
    toSnake (toCamel name) = name := by
  obtain ⟨hcapital, hhead, hunderscore⟩ := hsnake
  rw [toSnake, toCamel, String.toList_ofList, ← String.toList_inj, String.toList_ofList]
  unfold IsAscii at h
  unfold HasNoCapital at hcapital
  cases hname : name.toList with
  | nil => rfl
  | cons c rest =>
    rw [hname] at h hcapital hhead hunderscore
    have hc : c ≠ '_' := fun heq => hhead (by rw [heq]; rfl)
    obtain ⟨hascii, hrest⟩ := List.forall_mem_cons.mp h
    obtain ⟨hcCapital, hrestCapital⟩ := List.forall_mem_cons.mp hcapital
    have hrestUnderscore := (smallAfterUnderscore_cons_iff.mp hunderscore).2
    -- The head is no underscore and no capital, so it is kept both ways.
    rw [camelChars_cons hc, snakeChars_cons hascii,
      toLower_of_not_isUpper hcCapital,
      flatMap_snakeChar_camelChars hrest hrestCapital hrestUnderscore]

/-- A name without capitals is its own snake case. -/
theorem toSnake_eq_self (h : IsAscii name) (hcapital : HasNoCapital name) :
    toSnake name = name := by
  rw [← String.toList_inj]
  rcases toList_toSnake h with ⟨hname, hsnake⟩ | ⟨c, rest, hname, hsnake⟩
  · rw [hsnake, hname]
  · unfold IsAscii at h
    unfold HasNoCapital at hcapital
    rw [hname] at h hcapital
    obtain ⟨-, hrest⟩ := List.forall_mem_cons.mp h
    obtain ⟨hcCapital, hrestCapital⟩ := List.forall_mem_cons.mp hcapital
    have hkept : ∀ d ∈ rest, snakeChar d = [d] := fun d hd =>
      snakeChar_of_not_isUpper (hrest d hd) (hrestCapital d hd)
    rw [hsnake, hname, toLower_of_not_isUpper hcCapital, flatMap_eq_self hkept]

/-- The camel case of the snake case of a name without underscores does not begin with a
capital. -/
theorem isUpper_head_toCamel (h : IsAscii name) (hunderscore : '_' ∉ name.toList) :
    ∀ c ∈ (toCamel (toSnake name)).toList.head?, c.isUpper = false := by
  rw [toCamel, String.toList_ofList]
  rcases toList_toSnake h with ⟨hname, hsnake⟩ | ⟨c, rest, hname, hsnake⟩
  · rw [hsnake]
    simp [camelChars]
  · unfold IsAscii at h
    rw [hname] at h hunderscore
    rw [List.mem_cons, not_or] at hunderscore
    have hmapped := toLower_toUpper_ascii (h c List.mem_cons_self)
    have hne : c.toLower ≠ '_' := (hmapped.2.2.2 fun hc => hunderscore.1 hc.symm).1
    -- No underscore precedes the head, so nothing raises it.
    rw [hsnake, camelChars_cons hne]
    intro d hd
    cases hd
    exact hmapped.2.2.1

/-- The snake case of a name without underscores is plain. So a second trip leaves it as it is. -/
theorem isSnake_toSnake (h : IsAscii name) (hunderscore : '_' ∉ name.toList) :
    IsSnake (toSnake name) := by
  have hcapital := hasNoCapital_toSnake h
  rcases toList_toSnake h with ⟨hname, hsnake⟩ | ⟨c, rest, hname, hsnake⟩
  · exact ⟨hcapital, by simp [hsnake], by rw [hsnake]; exact smallAfterUnderscore_nil⟩
  · unfold IsAscii at h
    rw [hname] at h hunderscore
    rw [List.mem_cons, not_or] at hunderscore
    obtain ⟨hascii, hrest⟩ := List.forall_mem_cons.mp h
    have hmapped := toLower_toUpper_ascii hascii
    have hne : c.toLower ≠ '_' := (hmapped.2.2.2 fun hc => hunderscore.1 hc.symm).1
    refine ⟨hcapital, ?_, ?_⟩
    · rw [hsnake]
      exact fun hhead => hne (Option.some.inj hhead)
    · rw [hsnake, smallAfterUnderscore_cons_iff]
      exact ⟨fun hc => absurd hc hne, smallAfterUnderscore_flatMap_snakeChar hrest hunderscore.2⟩

end

end Wire

end EntitlementClient
