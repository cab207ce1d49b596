import Mathlib.Computability.Language
import Mathlib.Data.List.Forall2
import EntitlementClient.Content
import EntitlementClient.Proofs.Wire.Case

/-!
# `EntitlementClient.Proofs.Http.MediaType`: content types that announce JSON

A content type announces JSON when it mentions one of the JSON media types, wherever it
stands and whatever stands around it. `jsonMediaType` describes the spellings of these
media types as a language: a top-level type, perhaps `x-`, and `json`, in letters of
either case (`inAnyCase`).

The search goes through the text from left to right and compares four words at each place.
The four words are all words of the language (`mem_jsonMediaType_iff`), a comparison finds
every spelling of a word (`beginsWith_iff`), and the search finds it at every place
(`mentionsJson_iff`). `isJsonType_iff` states the result.
-/

set_option autoImplicit false

namespace EntitlementClient

/-- A character that stands for a letter when case does not matter: the letter, its
capital, and the long s for an s. -/
def SpellsLetter (letter c : Char) : Prop :=
  c = letter ∨ c = letter.toUpper ∨ (letter = 's' ∧ c = 'ſ')

/-- The spellings of a word when case does not matter. -/
def inAnyCase (word : List Char) : Language Char := fun cs => List.Forall₂ SpellsLetter word cs

/-- The spellings of the JSON media types. -/
def jsonMediaType : Language Char :=
  (inAnyCase "application/".toList + inAnyCase "text/".toList) * (1 + inAnyCase "x-".toList) *
    inAnyCase "json".toList

/-! ### Letters -/

/-- Capitals are characters of ASCII. -/
theorem isAscii_of_isUpper {c : Char} (h : c.isUpper = true) : Text.isAscii c = true := by
  have hrange : c.val ≥ 'A'.val ∧ c.val ≤ 'Z'.val := of_decide_eq_true h
  have hle : c.toNat ≤ 'Z'.toNat := hrange.2
  exact decide_eq_true (Nat.lt_of_le_of_lt hle (by decide))

/-- A small letter is read back from its capital, and a sign has none. -/
theorem toLower_toUpper {c : Char} (hascii : Text.isAscii c = true) :
    c.isUpper = false → c.toUpper.toLower = c :=
  Text.forall_isAscii (P := fun c => c.isUpper = false → c.toUpper.toLower = c) (by decide) hascii

/-- A small letter or a sign is what a character comes to without its case exactly when
the character spells it. -/
theorem eq_foldLetter_iff {letter c : Char} (hascii : Text.isAscii letter = true)
    (hsmall : letter.isUpper = false) : letter = foldLetter c ↔ SpellsLetter letter c := by
  constructor
  · intro h
    unfold foldLetter at h
    split at h
    · rename_i hc
      exact Or.inr (Or.inr ⟨h, hc⟩)
    · cases hupper : c.isUpper with
      | true =>
        have hc : Text.isAscii c = true := isAscii_of_isUpper hupper
        rw [h]
        exact Or.inr (Or.inl (Text.toLower_of_isUpper hc hupper).2.symm)
      | false =>
        rw [Text.toLower_of_not_isUpper hupper] at h
        exact Or.inl h.symm
  · -- The long s is no ASCII character, so it is neither the letter nor its capital.
    have hlong : ∀ {d : Char}, Text.isAscii d = true → d ≠ 'ſ' := by
      rintro d hd rfl
      cases hd
    rintro (rfl | rfl | ⟨rfl, rfl⟩)
    · rw [foldLetter, if_neg (hlong hascii), Text.toLower_of_not_isUpper hsmall]
    · rw [foldLetter, if_neg (hlong (Text.toLower_toUpper_ascii hascii).2.1)]
      exact (toLower_toUpper hascii hsmall).symm
    · rfl

/-! ### Words -/

/-- The empty word has one spelling. -/
theorem mem_inAnyCase_nil {cs : List Char} : cs ∈ inAnyCase [] ↔ cs = [] :=
  List.forall₂_nil_left_iff

/-- A spelling of a word spells its first letter and then spells the rest. -/
theorem mem_inAnyCase_cons {letter : Char} {word cs : List Char} :
    cs ∈ inAnyCase (letter :: word) ↔
      ∃ c rest, SpellsLetter letter c ∧ rest ∈ inAnyCase word ∧ cs = c :: rest :=
  List.forall₂_cons_left_iff

/-- The spellings of two words in a row are the spellings of the first followed by those
of the second. -/
theorem inAnyCase_append (first second : List Char) :
    inAnyCase (first ++ second) = inAnyCase first * inAnyCase second := by
  ext cs
  rw [Language.mem_mul]
  induction first generalizing cs with
  | nil => simp [mem_inAnyCase_nil]
  | cons letter word ih =>
    simp only [List.cons_append, mem_inAnyCase_cons, ih]
    constructor
    · rintro ⟨c, rest, hc, ⟨a, ha, b, hb, rfl⟩, rfl⟩
      exact ⟨c :: a, ⟨c, a, hc, ha, rfl⟩, b, hb, rfl⟩
    · rintro ⟨-, ⟨c, a, hc, ha, rfl⟩, b, hb, rfl⟩
      exact ⟨c, a ++ b, hc, ⟨a, ha, b, hb, rfl⟩, rfl⟩

/-- The comparison finds every spelling of a word at the beginning of a text, and nothing else.
The word has to be in small letters, as the four words of the search are. -/
theorem beginsWith_iff {word cs : List Char}
    (h : ∀ letter ∈ word, Text.isAscii letter = true ∧ letter.isUpper = false) :
    beginsWith word cs = true ↔ ∃ found ∈ inAnyCase word, found <+: cs := by
  induction word generalizing cs with
  | nil => exact ⟨fun _ => ⟨[], mem_inAnyCase_nil.mpr rfl, List.nil_prefix⟩, fun _ => rfl⟩
  | cons letter rest ih =>
    obtain ⟨⟨hascii, hsmall⟩, hrest⟩ := List.forall_mem_cons.mp h
    cases cs with
    | nil => simp [beginsWith, mem_inAnyCase_cons]
    | cons c cs =>
      rw [beginsWith, Bool.and_eq_true, decide_eq_true_eq, eq_foldLetter_iff hascii hsmall, ih hrest]
      constructor
      · rintro ⟨hc, found, hfound, hprefix⟩
        exact ⟨c :: found, mem_inAnyCase_cons.mpr ⟨c, found, hc, hfound, rfl⟩,
          List.cons_prefix_cons.mpr ⟨rfl, hprefix⟩⟩
      · rintro ⟨found, hfound, hprefix⟩
        obtain ⟨d, rest, hd, hmem, rfl⟩ := mem_inAnyCase_cons.mp hfound
        obtain ⟨rfl, hbegin⟩ := List.cons_prefix_cons.mp hprefix
        exact ⟨hd, rest, hmem, hbegin⟩

/-- The four words that the search looks for are the words of the language, each in any case. -/
theorem mem_jsonMediaType_iff {cs : List Char} :
    cs ∈ jsonMediaType ↔ ∃ word ∈ jsonTypes, cs ∈ inAnyCase word := by
  have hchoices : ∀ a t x j : Language Char,
      (a + t) * (1 + x) * j = a * j + (a * x * j + (t * j + t * x * j)) := by
    intro a t x j
    rw [add_mul, mul_add, mul_add, mul_one, mul_one, add_mul, add_mul, add_mul, add_assoc]
  rw [jsonMediaType, hchoices]
  simp only [← inAnyCase_append, Language.mem_add]
  simp [jsonTypes]

/-! ### Texts -/

/-- At the beginning of a text the search finds a media type exactly when one stands there. -/
theorem any_beginsWith_iff {cs : List Char} :
    jsonTypes.any (beginsWith · cs) = true ↔ ∃ found ∈ jsonMediaType, found <+: cs := by
  have hletters : jsonTypes.flatten.all (fun letter => Text.isAscii letter && !letter.isUpper) = true := by
    decide
  have hsmall : ∀ word ∈ jsonTypes, ∀ letter ∈ word,
      Text.isAscii letter = true ∧ letter.isUpper = false := by
    intro word hword letter hletter
    simpa using List.all_eq_true.mp hletters letter (List.mem_flatten.mpr ⟨word, hword, hletter⟩)
  rw [List.any_eq_true]
  constructor
  · rintro ⟨word, hword, hbegins⟩
    obtain ⟨found, hfound, hprefix⟩ := (beginsWith_iff (hsmall word hword)).mp hbegins
    exact ⟨found, mem_jsonMediaType_iff.mpr ⟨word, hword, hfound⟩, hprefix⟩
  · rintro ⟨found, hfound, hprefix⟩
    obtain ⟨word, hword, hmem⟩ := mem_jsonMediaType_iff.mp hfound
    exact ⟨word, hword, (beginsWith_iff (hsmall word hword)).mpr ⟨found, hmem, hprefix⟩⟩

/-- The search finds a media type wherever it stands. The induction goes over the places of the
text, from the left. -/
theorem mentionsJson_iff {cs : List Char} :
    mentionsJson cs = true ↔ ∃ found ∈ jsonMediaType, found <:+: cs := by
  induction cs with
  | nil =>
    -- What occurs in the empty text stands at its beginning, where no comparison succeeds.
    simp only [List.infix_nil, ← List.prefix_nil, ← any_beginsWith_iff]
    rfl
  | cons c rest ih =>
    rw [mentionsJson, Bool.or_eq_true, ih, any_beginsWith_iff]
    simp only [List.infix_cons_iff, and_or_left, exists_or]

/-- A content type announces JSON exactly when, at some place in it, there is
`application/` or `text/`, then perhaps `x-`, and then `json`, in letters of either case,
where the long s counts as an s. Any text can stand before and after it. -/
theorem isJsonType_iff (contentType : String) :
    isJsonType contentType = true ↔ ∃ found ∈ jsonMediaType, found <:+: contentType.toList :=
  mentionsJson_iff

example : isJsonType "json, TEXT/x-jſON;q=0.5" = true ∧ isJsonType "application/hal+json" = false := by
  decide

end EntitlementClient
