import EntitlementClient.Proofs.Wire.Case

/-!
# `EntitlementClient.Proofs.Wire.Preimage`: which names have a given snake case

Nothing here is restricted to ASCII. A name that does not begin with a capital
(`HasNoCapitalHead`) and whose snake case has no underscore is its own snake case
(`eq_of_toSnake_eq`). An underscore with a letter after it comes from itself or from the
capital of the letter (`flatMap_snakeChar_eq_underscore`), with two exceptions: outside of
ASCII there are one more capital of `i` and one more of `k` (`head_lowerChar`).

So `id_cert` is the snake case of two names only (`toSnake_eq_id_cert_iff`).
-/

set_option autoImplicit false

namespace EntitlementClient

/-! ### Small letters of other alphabets -/

namespace Text

/-- A code point is read back from its character. -/
theorem toNat_ofNat_of_isValidChar {n : Nat} (h : n.isValidChar) : (Char.ofNat n).toNat = n := by
  rw [Char.ofNat, dif_pos h]
  rfl

/-- A run leads out of ASCII to code points of characters, all but the run of the Kelvin sign. The
table of runs is finite, so this is computed. -/
theorem lowerRuns_spec : ∀ run ∈ CaseTable.lowerRuns,
    (run.1 = 0x212A ∧ run.2.1 = 0x212A ∧ run.2.2.2 = -8383) ∨
      (0x80 ≤ run.1 + run.2.2.2 ∧
        (run.2.1 + run.2.2.2 < 0xD800 ∨
          0xDFFF < run.1 + run.2.2.2 ∧ run.2.1 + run.2.2.2 < 0x110000)) := by
  decide +kernel

/-- The small letter of a character outside of ASCII begins outside of ASCII, or with `i`
or `k`. -/
theorem head_lowerChar {c : Char} (hc : isAscii c = false) :
    ∃ d rest, lowerChar c = d :: rest ∧ (isAscii d = false ∨ d = 'i' ∨ d = 'k') := by
  rw [lowerChar, hc, if_neg Bool.false_ne_true, mapChar]
  cases hexpansion : CaseTable.lowerExpansions.lookup c.toNat with
  | some codes =>
    -- There is one expansion, that of the capital `i` with a dot.
    have hcodes : codes = [0x69, 0x307] := by
      rw [CaseTable.lowerExpansions, List.lookup_cons] at hexpansion
      split at hexpansion
      · exact (Option.some.inj hexpansion).symm
      · cases hexpansion
    rw [hcodes]
    exact ⟨'i', ['\u0307'], rfl, Or.inr (Or.inl rfl)⟩
  | none =>
    cases hshift : shiftOf CaseTable.lowerRuns c.toNat with
    | none => exact ⟨c, [], rfl, Or.inl hc⟩
    | some shift =>
      rw [shiftOf, Option.map_eq_some_iff] at hshift
      obtain ⟨⟨first, last, stride, shift'⟩, hrun, rfl⟩ := hshift
      have hcovers := List.find?_some hrun
      simp only [Bool.and_eq_true, decide_eq_true_eq] at hcovers
      obtain ⟨⟨hfirst, hlast⟩, -⟩ := hcovers
      refine ⟨_, [], rfl, ?_⟩
      rcases lowerRuns_spec _ (List.mem_of_find?_eq_some hrun) with hkelvin | ⟨hlow, hvalid⟩
      · obtain ⟨rfl, rfl, rfl⟩ := hkelvin
        have hcode : c.toNat = 0x212A := by omega
        rw [hcode]
        exact Or.inr (Or.inr rfl)
      · dsimp only at hlow hvalid ⊢
        have hchar : (c.toNat + shift').toNat.isValidChar := by
          unfold Nat.isValidChar
          omega
        refine Or.inl ?_
        rw [isAscii, toNat_ofNat_of_isValidChar hchar, decide_eq_false]
        omega

end Text

namespace Wire

open Text

/-! ### Characters -/

/-- Characters without an underscore in their snake case have no capital among them, and so they
are their own snake case. -/
theorem eq_of_flatMap_snakeChar {cs ds : List Char} (h : cs.flatMap snakeChar = ds)
    (hds : '_' ∉ ds) : cs = ds := by
  have hkept : ∀ c ∈ cs, snakeChar c = [c] := by
    intro c hc
    cases hupper : isUppercase c with
    | false => exact snakeChar_eq_singleton hupper
    | true =>
      have hmem : '_' ∈ snakeChar c := by
        rw [snakeChar_eq_underscore_cons hupper]
        exact List.mem_cons_self
      exact absurd (h ▸ List.mem_flatMap.mpr ⟨c, hc, hmem⟩) hds
  rw [← h, flatMap_eq_self hkept]

/-- Where the snake case goes on with something else than an underscore, so does the text. -/
theorem flatMap_snakeChar_eq_cons {cs ds : List Char} {d : Char} (hd : d ≠ '_')
    (h : cs.flatMap snakeChar = d :: ds) : ∃ rest, cs = d :: rest ∧ rest.flatMap snakeChar = ds := by
  cases cs with
  | nil => cases h
  | cons c rest =>
    rw [List.flatMap_cons] at h
    cases hupper : isUppercase c with
    | false =>
      rw [snakeChar_eq_singleton hupper, List.singleton_append, List.cons.injEq] at h
      obtain ⟨rfl, hrest⟩ := h
      exact ⟨rest, rfl, hrest⟩
    | true =>
      rw [snakeChar_eq_underscore_cons hupper, List.cons_append, List.cons.injEq] at h
      exact absurd h.1.symm hd

/-- An underscore with a letter after it is there in the text, or stands for the capital
of the letter. -/
theorem flatMap_snakeChar_eq_underscore {cs ds : List Char} {d : Char} (hascii : isAscii d = true)
    (hd : d ≠ '_' ∧ d ≠ 'i' ∧ d ≠ 'k') (h : cs.flatMap snakeChar = '_' :: d :: ds) :
    ∃ rest, rest.flatMap snakeChar = ds ∧ (cs = '_' :: d :: rest ∨ cs = d.toUpper :: rest) := by
  cases cs with
  | nil => cases h
  | cons c rest =>
    rw [List.flatMap_cons] at h
    cases hupper : isUppercase c with
    | false =>
      rw [snakeChar_eq_singleton hupper, List.singleton_append, List.cons.injEq] at h
      obtain ⟨rfl, hrest⟩ := h
      obtain ⟨more, rfl, hmore⟩ := flatMap_snakeChar_eq_cons hd.1 hrest
      exact ⟨more, hmore, Or.inl rfl⟩
    | true =>
      rw [snakeChar_eq_underscore_cons hupper, List.cons_append, List.cons.injEq] at h
      obtain ⟨-, hlower⟩ := h
      cases hc : isAscii c with
      | true =>
        rw [isUppercase_eq_isUpper hc] at hupper
        rw [lowerChar_eq hc, List.singleton_append, List.cons.injEq] at hlower
        obtain ⟨rfl, hrest⟩ := hlower
        exact ⟨rest, hrest, Or.inr (by rw [(toLower_of_isUpper hc hupper).2])⟩
      | false =>
        -- No other letter outside of ASCII becomes one in ASCII.
        obtain ⟨e, more, heq, he⟩ := head_lowerChar hc
        rw [heq, List.cons_append, List.cons.injEq] at hlower
        obtain ⟨rfl, -⟩ := hlower
        rcases he with he | he | he
        · rw [hascii] at he
          cases he
        · exact absurd he hd.2.1
        · exact absurd he hd.2.2

/-! ### Names -/

/-- A name that does not begin with a capital of any alphabet. -/
def HasNoCapitalHead (name : String) : Prop :=
  ∀ c ∈ name.toList.head?, isUppercase c = false

instance : DecidablePred HasNoCapitalHead := fun name =>
  Option.decidableForallMem (p := (isUppercase · = false)) name.toList.head?

section

variable {name : String}

/-- A name without a capital at its head is changed behind its head only, and there like
any other text. -/
theorem toList_toSnake_of_head (h : HasNoCapitalHead name) :
    (toSnake name).toList = name.toList.flatMap snakeChar := by
  rw [toSnake, String.toList_ofList]
  unfold HasNoCapitalHead at h
  cases hname : name.toList with
  | nil => rfl
  | cons c rest =>
    rw [hname] at h
    have hc : isUppercase c = false := h c rfl
    rw [snakeChars, hc, if_neg Bool.false_ne_true, List.flatMap_cons, snakeChar_eq_singleton hc]

/-- A snake case without underscores is that of itself only. So a member by that name was called
so before. -/
theorem eq_of_toSnake_eq {target : String} (h : HasNoCapitalHead name)
    (htarget : '_' ∉ target.toList) (heq : toSnake name = target) : name = target := by
  rw [← heq, toList_toSnake_of_head h] at htarget
  rw [← heq, ← String.toList_inj, toList_toSnake_of_head h]
  exact eq_of_flatMap_snakeChar rfl htarget

/-- The name of the texts of an identity is the snake case of itself and of its camel case
only. -/
theorem toSnake_eq_id_cert_iff (h : HasNoCapitalHead name) :
    toSnake name = "id_cert" ↔ name = "id_cert" ∨ name = "idCert" := by
  constructor
  · intro heq
    have hchars : name.toList.flatMap snakeChar = ['i', 'd', '_', 'c', 'e', 'r', 't'] := by
      rw [← toList_toSnake_of_head h, heq]
      rfl
    obtain ⟨rest, hname, hrest⟩ := flatMap_snakeChar_eq_cons (by decide) hchars
    obtain ⟨rest', rfl, hrest'⟩ := flatMap_snakeChar_eq_cons (by decide) hrest
    obtain ⟨last, hlast, hword⟩ := flatMap_snakeChar_eq_underscore rfl (by decide) hrest'
    -- What follows the underscore has no underscore itself.
    have hert : last = ['e', 'r', 't'] := eq_of_flatMap_snakeChar hlast (by decide)
    subst hert
    rw [← String.toList_inj, ← String.toList_inj, hname]
    rcases hword with rfl | rfl
    · exact Or.inl rfl
    · exact Or.inr rfl
  · rintro (rfl | rfl)
    · decide
    · decide

end

end Wire

end EntitlementClient
