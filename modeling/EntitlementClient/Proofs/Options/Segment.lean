import EntitlementClient.Options.Basic
import EntitlementClient.Proofs.Json.Numeral
import EntitlementClient.Proofs.Text.Percent

/-!
# `EntitlementClient.Proofs.Options.Segment`: options as segments of a path

The wording of an option is what it says: a string itself, a number or a boolean its JSON
text. Null, lists and objects have none. An option that is rendered as a segment has a
wording, and the segment spells it (`OptionSet.spells_of_segmentText?`). Every scalar can
be (`Json.IsScalar.segment`).

Three segments are not the name of anything on their level: the empty one, the point and
the two points. An option is rendered as one of them exactly when it is that string
(`OptionSet.segmentText?_eq_unnamed`): encoding leaves the three as they are, and no
number or boolean reads so.
-/

set_option autoImplicit false

namespace EntitlementClient

/-- The value is a text, a number or a boolean. -/
def Json.IsScalar : Json → Prop
  | .string _ => True
  | .number _ => True
  | .bool _ => True
  | _ => False

/-- What a value says as a segment. -/
def Json.wording? : Json → Option String
  | .string s => some s
  | .number n => some (Json.number n).render
  | .bool b => some (Json.bool b).render
  | _ => none

namespace OptionSet

open Text

/-- An option is a path segment when its value has the text of one. -/
theorem segment_eq_ok_iff {options : OptionSet} {key text : String} :
    options.segment key = .ok text ↔ segmentText? (options.value key) = some text := by
  unfold segment
  split
  · rename_i hnull
    rw [hnull]
    exact ⟨fun h => (nomatch h), fun h => (nomatch h)⟩
  · split
    · rename_i htext
      rw [htext]
      simp only [Except.ok.injEq, Option.some.injEq]
    · rename_i htext
      rw [htext]
      exact ⟨fun h => (nomatch h), fun h => (nomatch h)⟩

/-- A value with the text of a path segment is not null. -/
theorem isNull_of_segmentText? {v : Json} {text : String}
    (h : segmentText? v = some text) : v.isNull = false := by
  cases v with
  | null => cases h
  | _ => rfl

/-! ### What segments say -/

/-- The characters of numerals stand for themselves in a segment. So a number is sent as it is
written. -/
theorem isPlain_of_isNumeric {c : Char} (h : isNumeric c = true) : isPlain c = true := by
  simp only [isNumeric, Bool.or_eq_true, beq_iff_eq] at h
  rcases h with (((h | rfl) | rfl) | rfl) | rfl
  · simp [isPlain, h]
  all_goals rfl

/-- A segment spells the wording of the value that it renders: decoding it gives the wording, and
it has the form of a segment. -/
theorem spells_of_segmentText? {v : Json} {text : String} (h : segmentText? v = some text) :
    ∃ word, v.wording? = some word ∧ Spells text.toList word.toList := by
  -- A string is encoded. The other scalars have plain characters only, and spell themselves.
  cases v with
  | string s =>
    cases h
    refine ⟨s, rfl, ?_⟩
    rw [String.toList_ofList]
    exact spells_percentEncode s.toList
  | number n =>
    cases h
    refine ⟨(Json.number n).render, rfl, ?_⟩
    rw [Json.render, Json.renderChars, String.toList_ofList]
    exact spells_of_plain fun c hc => isPlain_of_isNumeric (n.numeral_render.numeric c hc)
  | bool b =>
    cases h
    refine ⟨(Json.bool b).render, rfl, ?_⟩
    cases b with
    | false => exact spells_of_plain (List.all_eq_true.mp (by decide))
    | true => exact spells_of_plain (List.all_eq_true.mp (by decide))
  | null => cases h
  | array items => cases h
  | object members => cases h

/-! ### Segments that name nothing -/

/-- The segments that stand for a level, or for nothing on it. -/
def unnamed : List String := ["", ".", ".."]

/-- An option is rendered as a segment that names nothing exactly when it is that string. No
number and no truth value is written so, and percent-encoding makes no other string so. -/
theorem segmentText?_eq_unnamed {v : Json} {word : String} (hword : word ∈ unnamed) :
    segmentText? v = some word ↔ v = .string word := by
  have hmarks : ∀ word ∈ unnamed, (word.toList.all fun c => isPlain c && !c.isDigit) = true := by
    decide
  have hplain : ∀ c ∈ word.toList, isPlain c = true ∧ ¬ c.isDigit = true := by
    intro c hc
    have hmark := List.all_eq_true.mp (hmarks word hword) c hc
    simpa using hmark
  constructor
  · intro h
    obtain ⟨word', hwording, hspells⟩ := spells_of_segmentText? h
    have hself := spells_of_plain fun c hc => (hplain c hc).1
    have heq : word' = word := String.toList_inj.mp (hspells.unique hself)
    subst heq
    cases v with
    | string s =>
      cases hwording
      rfl
    | number n =>
      -- A number has a digit.
      cases hwording
      obtain ⟨c, hc, hdigit⟩ := n.numeral_render.digit
      rw [Json.render, Json.renderChars, String.toList_ofList] at hplain
      exact absurd hdigit (hplain c hc).2
    | bool b =>
      cases hwording
      revert hword
      cases b <;> decide
    | null => cases h
    | array items => cases h
    | object members => cases h
  · rintro rfl
    have hencoded : ∀ word ∈ unnamed, percentEncode word.toList = word.toList := by decide
    rw [segmentText?, hencoded word hword, String.ofList_toList]

end OptionSet

/-- Null is no scalar: it is not sent as a segment. -/
theorem Json.IsScalar.ne_null {v : Json} (h : v.IsScalar) : v ≠ .null := by
  rintro rfl
  exact h

/-- A scalar has the text of a segment, and the segment spells it. -/
theorem Json.IsScalar.segment {v : Json} (h : v.IsScalar) :
    ∃ segment word, OptionSet.segmentText? v = some segment ∧ v.wording? = some word ∧
      Text.Spells segment.toList word.toList := by
  have hsegment : ∃ segment, OptionSet.segmentText? v = some segment := by
    cases v with
    | string s => exact ⟨_, rfl⟩
    | number n => exact ⟨_, rfl⟩
    | bool b => exact ⟨_, rfl⟩
    | null => exact h.elim
    | array items => exact h.elim
    | object members => exact h.elim
  obtain ⟨segment, hsegment⟩ := hsegment
  obtain ⟨word, hword, hspells⟩ := OptionSet.spells_of_segmentText? hsegment
  exact ⟨segment, word, hsegment, hword, hspells⟩

end EntitlementClient
