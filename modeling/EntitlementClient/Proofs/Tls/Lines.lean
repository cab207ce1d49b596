import EntitlementClient.Tls.Pem

/-!
# `EntitlementClient.Proofs.Tls.Lines`: a text and its lines

`HasLines` relates a text to its lines. A line may be ended by a line feed, by a carriage
return, or by both, and the last line may also be ended by the end of the text.
`Pem.lines` finds the lines, with an empty one after each that is ended by both bytes and
one at the end, and for reading sections an empty line counts for nothing
(`readLines_lines`).
-/

set_option autoImplicit false

namespace EntitlementClient.Pem

/-! ### Lines -/

/-- The bytes hold no byte that ends a line. -/
def IsLine (line : List UInt8) : Prop := 10 ∉ line ∧ 13 ∉ line

instance : DecidablePred IsLine := fun line =>
  inferInstanceAs (Decidable (10 ∉ line ∧ 13 ∉ line))

/-- What ends a line. -/
inductive LineEnd where
  | lineFeed
  | carriageReturn
  | both

/-- The bytes that end a line. -/
def LineEnd.bytes : LineEnd → List UInt8
  | lineFeed => [10]
  | carriageReturn => [13]
  | both => [13, 10]

/-- The text consists of the lines. -/
inductive HasLines : List (List UInt8) → List UInt8 → Prop where
  | nil : HasLines [] []
  /-- The last line, without an end. -/
  | last {line : List UInt8} (h : IsLine line) : HasLines [line] line
  /-- A line with its end, and the lines after it. -/
  | cons {line text : List UInt8} {rest : List (List UInt8)} (h : IsLine line) (ending : LineEnd)
      (hrest : HasLines rest text) : HasLines (line :: rest) (line ++ (ending.bytes ++ text))

/-- Lines that all have an end. -/
theorem hasLines_flatMap {written : List (List UInt8 × LineEnd)} (h : ∀ w ∈ written, IsLine w.1) :
    HasLines (written.map Prod.fst) (written.flatMap fun w => w.1 ++ w.2.bytes) := by
  induction written with
  | nil => exact .nil
  | cons w rest ih =>
    obtain ⟨hw, hrest⟩ := List.forall_mem_cons.mp h
    rw [List.map_cons, List.flatMap_cons, List.append_assoc]
    exact .cons hw w.2 (ih hrest)

/-- Bytes without the end of a line are one line. -/
theorem lines_of_isLine {line : List UInt8} (h : IsLine line) : lines line = [line] := by
  induction line with
  | nil => rfl
  | cons b rest ih =>
    rw [IsLine, List.mem_cons, List.mem_cons, not_or, not_or] at h
    obtain ⟨⟨hfeed, hfeeds⟩, hreturn, hreturns⟩ := h
    have hb : (b = 10 || b = 13) = false := by simp [Ne.symm hfeed, Ne.symm hreturn]
    rw [lines, hb, ih ⟨hfeeds, hreturns⟩]
    rfl

/-- A byte that ends a line cuts the text there. The two bytes of the longer end cut it twice,
with an empty line between. -/
theorem lines_append {line : List UInt8} (h : IsLine line) {b : UInt8} (hb : b = 10 ∨ b = 13)
    (text : List UInt8) : lines (line ++ b :: text) = line :: lines text := by
  induction line with
  | nil =>
    have hends : (b = 10 || b = 13) = true := by simpa using hb
    rw [List.nil_append, lines, hends]
    rfl
  | cons c rest ih =>
    rw [IsLine, List.mem_cons, List.mem_cons, not_or, not_or] at h
    obtain ⟨⟨hfeed, hfeeds⟩, hreturn, hreturns⟩ := h
    have hc : (c = 10 || c = 13) = false := by simp [Ne.symm hfeed, Ne.symm hreturn]
    rw [List.cons_append, lines, hc, ih ⟨hfeeds, hreturns⟩]
    rfl

/-! ### Reading them -/

/-- An empty line counts for nothing, in a section and outside of one. -/
theorem readLines_nil_cons (current : Option (List UInt8 × List UInt8))
    (rest : List (List UInt8)) : readLines current ([] :: rest) = readLines current rest := by
  cases current with
  | none => rfl
  | some opened =>
    obtain ⟨label, collected⟩ := opened
    show readLines (some (label, collected ++ [])) rest = _
    rw [List.append_nil]

/-- Lines that are read alike are so after one more line. -/
theorem readLines_cons_congr {rest rest' : List (List UInt8)}
    (h : ∀ current, readLines current rest = readLines current rest')
    (current : Option (List UInt8 × List UInt8)) (line : List UInt8) :
    readLines current (line :: rest) = readLines current (line :: rest') := by
  simp only [readLines, h]

/-- The lines that are found in a text are read like those that it consists of. They differ by
empty lines only, and these count for nothing. -/
theorem readLines_lines {ls : List (List UInt8)} {text : List UInt8} (h : HasLines ls text)
    (current : Option (List UInt8 × List UInt8)) :
    readLines current (lines text) = readLines current ls := by
  induction h generalizing current with
  | nil => exact readLines_nil_cons current []
  | last hline => rw [lines_of_isLine hline]
  | @cons line text rest hline ending hrest ih =>
    cases ending with
    | lineFeed =>
      rw [LineEnd.bytes, List.singleton_append, lines_append hline (Or.inl rfl)]
      exact readLines_cons_congr ih current line
    | carriageReturn =>
      rw [LineEnd.bytes, List.singleton_append, lines_append hline (Or.inr rfl)]
      exact readLines_cons_congr ih current line
    | both =>
      -- Each of the two bytes ends a line, and the second of these lines is empty.
      have hempty : lines (10 :: text) = [] :: lines text :=
        @lines_append [] ⟨List.not_mem_nil, List.not_mem_nil⟩ 10 (Or.inl rfl) text
      rw [LineEnd.bytes, List.cons_append, List.singleton_append,
        lines_append hline (Or.inr rfl), hempty]
      refine readLines_cons_congr (fun c => ?_) current line
      rw [readLines_nil_cons, ih]

end EntitlementClient.Pem
