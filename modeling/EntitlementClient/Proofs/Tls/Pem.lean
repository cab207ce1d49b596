import EntitlementClient.Proofs.Text.Base64
import EntitlementClient.Proofs.Tls.Lines
import EntitlementClient.Tls.Material

/-!
# `EntitlementClient.Proofs.Tls.Pem`: certificates and keys are read back from a text

A PEM text is a list of parts (`Pem.Part`): sections, and lines that do not begin one. A
section (`Pem.Block`) has any label and any content, and its base64 may be cut into lines
anywhere. How the lines end is left open (`Pem.HasLines`).

`Pem.readLines_parts` says that reading such a text gives the sections with a known label,
in their order, and no fault. `Pem.ofPem_parts` is what follows for certificates and keys:
the chain has the content of every section labelled `CERTIFICATE`, and the key is that of
the first section that has the label of a key.
-/

set_option autoImplicit false

namespace EntitlementClient.Pem

/-! ### Texts -/

/-- The bytes of a label. -/
def labelBytes (label : String) : List UInt8 := Text.utf8 label.toList

/-- A section as it stands in a text. -/
structure Block where
  /-- Its label. -/
  label : List UInt8
  /-- What it holds. -/
  content : List UInt8
  /-- The lines on which the base64 of the content stands. -/
  rows : List (List UInt8)
  /-- The label does not run into the dashes after it. -/
  label_last : ∀ b ∈ label.getLast?, b ≠ 32 ∧ b ≠ 45
  /-- Apart from blanks, the lines together are the base64, wherever it is cut. -/
  rows_flatten : (rows.flatten.filter fun b => !Text.Base64.isBlank b) =
    Text.utf8 (Text.Base64.encode content)

/-- The line that begins a section. -/
def beginLine (label : List UInt8) : List UInt8 := beginMark ++ label ++ dashes

/-- The lines of a section. -/
def Block.lines (block : Block) : List (List UInt8) :=
  beginLine block.label :: (block.rows ++ [endMark block.label])

/-- A part of a text. -/
inductive Part where
  /-- A line that does not begin a section. -/
  | text (line : List UInt8) (h : beginMark.isPrefixOf line = false)
  | block (block : Block)

namespace Part

/-- The lines of a part. -/
def lines : Part → List (List UInt8)
  | text line _ => [line]
  | block b => b.lines

/-- The certificate that a part holds. -/
def certificate? : Part → Option (List UInt8)
  | text .. => none
  | block b => if b.label = labelBytes "CERTIFICATE" then some b.content else none

/-- The labels of keys, and the forms of the keys. -/
def keyLabels : List (String × KeyFormat) :=
  [("RSA PRIVATE KEY", .pkcs1), ("PRIVATE KEY", .pkcs8), ("EC PRIVATE KEY", .sec1)]

/-- The form of a key with a label. -/
def keyFormat? (label : List UInt8) : Option KeyFormat :=
  (keyLabels.find? fun known => labelBytes known.1 = label).map Prod.snd

/-- The key that a part holds. -/
def key? : Part → Option PrivateKey
  | text .. => none
  | block b => (keyFormat? b.label).map fun format => ⟨format, b.content⟩

/-- The section that is read from a part. -/
def section? : Part → Option Section
  | text .. => none
  | block b => (Kind.ofLabel? b.label).map fun kind => ⟨kind, b.content⟩

end Part

/-! ### Labels -/

/-- The kind of a section is known exactly when its label is that of the kind. -/
theorem Kind.ofLabel?_eq_some_iff {bytes : List UInt8} {kind : Kind} :
    Kind.ofLabel? bytes = some kind ↔ labelBytes kind.label = bytes := by
  constructor
  · intro h
    have hlabel := List.find?_some h
    exact of_decide_eq_true hlabel
  · rintro rfl
    cases kind <;> decide +kernel

/-- A label that the table does not have is the label of no kind. -/
theorem Kind.label_ne_of_ofLabel?_eq_none {bytes : List UInt8} (h : Kind.ofLabel? bytes = none)
    (kind : Kind) : labelBytes kind.label ≠ bytes := by
  intro heq
  rw [Kind.ofLabel?_eq_some_iff.mpr heq] at h
  cases h

namespace Part

/-- The certificates are the sections of the kind of certificates. -/
theorem certificate?_eq (part : Part) :
    part.certificate? =
      part.section?.bind fun s => if s.kind = .certificate then some s.content else none := by
  cases part with
  | text => rfl
  | block b =>
    rw [certificate?, section?]
    cases hkind : Kind.ofLabel? b.label with
    | none =>
      rw [if_neg fun heq => Kind.label_ne_of_ofLabel?_eq_none hkind .certificate heq.symm]
      rfl
    | some kind =>
      have hlabel : b.label = labelBytes "CERTIFICATE" ↔ kind = .certificate := by
        rw [← Kind.ofLabel?_eq_some_iff.mp hkind]
        cases kind <;> decide +kernel
      simp only [hlabel]
      rfl

/-- The labels of keys are those of the kinds that hold a key, each with its own form. -/
theorem keyFormat?_eq (label : List UInt8) :
    keyFormat? label = (Kind.ofLabel? label).bind KeyFormat.ofKind? := by
  cases hkind : Kind.ofLabel? label with
  | some kind =>
    obtain rfl := Kind.ofLabel?_eq_some_iff.mp hkind
    cases kind <;> decide +kernel
  | none =>
    have hne := Kind.label_ne_of_ofLabel?_eq_none hkind
    have hnone : (keyLabels.find? fun known => labelBytes known.1 = label) = none := by
      rw [List.find?_eq_none]
      intro known hknown
      rw [keyLabels, List.mem_cons, List.mem_cons, List.mem_singleton] at hknown
      rw [decide_eq_true_eq]
      rcases hknown with rfl | rfl | rfl
      · exact hne .rsaPrivateKey
      · exact hne .privateKey
      · exact hne .ecPrivateKey
    rw [keyFormat?, hnone]
    rfl

/-- The keys are the sections of the kinds that hold a key. -/
theorem key?_eq (part : Part) : part.key? = part.section?.bind PrivateKey.ofSection? := by
  cases part with
  | text => rfl
  | block b =>
    rw [key?, section?, keyFormat?_eq]
    cases Kind.ofLabel? b.label with
    | none => rfl
    | some kind => rfl

end Part

/-! ### The lines of a section -/

/-- A dash at the end of a line counts, and with the first one the spaces before the
dashes are those of the label. -/
theorem stripDashes_dash {rest label : List UInt8} {n : Nat} (h : stripDashes rest = (label, n)) :
    stripDashes (45 :: rest) = (if n = 0 then rest else label, n + 1) := by
  simp [stripDashes, h]

/-- A section has the label with which it begins. -/
theorem beginLabel?_beginLine {label : List UInt8} (h : ∀ b ∈ label.getLast?, b ≠ 32 ∧ b ≠ 45) :
    beginLabel? (beginLine label) = some label := by
  -- No dash stands before the five, be it in the label or in the mark.
  have hnone : ∃ l, stripDashes (beginMark ++ label).reverse = (l, 0) := by
    rcases List.eq_nil_or_concat label with rfl | ⟨front, b, rfl⟩
    · exact ⟨_, rfl⟩
    · obtain ⟨hspace, hdash⟩ := h b (by simp)
      have hstop : ∀ rest, stripDashes (b :: rest) = (b :: rest, 0) := by
        simp [stripDashes, hspace, hdash]
      rw [List.concat_eq_append, ← List.append_assoc, List.reverse_append, List.reverse_singleton,
        List.singleton_append]
      exact ⟨_, hstop _⟩
  obtain ⟨l, hnone⟩ := hnone
  have hreverse : (beginLine label).reverse =
      45 :: 45 :: 45 :: 45 :: 45 :: (beginMark ++ label).reverse := by
    have hdashes : dashes.reverse = [45, 45, 45, 45, 45] := by decide +kernel
    rw [beginLine, List.reverse_append, hdashes]
    rfl
  have hone := stripDashes_dash hnone
  rw [if_pos rfl] at hone
  have htwo := stripDashes_dash hone
  have hthree := stripDashes_dash htwo
  have hfour := stripDashes_dash hthree
  have hfive := stripDashes_dash hfour
  simp only [Nat.add_eq_zero_iff, Nat.one_ne_zero, and_false, if_false] at hfive
  rw [beginLabel?, hreverse, hfive]
  show some ((beginMark ++ label).reverse.reverse.drop beginMark.length) = some label
  rw [List.reverse_reverse, List.drop_left]

/-- A line that does not begin with a dash is none that begins or ends a section. -/
theorem isPrefixOf_eq_false {mark row : List UInt8} (hmark : mark.head? = some 45)
    (hrow : row.head? ≠ some 45) : mark.isPrefixOf row = false := by
  cases mark with
  | nil => cases hmark
  | cons a mark =>
    cases row with
    | nil => rfl
    | cons b row =>
      have hne : a ≠ b := fun heq => hrow (heq ▸ hmark)
      simp [List.isPrefixOf, hne]

/-- Lines of base64 are collected behind those that have been. None of them begins or ends a
section. -/
theorem readLines_rows {label collected : List UInt8} {rows rest : List (List UInt8)}
    (h : ∀ row ∈ rows, row.head? ≠ some 45) :
    readLines (some (label, collected)) (rows ++ rest) =
      readLines (some (label, collected ++ rows.flatten)) rest := by
  induction rows generalizing collected with
  | nil => rw [List.nil_append, List.flatten_nil, List.append_nil]
  | cons row more ih =>
    obtain ⟨hrow, hmore⟩ := List.forall_mem_cons.mp h
    have hbegin : beginMark.isPrefixOf row = false := isPrefixOf_eq_false rfl hrow
    have hend : (endMark label).isPrefixOf row = false := isPrefixOf_eq_false rfl hrow
    rw [List.cons_append, readLines, hbegin, hend, if_neg Bool.false_ne_true,
      List.flatten_cons, ← List.append_assoc]
    exact ih hmore

/-- The lines of base64 do not begin with a dash. -/
theorem Block.head?_row_ne (block : Block) : ∀ row ∈ block.rows, row.head? ≠ some 45 := by
  intro row hrow hhead
  have hflat : (45 : UInt8) ∈ block.rows.flatten :=
    List.mem_flatten.mpr ⟨row, hrow, List.mem_of_mem_head? hhead⟩
  have hmem : (45 : UInt8) ∈ Text.utf8 (Text.Base64.encode block.content) := by
    rw [← block.rows_flatten]
    exact List.mem_filter.mpr ⟨hflat, rfl⟩
  rcases Text.Base64.mem_utf8_encode hmem with ⟨n, hn⟩ | hfill
  · cases hn
  · exact absurd hfill (by decide)

/-- The content of a section is read from its lines. They are its base64 with white space in any
places. -/
theorem Block.decode_rows (block : Block) :
    Text.Base64.decode block.rows.flatten = some block.content := by
  rw [← Text.Base64.decode_filter_isBlank, block.rows_flatten, Text.Base64.decode_encode]

/-- A section is read when its label is known, and passed over when it is not. In either case
reading goes on after it. -/
theorem readLines_block (block : Block) (rest : List (List UInt8)) :
    readLines none (block.lines ++ rest) =
      ((Part.block block).section?.toList ++ (readLines none rest).1, (readLines none rest).2) := by
  have hbegin : beginMark.isPrefixOf (beginLine block.label) = true := by
    rw [List.isPrefixOf_iff_prefix, beginLine, List.append_assoc]
    exact List.prefix_append ..
  have hnot : beginMark.isPrefixOf (endMark block.label) = false := rfl
  have hend : (endMark block.label).isPrefixOf (endMark block.label) = true :=
    List.isPrefixOf_iff_prefix.mpr (List.prefix_refl _)
  rw [Block.lines, List.cons_append, List.append_assoc, readLines, if_pos hbegin,
    beginLabel?_beginLine block.label_last]
  show readLines (some (block.label, [])) _ = _
  rw [readLines_rows block.head?_row_ne, List.nil_append, List.singleton_append, readLines, hnot,
    if_neg Bool.false_ne_true]
  dsimp only
  rw [if_pos hend, Part.section?, block.decode_rows]
  cases Kind.ofLabel? block.label with
  | none => rfl
  | some kind => rfl

/-! ### Whole texts -/

/-- Reading parts gives the sections with a known label, in their order, and no fault. The
induction goes over the parts. -/
theorem readLines_parts (parts : List Part) :
    readLines none (parts.flatMap Part.lines) = (parts.filterMap Part.section?, false) := by
  induction parts with
  | nil => rfl
  | cons part rest ih =>
    rw [List.flatMap_cons]
    cases part with
    | text line hline =>
      rw [Part.lines, List.singleton_append, readLines, hline, if_neg Bool.false_ne_true]
      exact ih
    | block b =>
      rw [Part.lines, readLines_block, ih]
      cases hsection : (Part.block b).section? with
      | none =>
        rw [List.filterMap_cons_none hsection]
        rfl
      | some s =>
        rw [List.filterMap_cons_some hsection]
        rfl

/-- The certificates among the sections that are read are those of the parts. -/
theorem certificates_eq (parts : List Part) :
    ((parts.filterMap Part.section?).filter fun s => s.kind = .certificate).map Section.content =
      parts.filterMap Part.certificate? := by
  have hcertificate : Part.certificate? = fun part => part.section?.bind fun s =>
      if s.kind = .certificate then some s.content else none := funext Part.certificate?_eq
  rw [hcertificate, ← List.filterMap_filterMap, ← List.filterMap_eq_map, List.filterMap_filter]
  simp only [decide_eq_true_eq, Function.comp_apply]

/-- The first key among the sections that are read is that of the parts. -/
theorem firstKey_eq (parts : List Part) :
    (parts.filterMap Part.section?).findSome? PrivateKey.ofSection? = parts.findSome? Part.key? := by
  induction parts with
  | nil => rfl
  | cons part rest ih =>
    rw [List.findSome?_cons, Part.key?_eq]
    cases hsection : part.section? with
    | none =>
      rw [List.filterMap_cons_none hsection, ih]
      rfl
    | some s =>
      rw [List.filterMap_cons_some hsection, List.findSome?_cons, ih]
      rfl

/-- Take any text that consists of sections and of other lines between them, each line
ended in any of the usual ways. The certificates of the text are the contents of the
sections labelled `CERTIFICATE`, in their order, and the text is refused as one of
certificates exactly when there are none. The key of the text is the content of the first
section with a label of a key, in the form that goes with the label, and the text is
refused as one of a key exactly when there is none. -/
theorem ofPem_parts {parts : List Part} {text : List UInt8}
    (h : HasLines (parts.flatMap Part.lines) text) :
    (CertificateChain.ofPem text =
      if parts.filterMap Part.certificate? = [] then .error (.certificate .noCertificate)
      else .ok ⟨parts.filterMap Part.certificate?⟩) ∧
    PrivateKey.ofPem text =
      (parts.findSome? Part.key?).elim (.error (.certificate .invalidPrivateKey)) .ok := by
  have hread : read text = (parts.filterMap Part.section?, false) := by
    rw [read, readLines_lines h, readLines_parts]
  constructor
  · rw [CertificateChain.ofPem, hread, ← certificates_eq]
    simp only [Bool.false_eq_true, if_false, List.isEmpty_iff]
  · rw [PrivateKey.ofPem, hread]
    dsimp only
    rw [firstKey_eq]
    cases parts.findSome? Part.key? with
    | none => rfl
    | some key => rfl

/-- Two certificates with a section of an unknown label, a line that only ends a section,
and two keys among them. The base64 of the first certificate stands on three lines, one of
them indented and one of them empty, and every line is ended by both bytes. -/
theorem ofPem_parts_bundle :
    let leaf : Block := ⟨labelBytes "CERTIFICATE", [1, 2, 3],
      [labelBytes "AQ", [], labelBytes " ID"], by decide +kernel, by decide +kernel⟩
    let unknown : Block := ⟨labelBytes "X-NOTE", [9], [labelBytes "CQ=="], by decide +kernel,
      by decide +kernel⟩
    let key : Block := ⟨labelBytes "EC PRIVATE KEY", [7, 7], [labelBytes "Bwc="],
      by decide +kernel, by decide +kernel⟩
    let other : Block := ⟨labelBytes "RSA PRIVATE KEY", [8], [labelBytes "CA=="],
      by decide +kernel, by decide +kernel⟩
    let root : Block := ⟨labelBytes "CERTIFICATE", [], [], by decide +kernel, by decide +kernel⟩
    let parts : List Part := [.block unknown, .block leaf,
      .text (labelBytes "-----END CERTIFICATE-----") (by decide +kernel), .block key, .block other,
      .block root]
    ∃ text, HasLines (parts.flatMap Part.lines) text ∧
      CertificateChain.ofPem text = .ok ⟨[[1, 2, 3], []]⟩ ∧
      PrivateKey.ofPem text = .ok ⟨.sec1, [7, 7]⟩ := by
  intro leaf unknown key other root parts
  have hlines : ∀ w ∈ (parts.flatMap Part.lines).map fun line => (line, LineEnd.both),
      IsLine w.1 := by decide +kernel
  have htext := hasLines_flatMap hlines
  rw [List.map_map, show Prod.fst ∘ (fun line => (line, LineEnd.both)) = id from rfl,
    List.map_id] at htext
  obtain ⟨hchain, hkey⟩ := ofPem_parts htext
  have hcertificates : parts.filterMap Part.certificate? = [[1, 2, 3], []] := by decide +kernel
  have hfirst : parts.findSome? Part.key? = some ⟨.sec1, [7, 7]⟩ := by decide +kernel
  refine ⟨_, htext, ?_, ?_⟩
  · rw [hchain, hcertificates, if_neg (List.cons_ne_nil _ _)]
  · rw [hkey, hfirst]
    rfl

end EntitlementClient.Pem
