import EntitlementClient.Operation.Basic
import EntitlementClient.Proofs.Options.Segment
import EntitlementClient.Proofs.Outcome
import EntitlementClient.Proofs.Text.Levels

/-!
# `EntitlementClient.Proofs.Operation.Path`: paths as filled templates

The template of a path is what its parts fix before any option is looked at, but for one
thing: a part that is left out when its option is null is in the template or not. A
template consists of characters and slots, each slot for an option. `templates` are all
templates of a path, one for each choice of the parts that are left out.

A path that can be rendered is its template with each slot filled by the segment of its
option (`fills_of_renderPath`). In a well-formed template (`WellFormed`) a slot is a level
of its own, so a path that is cut at its slashes gives the segments back (`splitOn_fill`),
and two paths on one template are the same only if all slots are filled alike
(`WellFormed.fill_inj`).
-/

set_option autoImplicit false

namespace EntitlementClient

/-- A character of a template, or the place of an option. -/
inductive PathSymbol where
  /-- A character. -/
  | char (c : Char)
  /-- The place of an option. -/
  | slot (key : String)
deriving DecidableEq, Repr

/-- What a part of a path contributes to the template. -/
def PathPart.template (options : OptionSet) : PathPart → List PathSymbol
  | .text words => words.toList.map .char
  | .option key => [.slot key]
  | .whenSet lead key => if options.isNull key then [] else lead.toList.map .char ++ [.slot key]

/-- The template of a path for the options that are null. -/
def template (options : OptionSet) (parts : List PathPart) : List PathSymbol :=
  parts.flatMap (PathPart.template options)

/-- The text of a symbol, with a text for each option. -/
def PathSymbol.fill (texts : String → List Char) : PathSymbol → List Char
  | .char c => [c]
  | .slot key => texts key

/-- A template with its slots filled. -/
def fill (texts : String → List Char) (symbols : List PathSymbol) : List Char :=
  symbols.flatMap (PathSymbol.fill texts)

variable {texts texts' : String → List Char} {symbols : List PathSymbol}

/-- A template without slots fills to its own characters. -/
theorem fill_map_char (cs : List Char) : fill texts (cs.map .char) = cs := by
  induction cs with
  | nil => rfl
  | cons c rest ih =>
    show c :: fill texts (rest.map .char) = c :: rest
    rw [ih]

/-- Templates in a row are filled one after the other. -/
theorem fill_append (symbols symbols' : List PathSymbol) :
    fill texts (symbols ++ symbols') = fill texts symbols ++ fill texts symbols' :=
  List.flatMap_append

/-- Only the texts of the slots matter. -/
theorem fill_congr (h : ∀ key, .slot key ∈ symbols → texts key = texts' key) :
    fill texts symbols = fill texts' symbols := by
  induction symbols with
  | nil => rfl
  | cons symbol rest ih =>
    have hrest := ih fun key hkey => h key (List.mem_cons_of_mem symbol hkey)
    have hsymbol : symbol.fill texts = symbol.fill texts' := by
      cases symbol with
      | char c => rfl
      | slot key => exact h key List.mem_cons_self
    show symbol.fill texts ++ fill texts rest = symbol.fill texts' ++ fill texts' rest
    rw [hsymbol, hrest]

/-! ### Rendering -/

/-- The segment of an option, empty when it is none. -/
def OptionSet.slotText (options : OptionSet) (key : String) : List Char :=
  ((segmentText? (options.value key)).getD "").toList

/-- The text is the template with each slot filled by the segment of its option. -/
structure Fills (options : OptionSet) (symbols : List PathSymbol) (text : List Char) : Prop where
  /-- It is the filled template. -/
  text_eq : text = fill options.slotText symbols
  /-- The option of every slot is a segment. -/
  segment : ∀ key, .slot key ∈ symbols →
    ∃ segment, OptionSet.segmentText? (options.value key) = some segment

variable {options : OptionSet}

namespace Fills

/-- Fixed characters fill a template without slots. -/
theorem fixed (cs : List Char) : Fills options (cs.map .char) cs := by
  refine ⟨(fill_map_char cs).symm, fun key hkey => ?_⟩
  obtain ⟨c, -, hc⟩ := List.mem_map.mp hkey
  cases hc

/-- The segment of an option fills its slot. -/
theorem slot {key text : String} (h : options.segment key = .ok text) :
    Fills options [.slot key] text.toList := by
  have htext := OptionSet.segment_eq_ok_iff.mp h
  constructor
  · show text.toList = options.slotText key ++ []
    rw [List.append_nil, OptionSet.slotText, htext]
    rfl
  · intro key' hkey
    cases List.mem_singleton.mp hkey
    exact ⟨text, htext⟩

/-- Texts that fill two templates fill both in a row. -/
theorem append {symbols symbols' : List PathSymbol} {text text' : List Char}
    (h : Fills options symbols text) (h' : Fills options symbols' text') :
    Fills options (symbols ++ symbols') (text ++ text') := by
  refine ⟨?_, fun key hkey => ?_⟩
  · rw [fill_append, ← h.text_eq, ← h'.text_eq]
  · rcases List.mem_append.mp hkey with hkey | hkey
    · exact h.segment key hkey
    · exact h'.segment key hkey

end Fills

/-- What a part renders to fills the template of the part. The option of a part that may
be left out is either null, and both are empty, or it is a segment. -/
theorem PathPart.fills_of_render {part : PathPart} {text : String}
    (h : part.render options = .ok text) : Fills options (part.template options) text.toList := by
  cases part with
  | text words =>
    cases h
    exact .fixed text.toList
  | option key => exact .slot h
  | whenSet lead key =>
    rw [render] at h
    -- The part and its template are left out together.
    by_cases hnull : options.isNull key = true
    · have htemplate : (PathPart.whenSet lead key).template options = [] := if_pos hnull
      rw [if_pos hnull] at h
      cases h
      rw [htemplate]
      exact .fixed []
    · have htemplate : (PathPart.whenSet lead key).template options =
          lead.toList.map .char ++ [.slot key] := if_neg hnull
      rw [if_neg hnull] at h
      cases hsegment : options.segment key with
      | error e =>
        rw [hsegment] at h
        cases h
      | ok segment =>
        rw [hsegment] at h
        cases h
        rw [htemplate, String.toList_append]
        exact (Fills.fixed lead.toList).append (.slot hsegment)

/-- What parts in a row render to fills their templates in a row. -/
theorem fills_of_renderParts {parts : List PathPart} {rendered : List String}
    (h : renderParts options parts = .ok rendered) :
    Fills options (template options parts) (String.join rendered).toList := by
  -- One part after the other, each appended to what the rest gives.
  induction parts generalizing rendered with
  | nil =>
    cases h
    exact .fixed []
  | cons part rest ih =>
    rw [renderParts, bind_eq_ok_iff] at h
    obtain ⟨text, htext, h⟩ := h
    rw [bind_eq_ok_iff] at h
    obtain ⟨more, hmore, h⟩ := h
    cases h
    rw [String.join_cons, String.toList_append]
    exact (PathPart.fills_of_render htext).append (ih hmore)

/-- A path that is rendered is its template, with the segment of its option in each slot. -/
theorem fills_of_renderPath {parts : List PathPart} {path : String}
    (h : renderPath options parts = .ok path) :
    Fills options (template options parts) path.toList := by
  unfold renderPath at h
  cases hparts : renderParts options parts with
  | error e =>
    rw [hparts] at h
    cases h
  | ok rendered =>
    rw [hparts] at h
    cases h
    exact fills_of_renderParts hparts

/-! ### The templates of a path -/

/-- What a part contributes to the templates of a path. -/
def PathPart.templates : PathPart → List (List PathSymbol)
  | .text words => [words.toList.map .char]
  | .option key => [[.slot key]]
  | .whenSet lead key => [[], lead.toList.map .char ++ [.slot key]]

/-- All templates of a path. -/
def templates : List PathPart → List (List PathSymbol)
  | [] => [[]]
  | part :: rest => part.templates.flatMap fun symbols => (templates rest).map (symbols ++ ·)

/-- The template of a part is one of those that the part can have. -/
theorem PathPart.template_mem (options : OptionSet) (part : PathPart) :
    part.template options ∈ part.templates := by
  cases part with
  | text words => exact List.mem_singleton_self _
  | option key => exact List.mem_singleton_self _
  | whenSet lead key =>
    rw [template, templates]
    split
    · exact List.mem_cons_self
    · exact List.mem_cons_of_mem _ (List.mem_singleton_self _)

/-- The template of a path is one of those that the path can have, whatever options are
left out. -/
theorem template_mem (options : OptionSet) (parts : List PathPart) :
    template options parts ∈ templates parts := by
  induction parts with
  | nil => exact List.mem_singleton_self _
  | cons part rest ih =>
    have hpart := part.template_mem options
    exact List.mem_flatMap.mpr ⟨_, hpart, List.mem_map.mpr ⟨_, ih, rfl⟩⟩

/-! ### Levels -/

/-- The levels of a template. -/
def levels (symbols : List PathSymbol) : List (List PathSymbol) := symbols.splitOn (.char '/')

/-- The levels of a path are those of its template, filled, so long as no slot is filled
with a slash. -/
theorem splitOn_fill (h : ∀ key, .slot key ∈ symbols → '/' ∉ texts key) :
    (fill texts symbols).splitOn '/' = (levels symbols).map (fill texts) := by
  unfold levels
  induction symbols with
  | nil => rfl
  | cons symbol rest ih =>
    have hrest := ih fun key hkey => h key (List.mem_cons_of_mem symbol hkey)
    obtain ⟨first, more, hlevels⟩ :=
      List.exists_cons_of_ne_nil (List.splitOn_ne_nil (PathSymbol.char '/') rest)
    rw [hlevels] at hrest
    have hfill : fill texts (symbol :: rest) = symbol.fill texts ++ fill texts rest := rfl
    rw [hfill, List.splitOn_cons_eq_if_modifyHead, hlevels]
    by_cases hslash : symbol = .char '/'
    · subst hslash
      show ('/' :: fill texts rest).splitOn '/' = _
      rw [List.splitOn_cons_eq_if_modifyHead, hrest]
      rfl
    · -- The symbol belongs to the first level of what follows.
      have hnone : '/' ∉ symbol.fill texts := by
        cases symbol with
        | char c =>
          intro hmem
          cases List.mem_singleton.mp hmem
          exact hslash rfl
        | slot key => exact h key List.mem_cons_self
      have hbeq : ¬ (symbol == .char '/') = true := fun heq => hslash (eq_of_beq heq)
      rw [Text.splitOn_append_of_not_mem hnone, hrest, if_neg hbeq]
      rfl

/-- Whether a level is a slot and nothing else. -/
def isSlot : List PathSymbol → Bool
  | [.slot _] => true
  | _ => false

def PathSymbol.isChar : PathSymbol → Bool
  | .char _ => true
  | .slot _ => false

/-- An absolute template in which each level is a slot or fixed text, and no fixed text is
a dot segment. -/
structure WellFormed (symbols : List PathSymbol) : Prop where
  /-- It begins with a slash. -/
  absolute : (levels symbols).head? = some []
  /-- A level with a slot is nothing else. -/
  slot_or_fixed : ∀ level ∈ levels symbols, isSlot level = true ∨ level.all PathSymbol.isChar = true
  /-- Fixed text is no dot segment. -/
  no_dots : ∀ level ∈ levels symbols, isSlot level = false → ¬ Text.IsDots (fill (fun _ => []) level)

instance (symbols : List PathSymbol) : Decidable (WellFormed symbols) :=
  decidable_of_iff ((levels symbols).head? = some [] ∧
      (∀ level ∈ levels symbols, isSlot level = true ∨ level.all PathSymbol.isChar = true) ∧
      ∀ level ∈ levels symbols, isSlot level = false → ¬ Text.IsDots (fill (fun _ => []) level))
    ⟨fun h => ⟨h.1, h.2.1, h.2.2⟩, fun h => ⟨h.absolute, h.slot_or_fixed, h.no_dots⟩⟩

/-- A level is a slot when one option is all that stands on it. -/
theorem isSlot_iff {level : List PathSymbol} : isSlot level = true ↔ ∃ key, level = [.slot key] := by
  constructor
  · intro h
    unfold isSlot at h
    split at h
    · exact ⟨_, rfl⟩
    · cases h
  · rintro ⟨key, rfl⟩
    rfl

/-- A level that is a slot fills to the text of its option. -/
theorem fill_slot (texts : String → List Char) (key : String) : fill texts [.slot key] = texts key :=
  List.append_nil (texts key)

/-- Text without slots is filled in one way only. -/
theorem fill_eq_of_all_isChar {level : List PathSymbol} (h : level.all PathSymbol.isChar = true) :
    fill texts level = fill texts' level := by
  refine fill_congr fun key hkey => ?_
  have hchar : (PathSymbol.slot key).isChar = true := List.all_eq_true.mp h _ hkey
  cases hchar

namespace WellFormed

/-- The option of a slot has a level of its own, in a template that is well formed. So no two
options share a level, and no fixed text stands beside one. -/
theorem slot_mem_levels (hwf : WellFormed symbols) {key : String} (hkey : .slot key ∈ symbols) :
    [.slot key] ∈ levels symbols := by
  have hchar : PathSymbol.slot key ≠ .char '/' := fun h => nomatch h
  -- The slot is on some level, and a level with a slot is nothing else.
  obtain ⟨level, hlevel, hmem⟩ := Text.exists_mem_splitOn_iff.mpr ⟨hkey, hchar⟩
  rcases hwf.slot_or_fixed level hlevel with hslot | hfixed
  · obtain ⟨key', rfl⟩ := isSlot_iff.mp hslot
    cases List.mem_singleton.mp hmem
    exact hlevel
  · have hchar : (PathSymbol.slot key).isChar = true := List.all_eq_true.mp hfixed _ hmem
    cases hchar

/-- Two ways to fill a template that come to the same path fill each slot alike. No text has a
slash, so the levels of the path are those of the template. -/
theorem fill_inj (hwf : WellFormed symbols) (h : ∀ key, .slot key ∈ symbols → '/' ∉ texts key)
    (h' : ∀ key, .slot key ∈ symbols → '/' ∉ texts' key)
    (heq : fill texts symbols = fill texts' symbols) {key : String} (hkey : .slot key ∈ symbols) :
    texts key = texts' key := by
  have hlevels : (levels symbols).map (fill texts) = (levels symbols).map (fill texts') := by
    rw [← splitOn_fill h, ← splitOn_fill h', heq]
  have hlevel := List.map_inj_left.mp hlevels _ (hwf.slot_mem_levels hkey)
  rw [fill_slot, fill_slot] at hlevel
  exact hlevel

/-- A filled template is resolved to itself exactly when no slot is filled with a dot segment. The
levels that are no slots are none, because the template is well formed. -/
theorem removeDots_eq_self_iff (hwf : WellFormed symbols)
    (h : ∀ key, .slot key ∈ symbols → '/' ∉ texts key) :
    Text.removeDots (fill texts symbols) = fill texts symbols ↔
      ∀ key, .slot key ∈ symbols → ¬ Text.IsDots (texts key) := by
  -- The level before the first slash is empty, so only the levels after it can be dot segments.
  obtain ⟨rest, hrest⟩ := List.head?_eq_some_iff.mp hwf.absolute
  have hsplit : (fill texts symbols).splitOn '/' = [] :: rest.map (fill texts) := by
    rw [splitOn_fill h, hrest]
    rfl
  rw [Text.removeDots_eq_self_iff hsplit]
  constructor
  · intro hdots key hkey
    have hlevel := hwf.slot_mem_levels hkey
    rw [hrest] at hlevel
    rcases List.mem_cons.mp hlevel with hnil | hlevel
    · cases hnil
    · rw [← fill_slot texts key]
      exact hdots _ (List.mem_map_of_mem hlevel)
  · intro hdots l hl
    obtain ⟨level, hlevel, rfl⟩ := List.mem_map.mp hl
    have hmem : level ∈ levels symbols := hrest ▸ List.mem_cons_of_mem [] hlevel
    rcases hwf.slot_or_fixed level hmem with hslot | hfixed
    · obtain ⟨key, rfl⟩ := isSlot_iff.mp hslot
      rw [fill_slot]
      exact hdots key (Text.exists_mem_splitOn_iff.mp ⟨_, hmem, List.mem_singleton_self _⟩).1
    · rw [fill_eq_of_all_isChar hfixed]
      refine hwf.no_dots level hmem ?_
      cases level with
      | nil => rfl
      | cons symbol more =>
        cases symbol with
        | char c => rfl
        | slot key => cases hfixed

end WellFormed

end EntitlementClient
