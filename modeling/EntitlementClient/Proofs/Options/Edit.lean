import EntitlementClient.Options.Edit
import EntitlementClient.Proofs.OrderedMap
import EntitlementClient.Proofs.Query

/-!
# `EntitlementClient.Proofs.Options.Edit`: option sets over their histories

Insertions and removals change an option set step by step. What the set holds afterwards
can be read off the history alone. The last edit that names an option decides its value
(`lastValue?`), and the options stand in the order of their first insertions that no
removal follows (`residents`).

One edit is described by what a look-up sees afterwards (`Edit.get?_perform`), and by what
the caller gets and where the options stand (`Edit.acts_perform`). `get?_after` and
`keys_after` carry values and order over every history, by induction with the set at the
start generalised. `behaves_after` puts this together.
-/

set_option autoImplicit false

namespace EntitlementClient

/-- A text is found in a string, and in nothing else. -/
theorem Json.string?_eq_some_iff {v : Json} {text : String} :
    v.string? = some text ↔ v = .string text := by
  cases v <;> simp [string?]

namespace OptionSet

namespace Edit

/-- The option that an edit names. -/
def key : Edit → String
  | .insert key _ | .adding key _ | .remove key => key

/-- The value that an edit leaves to the option that it names. -/
def value? : Edit → Option Json
  | .insert _ value | .adding _ value => some value
  | .remove _ => none

/-- What an edit of `now` gives: the answer, and the order of the options in `next`. -/
def Acts (now next : OptionSet) (answer : Answer) : Edit → Prop
  | .insert key _ =>
    answer = .previous (now.get? key) ∧
      next.keys = if key ∈ now.keys then now.keys else now.keys ++ [key]
  | .adding key _ =>
    answer = .changed next ∧
      next.keys = if key ∈ now.keys then now.keys else now.keys ++ [key]
  | .remove key =>
    answer = .previous (now.get? key) ∧ next.keys = now.keys.filter fun other => other ≠ key

end Edit

/-! ### What a history says -/

/-- The value of an option after a history: what the last edit that names it leaves, and
without one what the option was at the start. -/
def lastValue? (start : OptionSet) (history : List Edit) (key : String) : Option Json :=
  match (history.filter fun edit => edit.key = key).getLast? with
  | some edit => edit.value?
  | none => start.get? key

/-- The options of the insertions that no removal follows, in order. -/
def lasting : List Edit → List String
  | [] => []
  | .insert key _ :: rest | .adding key _ :: rest =>
    if .remove key ∈ rest then lasting rest else key :: lasting rest
  | .remove _ :: rest => lasting rest

/-- The options after a history, in order: those of the start that are never removed, and
those that are inserted and not removed later, each where it comes first. -/
def residents (start : OptionSet) (history : List Edit) : List String :=
  ((start.keys.filter fun key => .remove key ∉ history) ++ lasting history).eraseDups

/-! ### One edit -/

namespace Edit

/-- An insertion answers with the value that it displaced, if any, and sets the option. -/
theorem perform_insert (now : OptionSet) (key : String) (value : Json) :
    (insert key value).perform now = (.previous (now.get? key), OrderedMap.insert now key value) := by
  rw [perform, OrderedMap.getThenInsert?_eq]

/-- The chained form of an insertion sets the option too, and answers with the set. -/
theorem perform_adding (now : OptionSet) (key : String) (value : Json) :
    (adding key value).perform now =
      (.changed (OrderedMap.insert now key value), OrderedMap.insert now key value) := by
  rw [perform, OrderedMap.getThenInsert?_eq]

/-- A removal answers with the value that was there, if any, and takes the option out. -/
theorem perform_remove (now : OptionSet) (key : String) :
    (remove key).perform now = (.previous (now.get? key), now.erase key) := by
  rw [perform, OrderedMap.getThenErase?_eq]

/-- An edit leaves its value to the option that it names, and the others as they are. This is the
step of the induction for `get?_after`. -/
theorem get?_perform (now : OptionSet) (edit : Edit) (key : String) :
    (edit.perform now).2.get? key = if edit.key = key then edit.value? else now.get? key := by
  cases edit with
  | insert other value => rw [perform_insert, OrderedMap.get?_insert, Edit.key, value?]
  | adding other value => rw [perform_adding, OrderedMap.get?_insert, Edit.key, value?]
  | remove other => rw [perform_remove, OrderedMap.get?_erase, Edit.key, value?]

/-- Each edit acts as it is described: by its answer, and by the order of the options after it. -/
theorem acts_perform (now : OptionSet) (edit : Edit) :
    edit.Acts now (edit.perform now).2 (edit.perform now).1 := by
  cases edit with
  | insert key value =>
    rw [perform_insert]
    exact ⟨rfl, OrderedMap.keys_insert now key value⟩
  | adding key value =>
    rw [perform_adding]
    exact ⟨rfl, OrderedMap.keys_insert now key value⟩
  | remove key =>
    rw [perform_remove]
    exact ⟨rfl, OrderedMap.keys_erase now key⟩

end Edit

/-! ### Values -/

/-- The first edit of a history can be made at the start: what the history says is the same from
there. -/
theorem lastValue?_cons (start : OptionSet) (edit : Edit) (rest : List Edit) (key : String) :
    lastValue? start (edit :: rest) key = lastValue? (edit.perform start).2 rest key := by
  unfold lastValue?
  by_cases hkey : edit.key = key
  · -- The first edit decides only when no later one names the option.
    rw [List.filter_cons_of_pos (by simpa using hkey), List.getLast?_cons, Edit.get?_perform,
      if_pos hkey]
    cases (rest.filter fun edit => edit.key = key).getLast? with
    | none => rfl
    | some later => rfl
  · rw [List.filter_cons_of_neg (by simpa using hkey), Edit.get?_perform, if_neg hkey]

/-- A look-up sees the last edit that names the option. The induction goes over the history, with
the set at the start generalised. -/
theorem get?_after (start : OptionSet) (history : List Edit) (key : String) :
    (start.after history).get? key = lastValue? start history key := by
  induction history generalizing start with
  | nil => rfl
  | cons edit rest ih =>
    show ((edit.perform start).2.after rest).get? key = _
    rw [ih, lastValue?_cons]

/-! ### Order -/

/-- Adding a key at the end of those that are there, and then dropping some keys, comes to
putting it before the keys that follow. -/
theorem eraseDups_filter_insertion (keys tail : List String) (key : String) (keep : String → Bool) :
    ((if key ∈ keys then keys else keys ++ [key]).filter keep ++ tail).eraseDups =
      (keys.filter keep ++ if keep key = true then key :: tail else tail).eraseDups := by
  by_cases hkeep : keep key = true
  · by_cases hmem : key ∈ keys
    · -- The key stands among those before, so it is not counted again.
      have hbefore : ¬ (keys.filter keep).contains key = false := by simp [hmem, hkeep]
      rw [if_pos hmem, if_pos hkeep, List.eraseDups_append, List.eraseDups_append,
        List.cons_removeAll, if_neg hbefore]
    · simp [hmem, hkeep]
  · by_cases hmem : key ∈ keys
    · simp [hmem, hkeep]
    · simp [hmem, hkeep]

/-- The options after a history are those after the rest of it, from the set that the
first edit left. -/
theorem residents_cons (start : OptionSet) (edit : Edit) (rest : List Edit) :
    residents start (edit :: rest) = residents (edit.perform start).2 rest := by
  cases edit with
  | insert key value =>
    rw [Edit.perform_insert, residents, residents, OrderedMap.keys_insert,
      eraseDups_filter_insertion]
    simp [lasting]
  | adding key value =>
    rw [Edit.perform_adding, residents, residents, OrderedMap.keys_insert,
      eraseDups_filter_insertion]
    simp [lasting]
  | remove key =>
    rw [Edit.perform_remove, residents, residents, OrderedMap.keys_erase, List.filter_filter]
    simp [lasting, Bool.and_comm]

/-- The options stand in the order of the insertions that put them there. The induction is the
same, and `residents_cons` is its step. -/
theorem keys_after (start : OptionSet) (history : List Edit) :
    (start.after history).keys = residents start history := by
  induction history generalizing start with
  | nil =>
    show start.keys = ((start.keys.filter fun _ => true) ++ []).eraseDups
    rw [List.filter_eq_self.mpr fun _ _ => rfl, List.append_nil, OrderedMap.eraseDups_keys]
  | cons edit rest ih =>
    show ((edit.perform start).2.after rest).keys = _
    rw [ih, residents_cons]

/-! ### Histories -/

/-- The edit after a history is one more edit of the history. -/
theorem after_append_singleton (start : OptionSet) (history : List Edit) (edit : Edit) :
    start.after (history ++ [edit]) = (edit.perform (start.after history)).2 :=
  List.foldl_append

/-- Take any options and any history of insertions and removals. Afterwards no option
stands twice, and each has the value of the last edit that names it, in whichever way it
is read. The options stand in the order of the insertions that put them there. For the
next edit, whichever it is, `insert` and `remove` hand back the value that the option had
before. An insertion moves no option that is there, and puts one that is not there at the
end, also one that was removed. A removal leaves the others in their order. -/
theorem behaves_after (start : OptionSet) (history : List Edit) :
    (start.after history).keys.Nodup ∧
    (∀ key,
      (start.after history).get? key = lastValue? start history key ∧
      (start.after history).value key = (lastValue? start history key).getD .null ∧
      (∀ text, (start.after history).string? key = some text ↔
        lastValue? start history key = some (.string text)) ∧
      ((start.after history).isNull key = true ↔
        lastValue? start history key = none ∨ lastValue? start history key = some .null) ∧
      (key ∉ (start.after history).keys ↔ lastValue? start history key = none)) ∧
    (start.after history).keys = residents start history ∧
    ∀ edit : Edit, edit.Acts (start.after history) (start.after (history ++ [edit]))
      (edit.perform (start.after history)).1 := by
  refine ⟨OrderedMap.nodup_keys _, fun key => ?_, keys_after start history, fun edit => ?_⟩
  · have hget := get?_after start history key
    refine ⟨hget, by rw [value, hget], fun text => ?_, ?_, ?_⟩
    · rw [string?, hget, Option.bind_eq_some_iff]
      simp [Json.string?_eq_some_iff]
    · rw [isNull, value, hget, Json.isNull_iff]
      cases lastValue? start history key with
      | none => simp
      | some v => simp
    · rw [← hget, OrderedMap.get?_eq_none_iff]
  · rw [after_append_singleton]
    exact Edit.acts_perform _ edit

/-- An option that is set again keeps its place. One that was removed comes back at the end. -/
example :
    (after (.ofList [("name", .null), ("owner", .string "admin"), ("type", .null)])
      [.insert "name" (.string "box"), .remove "owner", .adding "facts" (.object []),
        .insert "owner" (.string "qa")]).entries =
      [("name", .string "box"), ("type", .null), ("facts", .object []), ("owner", .string "qa")] := by
  decide

end OptionSet

end EntitlementClient
