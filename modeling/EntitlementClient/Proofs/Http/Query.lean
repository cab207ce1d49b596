import Mathlib.Data.List.TakeWhile
import EntitlementClient.Proofs.Http.Failure
import EntitlementClient.Proofs.Query

/-!
# `EntitlementClient.Proofs.Http.Query`: the query with which a request is sent

A draft keeps one query. A step that sets a query with pairs puts it in place of the one
that was set before, and a step that sets a query without pairs leaves it
(`Draft.takeAll_eq`). So what a server reads in the URL are the pairs of the last query
that has any (`Draft.lastPairs`), and those of the queries before it are gone.

`Connection.decode_query_iff` compares this with all the pairs that the steps give
(`Draft.pairs`). The server reads all of them exactly when at most one of the queries has
pairs.
-/

set_option autoImplicit false

namespace EntitlementClient

/-! ### The query of a URL -/

namespace Text

variable {separator c : Char}

/-- A character of joined texts is the separator, or stands in one of the texts. -/
theorem mem_joinWith {parts : List (List Char)} (h : c ∈ joinWith separator parts) :
    c = separator ∨ ∃ part ∈ parts, c ∈ part := by
  induction parts with
  | nil => cases h
  | cons part rest ih =>
    cases rest with
    | nil => exact Or.inr ⟨part, List.mem_cons_self, h⟩
    | cons next more =>
      simp only [joinWith, List.mem_append, List.mem_cons] at h
      rcases h with hpart | hseparator | hrest
      · exact Or.inr ⟨part, List.mem_cons_self, hpart⟩
      · exact Or.inl hseparator
      · refine (ih hrest).imp_right ?_
        rintro ⟨other, hother, hc⟩
        exact ⟨other, List.mem_cons_of_mem _ hother, hc⟩

/-- A field of a form holds no number sign, because that is escaped. The bytes are few enough to
look at each of them. -/
theorem numberSign_not_mem_formEncode (cs : List Char) : '#' ∉ formEncode cs := by
  have hall : ∀ n < 256, '#' ∉ formByte (UInt8.ofNat n) := by decide +kernel
  intro hmem
  obtain ⟨b, -, hb⟩ := List.mem_flatMap.mp hmem
  have hbyte := hall b.toNat b.toNat_lt
  rw [UInt8.ofNat_toNat] at hbyte
  exact hbyte hb

end Text

/-- A form holds no number sign. -/
theorem Query.numberSign_not_mem_encode (q : Query) : '#' ∉ q.encode.toList := by
  rw [encode, String.toList_ofList]
  intro hmem
  rcases Text.mem_joinWith hmem with hseparator | ⟨part, hpart, hc⟩
  · exact absurd hseparator (by decide)
  · obtain ⟨p, -, rfl⟩ := List.mem_map.mp hpart
    have hkey := Text.numberSign_not_mem_formEncode p.1.toList
    have hvalue := Text.numberSign_not_mem_formEncode p.2.toList
    simp [encodePair, hkey, hvalue] at hc

namespace Url

variable {location : String}

/-- The query of a URL: what follows its first question mark, up to a number sign. -/
def queryOf (url : String) : String :=
  String.ofList (((url.toList.takeWhile (· ≠ '#')).dropWhile (· ≠ '?')).drop 1)

/-- A location without a question mark has no query. -/
theorem queryOf_eq_empty (hmark : '?' ∉ location.toList) : queryOf location = "" := by
  have hnone : (location.toList.takeWhile (· ≠ '#')).dropWhile (· ≠ '?') = [] := by
    refine List.dropWhile_eq_nil_iff.mpr fun c hc => ?_
    have hne : c ≠ '?' := fun e => hmark (e ▸ (List.takeWhile_prefix _).subset hc)
    simpa using hne
  rw [queryOf, hnone]
  rfl

/-- A query that is put behind a question mark is the query of the URL. Neither the location nor
the query may hold a number sign, which would end it. -/
theorem queryOf_append (hmark : '?' ∉ location.toList) (hsign : '#' ∉ location.toList) {q : String}
    (hq : '#' ∉ q.toList) : queryOf (location ++ "?" ++ q) = q := by
  have htoList : (location ++ "?" ++ q).toList = location.toList ++ '?' :: q.toList := by simp
  have hall : ∀ c ∈ location.toList ++ '?' :: q.toList, decide (c ≠ '#') = true := by
    intro c hc
    rw [List.mem_append, List.mem_cons] at hc
    have hne : c ≠ '#' := by
      rintro rfl
      rcases hc with hlocation | hmark' | hform
      · exact hsign hlocation
      · exact absurd hmark' (by decide)
      · exact hq hform
    simpa using hne
  have hbefore : ∀ c ∈ location.toList, decide (c ≠ '?') = true := by
    intro c hc
    have hne : c ≠ '?' := fun e => hmark (e ▸ hc)
    simpa using hne
  rw [queryOf, htoList, List.takeWhile_eq_self_iff.mpr hall, List.dropWhile_append_of_pos hbefore]
  simp

end Url

namespace Draft

variable {draft : Draft} {steps : List Step}

/-! ### The queries of steps -/

/-- The pairs of a query that a step sets. -/
def Step.pairs : Step → List (String × String)
  | .query q => q.pairs
  | _ => []

/-- All pairs of queries that steps set, in the order of the steps. -/
def pairs (steps : List Step) : List (String × String) := steps.flatMap Step.pairs

/-- The queries with pairs that steps set, in the order of the steps. -/
def queries (steps : List Step) : List Query := steps.filterMap Step.query?

/-- The pairs of the last query that has any. -/
def lastPairs (steps : List Step) : List (String × String) :=
  ((queries steps).getLast?.map Query.pairs).getD []

/-- What steps put behind the location of a draft. -/
def appended (steps : List Step) : String :=
  match (queries steps).getLast? with
  | some q => "?" ++ q.encode
  | none => ""

/-- The pairs that a step gives are those of its query, if it has one. -/
theorem Step.pairs_eq (step : Step) : step.pairs = step.query?.toList.flatMap Query.pairs := by
  cases step with
  | query q =>
    cases hempty : q.isEmpty with
    | true => simpa [pairs, query?, hempty] using List.isEmpty_iff.mp hempty
    | false => simp [pairs, query?, hempty]
  | _ => rfl

/-- A query without pairs gives none, so all pairs are those of the queries with pairs. -/
theorem pairs_eq : pairs steps = (queries steps).flatMap Query.pairs := by
  induction steps with
  | nil => rfl
  | cons step rest ih =>
    rw [pairs, List.flatMap_cons, Step.pairs_eq]
    show _ ++ pairs rest = _
    rw [ih, queries, queries]
    cases hquery : step.query? <;> simp [hquery]

/-- The queries that count are those with pairs. -/
theorem pairs_ne_nil_of_mem_queries {q : Query} (h : q ∈ queries steps) : q.pairs ≠ [] := by
  obtain ⟨step, -, hstep⟩ := List.mem_filterMap.mp h
  cases step with
  | query q' =>
    cases hempty : q'.isEmpty with
    | true => simp [Step.query?, hempty] at hstep
    | false =>
      obtain rfl : q' = q := by simpa [Step.query?, hempty] using hstep
      simpa [Query.isEmpty] using hempty
  | _ => cases hstep

/-- Queries with pairs give none only if there are no queries. -/
theorem flatMap_pairs_eq_nil_iff {qs : List Query} (h : ∀ q ∈ qs, q.pairs ≠ []) :
    qs.flatMap Query.pairs = [] ↔ qs = [] := by
  rw [List.flatMap_eq_nil_iff]
  constructor
  · exact fun hnone => List.eq_nil_iff_forall_not_mem.mpr fun q hq => h q hq (hnone q hq)
  · rintro rfl q hq
    cases hq

/-- No query counts exactly when no step gives a pair. -/
theorem queries_eq_nil_iff : queries steps = [] ↔ ∀ step ∈ steps, step.pairs = [] := by
  rw [← flatMap_pairs_eq_nil_iff fun q hq => pairs_ne_nil_of_mem_queries hq, ← pairs_eq, pairs,
    List.flatMap_eq_nil_iff]

/-- The last query holds all pairs exactly when it is the only one that has any. Pairs of a query
before it are lost, even if the last one has the same. -/
theorem lastPairs_eq_pairs_iff : lastPairs steps = pairs steps ↔ (queries steps).length ≤ 1 := by
  rw [lastPairs, pairs_eq]
  rcases List.eq_nil_or_concat (queries steps) with hnone | ⟨before, last, hsome⟩
  · simp [hnone]
  · rw [List.concat_eq_append] at hsome
    -- All pairs end with those of the last query, so those before it have to be none.
    have hbefore : before.flatMap Query.pairs = [] ↔ before = [] :=
      flatMap_pairs_eq_nil_iff fun q hq =>
        pairs_ne_nil_of_mem_queries (hsome ▸ List.mem_append_left _ hq)
    rw [hsome]
    simp [hbefore]

/-- Steps that succeed put their query behind the location of a draft that has none. It is the
last query that has pairs, or none. -/
theorem url_takeAll (hdraft : draft.failure = none) (hquery : draft.query = none)
    (h : ∀ step ∈ steps, step.failure? = none) :
    (draft.takeAll steps).url = draft.location ++ appended steps := by
  have hform : (steps.filterMap fun step => step.query?.map Query.encode).getLast? =
      (queries steps).getLast?.map Query.encode := by
    rw [queries, ← List.getLast?_map, List.map_filterMap]
  rw [takeAll_eq hdraft h, hform, hquery, Option.or_none, url, appended]
  cases (queries steps).getLast? with
  | none => simp
  | some q => simp [String.append_assoc]

end Draft

namespace Connection

variable {c : Connection} {method : Method} {path : String} {steps : List Draft.Step}

/-! ### What a server reads -/

/-- Take steps that succeed on a draft of any connection. The URL is the location with the
form of the last query that has pairs behind it. Where the location has no query of its
own, the URL has a question mark if and only if some query has pairs, and the server reads
the pairs of the last such query. These are all the pairs that the steps give if and only
if at most one query has pairs. -/
theorem decode_query_iff (c : Connection) (method : Method) (path : String)
    (steps : List Draft.Step) (hsteps : ∀ step ∈ steps, step.failure? = none) :
    ((c.draft method path).takeAll steps).url =
        (c.draft method path).location ++ Draft.appended steps ∧
    ('?' ∉ (c.draft method path).location.toList → '#' ∉ (c.draft method path).location.toList →
      ('?' ∈ ((c.draft method path).takeAll steps).url.toList ↔ ∃ step ∈ steps, step.pairs ≠ []) ∧
      Query.decode (Url.queryOf ((c.draft method path).takeAll steps).url) =
        some ⟨Draft.lastPairs steps⟩ ∧
      (Query.decode (Url.queryOf ((c.draft method path).takeAll steps).url) =
        some ⟨Draft.pairs steps⟩ ↔ (Draft.queries steps).length ≤ 1)) := by
  have hurl : ((c.draft method path).takeAll steps).url = _ := Draft.url_takeAll rfl rfl hsteps
  refine ⟨hurl, fun hmark hsign => ?_⟩
  have hread : Query.decode (Url.queryOf ((c.draft method path).takeAll steps).url) =
      some ⟨Draft.lastPairs steps⟩ := by
    rw [hurl, Draft.appended, Draft.lastPairs]
    cases (Draft.queries steps).getLast? with
    | none =>
      rw [String.append_empty, Url.queryOf_eq_empty hmark]
      rfl
    | some q =>
      rw [← String.append_assoc, Url.queryOf_append hmark hsign q.numberSign_not_mem_encode,
        Query.decode_encode]
      rfl
  refine ⟨?_, hread, ?_⟩
  · have hnone : Draft.queries steps = [] ↔ _ := Draft.queries_eq_nil_iff
    rw [hurl, Draft.appended]
    cases hlast : (Draft.queries steps).getLast? with
    | none =>
      have hall := hnone.mp (List.getLast?_eq_none_iff.mp hlast)
      simpa [hmark] using hall
    | some q =>
      have hsome : Draft.queries steps ≠ [] := List.ne_nil_of_mem (List.mem_of_getLast? hlast)
      have hgiven := mt hnone.mpr hsome
      simpa using hgiven
  · rw [hread, Option.some.injEq, Query.mk.injEq]
    exact Draft.lastPairs_eq_pairs_iff

/-- Between queries without pairs one query with a repeated key is read as it was given. -/
theorem decode_query_repeated_key :
    let c := Connection.describe ⟨.default, .none⟩ none
    let steps : List Draft.Step :=
      [.query .empty, .header "X-Trace" "1", .query ⟨[("pool", "a b"), ("pool", "1&1=2")]⟩,
        .json .null, .query .empty]
    (∀ step ∈ steps, step.failure? = none) ∧ '?' ∉ (c.draft .get "/pools").location.toList ∧
      '#' ∉ (c.draft .get "/pools").location.toList ∧ (Draft.queries steps).length ≤ 1 ∧
      ((c.draft .get "/pools").takeAll steps).url =
        "https://localhost:8443/candlepin/pools?pool=a+b&pool=1%261%3D2" ∧
      '?' ∈ ((c.draft .get "/pools").takeAll steps).url.toList ∧
      Query.decode (Url.queryOf ((c.draft .get "/pools").takeAll steps).url) =
        some ⟨[("pool", "a b"), ("pool", "1&1=2")]⟩ := by
  intro c steps
  have hsteps : ∀ step ∈ steps, step.failure? = none := by decide +kernel
  have hmark : '?' ∉ (c.draft .get "/pools").location.toList := by decide +kernel
  have hsign : '#' ∉ (c.draft .get "/pools").location.toList := by decide +kernel
  have hone : (Draft.queries steps).length ≤ 1 := by decide +kernel
  obtain ⟨-, hread⟩ := decode_query_iff c .get "/pools" steps hsteps
  obtain ⟨hurl, -, hall⟩ := hread hmark hsign
  exact ⟨hsteps, hmark, hsign, hone, by decide +kernel,
    hurl.mpr ⟨.query ⟨[("pool", "a b"), ("pool", "1&1=2")]⟩, by simp [steps], by decide⟩,
    hall.mpr hone⟩

/-- A second query with pairs takes the place of the first. -/
theorem second_query_replaces_first :
    let c := Connection.describe ⟨.default, .none⟩ none
    let steps : List Draft.Step := [.query ⟨[("owner", "admin")]⟩, .query ⟨[("page", "1")]⟩]
    (∀ step ∈ steps, step.failure? = none) ∧
      Draft.pairs steps = [("owner", "admin"), ("page", "1")] ∧
      ((c.draft .get "/pools").takeAll steps).url =
        "https://localhost:8443/candlepin/pools?page=1" ∧
      Query.decode (Url.queryOf ((c.draft .get "/pools").takeAll steps).url) =
        some ⟨[("page", "1")]⟩ ∧
      Query.decode (Url.queryOf ((c.draft .get "/pools").takeAll steps).url) ≠
        some ⟨Draft.pairs steps⟩ := by
  decide +kernel

end Connection

end EntitlementClient
