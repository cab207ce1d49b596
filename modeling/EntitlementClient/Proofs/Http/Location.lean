import Mathlib.Data.List.DropRight
import EntitlementClient.Proofs.Client.History
import EntitlementClient.Proofs.Http.Step

/-!
# `EntitlementClient.Proofs.Http.Location`: where requests go

The URL of a request is the server's address (`Settings.server`), the base path without
the slashes at its end, one slash, and the path without one slash before it
(`Url.join_baseUrl`). Trimming the slashes of the base URL never reaches into the address,
because the port ends in a digit (`Url.trimSlashes_append`).

A slash follows the address whatever the paths are, and it ends the authority. So the part
of a URL that decides to which server a request goes, its scheme and its authority, comes
from the settings of scheme, host and port alone. `Connection.location_draft` states this
for every draft that is made in steps on a connection, with its query.
-/

set_option autoImplicit false

namespace EntitlementClient

/-! ### Slashes -/

namespace Url

/-- The characters without one slash at their head. -/
def withoutSlash : List Char → List Char
  | '/' :: rest => rest
  | cs => cs

/-- Trimming slashes is what the library calls dropping from the right. -/
theorem trimSlashes_eq (cs : List Char) : trimSlashes cs = cs.rdropWhile (· = '/') := rfl

/-- What does not end in a slash is left alone when the slashes behind it are trimmed. -/
theorem trimSlashes_append {front : List Char} (h : front.getLast? ≠ some '/') (back : List Char) :
    trimSlashes (front ++ back) = front ++ trimSlashes back := by
  have hfront : front.reverse.dropWhile (· = '/') = front.reverse := by
    cases hreverse : front.reverse with
    | nil => rfl
    | cons c rest =>
      have hlast : front.getLast? = some c := by
        rw [← List.head?_reverse, hreverse, List.head?_cons]
      have hc : ¬ c = '/' := fun e => h (e ▸ hlast)
      simp [hc]
  unfold trimSlashes
  rw [List.reverse_append, List.dropWhile_append, hfront]
  split
  · rename_i hempty
    rw [List.isEmpty_iff.mp hempty]
    simp
  · simp

/-- A text that does not begin with a slash keeps all its characters. -/
theorem withoutSlash_of_ne {cs : List Char} (h : cs.head? ≠ some '/') : withoutSlash cs = cs := by
  unfold withoutSlash
  split
  · exact absurd rfl h
  · rfl

/-- A path stands behind one slash, with or without a slash of its own. Of the base all slashes at
the end are dropped. -/
theorem toList_join (base path : String) :
    (join base path).toList = trimSlashes base.toList ++ '/' :: withoutSlash path.toList := by
  unfold join
  dsimp only
  split
  · rename_i hslash
    obtain ⟨rest, hrest⟩ : ∃ rest, path.toList = '/' :: rest := List.head?_eq_some_iff.mp hslash
    rw [String.toList_append, String.toList_ofList, hrest]
    rfl
  · rename_i hslash
    rw [withoutSlash_of_ne hslash]
    simp

/-! ### The server that a URL names -/

/-- The scheme of a URL: what stands before the first colon. -/
def schemeOf (url : String) : List Char := url.toList.takeWhile (· ≠ ':')

/-- The bytes of the authority of a URL, which is what comes before the first slash,
question mark or number sign after the scheme. -/
def authority? (url : String) : Option (List UInt8) :=
  (afterScheme? url.toList).map fun rest =>
    (Text.utf8 rest).takeWhile fun b => !endsAuthority b

/-- What follows a slash does not belong to the authority. So no path can add to it, whatever
characters it has. -/
theorem takeWhile_authority (cs rest : List Char) :
    ((Text.utf8 (cs ++ '/' :: rest)).takeWhile fun b => !endsAuthority b) =
      (Text.utf8 cs).takeWhile fun b => !endsAuthority b := by
  have hutf8 : Text.utf8 (cs ++ '/' :: rest) = Text.utf8 cs ++ 0x2f :: Text.utf8 rest := by
    rw [Text.utf8, List.flatMap_append, List.flatMap_cons]
    rfl
  have hslash : (!endsAuthority 0x2f) = false := rfl
  rw [hutf8, List.takeWhile_append, List.takeWhile_cons_of_neg (by simp [hslash]), List.append_nil]
  split
  · rename_i hall
    exact (List.takeWhile_prefix _).eq_of_length hall |>.symm
  · rfl

end Url

/-! ### The addresses of settings -/

namespace Settings

/-- The name of the scheme. -/
def schemeName (s : Settings) : List Char := (if s.useTls then "https" else "http").toList

/-- The host and the port in a URL. A host with a colon stands in brackets unless it
begins with one. -/
def hostAndPort (s : Settings) : List Char :=
  (if ':' ∈ s.host.toList ∧ s.host.toList.head? ≠ some '[' then '[' :: s.host.toList ++ [']']
    else s.host.toList) ++ ':' :: Nat.toDigits 10 s.port.toNat

/-- The scheme, the host and the port in a URL. -/
def server (s : Settings) : List Char := s.schemeName ++ ':' :: '/' :: '/' :: s.hostAndPort

/-- The base path without the slashes at its end. -/
def trimmedBasePath (s : Settings) : List Char :=
  s.normalizedBasePath.toList.rdropWhile (· = '/')

variable (s : Settings) (path : String)

/-- The base URL is the server and then the base path in its normal form. -/
theorem toList_baseUrl : s.baseUrl.toList = s.server ++ s.normalizedBasePath.toList := by
  have hhost : s.urlHost.toList =
      if ':' ∈ s.host.toList ∧ s.host.toList.head? ≠ some '[' then '[' :: s.host.toList ++ [']']
      else s.host.toList := by
    unfold urlHost
    dsimp only
    simp only [Bool.and_eq_true, List.contains_iff_mem, decide_eq_true_eq]
    split
    · simp
    · rfl
  have hport : (toString s.port.toNat).toList = Nat.toDigits 10 s.port.toNat := by
    rw [Nat.toString_eq_ofList_toDigits, String.toList_ofList]
  unfold baseUrl
  simp only [String.toList_append, hhost, hport]
  simp [server, hostAndPort, schemeName, scheme]

/-- The address of the server ends in a digit of the port. So it has no slash at its end to be
trimmed. -/
theorem getLast?_server : s.server.getLast? ≠ some '/' := by
  have hne : Nat.toDigits 10 s.port.toNat ≠ [] := Nat.toDigits_ne_nil
  have hlast : s.server.getLast? = (Nat.toDigits 10 s.port.toNat).getLast? := by
    rw [server, hostAndPort]
    simp [List.getLast?_append, List.getLast?_cons, List.getLast?_eq_getLast_of_ne_nil hne]
  rw [hlast]
  intro hslash
  have hmem := List.mem_of_getLast? hslash
  have hdigit := Nat.isDigit_of_mem_toDigits (by decide) (by decide) hmem
  exact absurd hdigit (by decide)

/-- A request goes to the server, below the base path without the slashes at its end. -/
theorem toList_join_baseUrl :
    (Url.join s.baseUrl path).toList =
      s.server ++ s.trimmedBasePath ++ '/' :: Url.withoutSlash path.toList := by
  rw [Url.toList_join, toList_baseUrl, Url.trimSlashes_append s.getLast?_server,
    Url.trimSlashes_eq]
  rfl

/-- A path with or without its slash gets one. -/
theorem toList_withSlash (path : String) :
    (withSlash path).toList = '/' :: Url.withoutSlash path.toList := by
  unfold withSlash
  split
  · rename_i hslash
    obtain ⟨rest, hrest⟩ := List.head?_eq_some_iff.mp hslash
    rw [hrest]
    rfl
  · rename_i hslash
    rw [String.toList_append, Url.withoutSlash_of_ne hslash]
    rfl

/-- A base path that has its slash is not changed. So to give it one twice is the same as once. -/
theorem withSlash_withSlash (path : String) : withSlash (withSlash path) = withSlash path := by
  have hhead : (withSlash path).toList.head? = some '/' := by rw [toList_withSlash, List.head?_cons]
  rw [withSlash, if_pos hhead]

/-- A slash follows the address of the server: that of the base path, or the one before
the path. -/
theorem exists_slash : ∃ rest,
    s.trimmedBasePath ++ '/' :: Url.withoutSlash path.toList = '/' :: rest := by
  cases htrimmed : s.trimmedBasePath with
  | nil => exact ⟨_, rfl⟩
  | cons c rest =>
    have hnormalized : s.normalizedBasePath.toList = '/' :: Url.withoutSlash s.basePath.toList :=
      toList_withSlash s.basePath
    have hhead : (c :: rest).head? = some '/' := by
      have hsub : c :: rest <+: s.normalizedBasePath.toList :=
        htrimmed ▸ List.rdropWhile_prefix (· = '/') _
      rw [hnormalized] at hsub
      exact congrArg some (List.cons_prefix_cons.mp hsub).1
    obtain rfl := Option.some.inj hhead
    exact ⟨_, rfl⟩

/-- The URL goes to the server of the settings, below their base path. A query may follow. -/
structure Locates (s : Settings) (path : String) (draft : Draft) : Prop where
  /-- Before the query stand the server, the trimmed base path, a slash, and the path
  without its slash. -/
  location : draft.location.toList =
    s.server ++ s.trimmedBasePath ++ '/' :: Url.withoutSlash path.toList
  /-- The query begins with a question mark. -/
  query : draft.url = draft.location ∨ ∃ q, draft.url = draft.location ++ "?" ++ q
  /-- The scheme of the URL is that of the settings. -/
  scheme : Url.schemeOf draft.url = s.schemeName
  /-- The authority of the URL is the host and the port of the settings, as far as they
  are one. -/
  authority : Url.authority? draft.url =
    some ((Text.utf8 s.hostAndPort).takeWhile fun b => !Url.endsAuthority b)

end Settings

/-! ### Drafts -/

namespace Draft

variable {draft : Draft} {f : Draft → Draft}

/-- A step does not change where the request goes. -/
theorem location_take (step : Step) : (draft.take step).location = draft.location := by
  have hstep : ∀ f : Draft → Draft, (f draft).location = draft.location →
      (draft.step f).location = draft.location := by
    intro f hf
    unfold Draft.step
    split
    · rfl
    · exact hf
  have hheader : ∀ name value, (draft.header name value).location = draft.location := by
    intro name value
    refine hstep _ ?_
    split
    · rfl
    · rfl
  cases step with
  | header name value => exact hheader name value
  | accept mediaType => exact hheader Header.accept mediaType
  | query q =>
    refine hstep _ ?_
    split
    · rfl
    · rfl
  | json v => exact hstep _ rfl

/-- No step changes where a draft is sent to. A query is kept apart from the location. -/
theorem location_takeAll (steps : List Step) :
    (draft.takeAll steps).location = draft.location := by
  induction steps generalizing draft with
  | nil => rfl
  | cons step rest ih =>
    show ((draft.take step).takeAll rest).location = _
    rw [ih, location_take]

/-- The URL is the location, or the location with a query behind it. -/
theorem url_cases (draft : Draft) :
    draft.url = draft.location ∨ ∃ q, draft.url = draft.location ++ "?" ++ q := by
  unfold url
  split
  · rename_i q _
    exact Or.inr ⟨q, rfl⟩
  · exact Or.inl rfl

end Draft

namespace Settings

variable {s : Settings} {path : String} {draft : Draft}

/-- What stands before the query decides to which server the request goes, and that is the server
of the settings. -/
theorem locates_of_location (h : draft.location = Url.join s.baseUrl path) : s.Locates path draft := by
  have hlocation := congrArg String.toList h
  rw [toList_join_baseUrl] at hlocation
  -- After the host and the port comes a slash, with or without a query.
  obtain ⟨rest, hurl⟩ : ∃ rest, draft.url.toList = s.server ++ '/' :: rest := by
    obtain ⟨slashed, hslashed⟩ := s.exists_slash path
    rw [List.append_assoc, hslashed] at hlocation
    rcases draft.url_cases with hnone | ⟨q, hq⟩
    · exact ⟨slashed, by rw [hnone, hlocation]⟩
    · exact ⟨slashed ++ '?' :: q.toList, by rw [hq]; simp [hlocation]⟩
  refine ⟨hlocation, draft.url_cases, ?_, ?_⟩
  · rw [Url.schemeOf, hurl, server, schemeName]
    cases s.useTls with
    | true => simp
    | false => simp
  · have hafter : Url.afterScheme? draft.url.toList = some (s.hostAndPort ++ '/' :: rest) := by
      rw [hurl, server, schemeName]
      cases s.useTls with
      | true => rfl
      | false => rfl
    rw [Url.authority?, hafter, Option.map_some, Url.takeWhile_authority]

end Settings

namespace Connection

variable {c : Connection}

/-- Take any connection that was made, and any draft that is made in steps on it. Its URL
is the server of the settings, the base path without the slashes at its end, a slash and
the path without its slash, and then the query. No path, no base path and no step changes
the scheme or the authority. A path goes to the same URL with and without its slash, and
so does a base path that is given with or without it. -/
theorem location_draft {host : Host} {config : TransportConfig}
    (hmake : Connection.make host config = .ok c) (method : Method) (path : String)
    (steps : List Draft.Step) :
    config.settings.Locates path ((c.draft method path).takeAll steps) ∧
      (path.toList.head? ≠ some '/' →
        (c.draft method ("/" ++ path)).location = (c.draft method path).location) ∧
      ∀ basePath, Url.join (config.settings.withBasePath basePath).baseUrl path =
        Url.join { config.settings with basePath := basePath }.baseUrl path := by
  have hbase := (describes_of_make hmake).baseUrl
  have hlocation : (c.draft method path).location = Url.join config.settings.baseUrl path :=
    congrArg (Url.join · path) hbase
  refine ⟨Settings.locates_of_location ?_, fun hslash => ?_, fun basePath => ?_⟩
  · rw [Draft.location_takeAll, hlocation]
  · show Url.join c.baseUrl ("/" ++ path) = Url.join c.baseUrl path
    rw [← String.toList_inj, Url.toList_join, Url.toList_join, Url.withoutSlash_of_ne hslash]
    simp [Url.withoutSlash]
  · have hnormalized : (config.settings.withBasePath basePath).normalizedBasePath =
        { config.settings with basePath := basePath : Settings }.normalizedBasePath :=
      Settings.withSlash_withSlash basePath
    have hbaseUrl : (config.settings.withBasePath basePath).baseUrl =
        { config.settings with basePath := basePath : Settings }.baseUrl := by
      unfold Settings.baseUrl
      rw [hnormalized]
      rfl
    rw [hbaseUrl]

/-- An address with colons, a base path with slashes at its end, and a path that looks
like another server. The request goes to the address, below the base path. -/
theorem location_draft_double_slash :
    let config : TransportConfig :=
      ⟨{ Settings.default with host := "::1", basePath := "app//" }, .none⟩
    let steps : List Draft.Step := [.query ⟨[("page", "1")]⟩, .json .null]
    ∃ c, Connection.make .bare config = .ok c ∧
      ((c.draft .get "//other/x").takeAll steps).url =
        "https://[::1]:8443/app//other/x?page=1" ∧
      config.settings.Locates "//other/x"
        ((c.draft .get "//other/x").takeAll steps) ∧
      (Text.utf8 config.settings.hostAndPort).takeWhile (fun b => !Url.endsAuthority b) =
        Text.utf8 "[::1]:8443".toList := by
  intro config steps
  have hmake : Connection.make .bare
      ⟨{ Settings.default with host := "::1", basePath := "app//" }, .none⟩ =
        .ok (.describe config none) := rfl
  exact ⟨_, hmake, by decide +kernel,
    (location_draft hmake .get "//other/x" steps).1, by decide +kernel⟩

end Connection

end EntitlementClient
