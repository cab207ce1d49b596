import EntitlementClient.Proofs.Outcome
import EntitlementClient.Tls.Host

/-!
# `EntitlementClient.Proofs.Tls.Host`: what a connection asks of its host

A connection over TLS needs three things of its host, and `Host.Serves` lists them: a
version of the protocol, an authority to verify the server by, and an identity that can be
presented. Settings that accept any certificate do not ask for the second.

`Host.checkTls_ok_iff` says that the three checks succeed exactly then, and
`Host.refuses_of_checkTls` says which errors are possible otherwise and what each of them
means (`Host.Refuses`). Only one of the errors is about certificates, and it is about the
file of authorities: a machine that has no authorities of its own gives the same error as
an identity that cannot be presented.

How the TLS library decides on certificates and identities is left open throughout. A host
is such a decision, and hosts that decide alike where the settings ask (`Host.Agrees`)
give the same outcome (`Host.Agrees.checkTls_eq`).
-/

set_option autoImplicit false

namespace EntitlementClient

/-! ### Errors of certificates and keys -/

/-- A text that gives no certificates gives an error of certificates. -/
theorem CertificateChain.ofPem_error {text : List UInt8} {e : TransportError}
    (h : ofPem text = .error e) : ∃ problem, e = .certificate problem := by
  unfold ofPem at h
  dsimp only at h
  split at h
  · cases h
    exact ⟨_, rfl⟩
  · split at h
    · cases h
      exact ⟨_, rfl⟩
    · cases h

/-- So does a file, whether it cannot be read or has no certificates. -/
theorem CertificateChain.ofFile_error {host : Host} {path : String} {e : TransportError}
    (h : ofFile host path = .error e) : ∃ problem, e = .certificate problem := by
  unfold ofFile at h
  split at h
  · cases h
    exact ⟨_, rfl⟩
  · exact ofPem_error h

/-- A text that gives no key gives an error of certificates as well. -/
theorem PrivateKey.ofPem_error {text : List UInt8} {e : TransportError}
    (h : ofPem text = .error e) : ∃ problem, e = .certificate problem := by
  unfold ofPem at h
  split at h
  · cases h
  · cases h
    exact ⟨_, rfl⟩

namespace Host

variable {host : Host} {settings : Settings} {identity : Option (CertificateChain × PrivateKey)}

/-! ### Authorities -/

/-- The certificates by which a host verifies servers: those of the machine and those of
the file that the settings name, as far as the TLS library takes them as authorities. -/
inductive Trusts (host : Host) (settings : Settings) (certificate : List UInt8) : Prop where
  /-- The machine trusts it. -/
  | native (h : certificate ∈ host.nativeRoots) (haccepts : host.acceptsRoot certificate = true)
  /-- It is in the file. -/
  | file {path chain} (hpath : settings.trustedAuthorities = some path)
      (hchain : CertificateChain.ofFile host path = .ok chain)
      (h : certificate ∈ chain.certificates) (haccepts : host.acceptsRoot certificate = true)

/-- A file gives those of its certificates that can serve as authorities, if there is one
at all. -/
theorem authorities_eq_ok_iff {path : String} {roots : List (List UInt8)} :
    host.authorities path = .ok roots ↔
      ∃ chain, CertificateChain.ofFile host path = .ok chain ∧
        chain.certificates.filter host.acceptsRoot = roots ∧ roots ≠ [] := by
  simp only [authorities, bind_eq_ok_iff]
  refine exists_congr fun chain => and_congr_right fun _ => ?_
  split
  · rename_i hempty
    rw [List.isEmpty_iff.mp hempty]
    constructor
    · rintro ⟨⟩
    · rintro ⟨rfl, hne⟩
      exact absurd rfl hne
  · rename_i hsome
    constructor
    · rintro ⟨⟩
      exact ⟨rfl, fun hnil => hsome (List.isEmpty_iff.mpr hnil)⟩
    · rintro ⟨rfl, -⟩
      rfl

/-- A file that gives no authorities gives an error of certificates, whatever is wrong with it. -/
theorem authorities_error {path : String} {e : TransportError}
    (h : host.authorities path = .error e) : ∃ problem, e = .certificate problem := by
  unfold authorities at h
  rcases bind_eq_error_iff.mp h with h | ⟨chain, -, h⟩
  · exact CertificateChain.ofFile_error h
  · dsimp only at h
    split at h
    · cases h
      exact ⟨_, rfl⟩
    · cases h

/-- The file that the settings name gives authorities or an error. Without a file there
are none. -/
theorem namedRoots_cases (host : Host) (settings : Settings) :
    (settings.trustedAuthorities = none ∧ host.namedRoots settings = .ok []) ∨
    (∃ path roots, settings.trustedAuthorities = some path ∧ host.authorities path = .ok roots ∧
      host.namedRoots settings = .ok roots) ∨
    ∃ path problem, settings.trustedAuthorities = some path ∧
      host.authorities path = .error (.certificate problem) ∧
      host.namedRoots settings = .error (.certificate problem) := by
  unfold namedRoots
  cases settings.trustedAuthorities with
  | none => exact Or.inl ⟨rfl, rfl⟩
  | some path =>
    dsimp only
    cases hpath : host.authorities path with
    | ok roots => exact Or.inr (Or.inl ⟨path, roots, rfl, hpath, rfl⟩)
    | error e =>
      obtain ⟨problem, rfl⟩ := authorities_error hpath
      exact Or.inr (Or.inr ⟨path, problem, rfl, hpath, rfl⟩)

/-- The certificates of the machine and those of the file, as far as they can serve, are
what the host trusts. -/
theorem mem_append_namedRoots {named : List (List UInt8)}
    (h : host.namedRoots settings = .ok named) (certificate : List UInt8) :
    certificate ∈ host.nativeRoots.filter host.acceptsRoot ++ named ↔
      host.Trusts settings certificate := by
  rw [List.mem_append, List.mem_filter]
  constructor
  · rintro (⟨hmem, haccepts⟩ | hmem)
    · exact .native hmem haccepts
    · rcases namedRoots_cases host settings with
        ⟨-, hnone⟩ | ⟨path, roots, hpath, hroots, hok⟩ | ⟨path, problem, -, -, herror⟩
      · rw [hnone] at h
        cases h
        cases hmem
      · obtain rfl := Except.ok.inj (hok.symm.trans h)
        obtain ⟨chain, hchain, rfl, -⟩ := authorities_eq_ok_iff.mp hroots
        obtain ⟨hmem, haccepts⟩ := List.mem_filter.mp hmem
        exact .file hpath hchain hmem haccepts
      · rw [herror] at h
        cases h
  · rintro (⟨hmem, haccepts⟩ | ⟨hpath, hchain, hmem, haccepts⟩)
    · exact Or.inl ⟨hmem, haccepts⟩
    · right
      unfold namedRoots at h
      rw [hpath] at h
      obtain ⟨chain, hchain', rfl, -⟩ := authorities_eq_ok_iff.mp h
      obtain rfl := Except.ok.inj (hchain.symm.trans hchain')
      exact List.mem_filter.mpr ⟨hmem, haccepts⟩

/-- Authorities are found, which are exactly the certificates that the host trusts. Or the
machine has none and the settings name no file, or they name one that gives none. -/
theorem trustedRoots_cases (host : Host) (settings : Settings) :
    (∃ roots, host.trustedRoots settings = .ok roots ∧ roots ≠ [] ∧
      (∀ certificate, certificate ∈ roots ↔ host.Trusts settings certificate) ∧
      ∀ path, settings.trustedAuthorities = some path →
        ∃ named, host.authorities path = .ok named) ∨
    (host.trustedRoots settings = .error .tls ∧ settings.trustedAuthorities = none ∧
      ∀ certificate, ¬ host.Trusts settings certificate) ∨
    ∃ path problem, settings.trustedAuthorities = some path ∧
      host.authorities path = .error (.certificate problem) ∧
      host.trustedRoots settings = .error (.certificate problem) := by
  have heq : ∀ {named}, host.namedRoots settings = .ok named → host.trustedRoots settings =
      if (host.nativeRoots.filter host.acceptsRoot ++ named).isEmpty then .error .tls
      else .ok (host.nativeRoots.filter host.acceptsRoot ++ named) := by
    intro named hnamed
    rw [trustedRoots, hnamed]
    rfl
  rcases namedRoots_cases host settings with
    ⟨hpath, hnamed⟩ | ⟨path, named, hpath, hauthorities, hnamed⟩ | ⟨path, problem, hpath, h, hnamed⟩
  · have hmem := mem_append_namedRoots hnamed
    rw [heq hnamed]
    -- Without a file the machine alone decides whether there are roots.
    generalize host.nativeRoots.filter host.acceptsRoot ++ [] = roots at hmem
    cases roots with
    | nil =>
      exact Or.inr (Or.inl ⟨rfl, hpath, fun certificate htrusts =>
        nomatch (hmem certificate).mpr htrusts⟩)
    | cons root rest =>
      refine Or.inl ⟨_, rfl, List.cons_ne_nil _ _, hmem, fun path hsome => ?_⟩
      rw [hpath] at hsome
      cases hsome
  · -- The file gives one, so the roots are not empty.
    have hmem := mem_append_namedRoots hnamed
    obtain ⟨-, -, -, hne⟩ := authorities_eq_ok_iff.mp hauthorities
    have hroots : host.nativeRoots.filter host.acceptsRoot ++ named ≠ [] := by
      simp [hne]
    rw [heq hnamed, if_neg (by simpa using hroots)]
    refine Or.inl ⟨_, rfl, hroots, hmem, fun path' hsome => ?_⟩
    obtain rfl := Option.some.inj (hpath.symm.trans hsome)
    exact ⟨named, hauthorities⟩
  · refine Or.inr (Or.inr ⟨path, problem, hpath, h, ?_⟩)
    rw [trustedRoots, hnamed]
    rfl

/-! ### What is asked before a connection is made -/

/-- A host on which connections with the settings can be made and can present the identity. -/
structure Serves (host : Host) (settings : Settings)
    (identity : Option (CertificateChain × PrivateKey)) : Prop where
  /-- It speaks the protocol. -/
  speaksTls : host.speaksTls = true
  /-- There is an authority to verify servers by, unless they are not verified. -/
  trusts : settings.skipVerification = false → ∃ certificate, host.Trusts settings certificate
  /-- If the settings name a file of authorities, the file gives one. -/
  named : settings.skipVerification = false → ∀ path, settings.trustedAuthorities = some path →
    ∃ roots, host.authorities path = .ok roots
  /-- The identity, if there is one, can be presented. -/
  presents : ∀ chain key, identity = some (chain, key) → host.presents chain key = true

/-- What a host lacks for connections with the settings and the identity, and the error
that says so. -/
inductive Refuses (host : Host) (settings : Settings)
    (identity : Option (CertificateChain × PrivateKey)) : TransportError → Prop where
  /-- It does not speak the protocol. -/
  | noProtocol (h : host.speaksTls = false) : Refuses host settings identity .tls
  /-- The file of authorities gives none. -/
  | noAuthorities {path problem} (hskip : settings.skipVerification = false)
      (hpath : settings.trustedAuthorities = some path)
      (h : host.authorities path = .error (.certificate problem)) :
      Refuses host settings identity (.certificate problem)
  /-- There is no such file, and the machine has no authorities. -/
  | noRoots (hskip : settings.skipVerification = false) (hpath : settings.trustedAuthorities = none)
      (h : ∀ certificate, ¬ host.Trusts settings certificate) : Refuses host settings identity .tls
  /-- The identity cannot be presented. -/
  | notPresentable {chain key} (hidentity : identity = some (chain, key))
      (h : host.presents chain key = false) : Refuses host settings identity .tls

/-- Trust is given when servers are not verified, or when there is an authority to verify
them by and the file of authorities, if there is one, gives one. -/
theorem checkTrust_ok_iff : host.checkTrust settings = .ok () ↔
    (settings.skipVerification = false → (∃ certificate, host.Trusts settings certificate) ∧
      ∀ path, settings.trustedAuthorities = some path →
        ∃ named, host.authorities path = .ok named) := by
  unfold checkTrust
  cases settings.skipVerification with
  | true => simp
  | false =>
    -- There are roots, or there are none at all, or the file gives none.
    rcases host.trustedRoots_cases settings with
      ⟨roots, hroots, hne, hmem, hnamed⟩ | ⟨hroots, -, hnone⟩ | ⟨path, problem, hpath, h, hroots⟩
    · rw [hroots]
      obtain ⟨root, hroot⟩ := List.exists_mem_of_ne_nil roots hne
      exact ⟨fun _ _ => ⟨⟨root, (hmem root).mp hroot⟩, hnamed⟩, fun _ => rfl⟩
    · rw [hroots]
      refine ⟨fun h => (nomatch h), fun h => ?_⟩
      obtain ⟨⟨certificate, htrusts⟩, -⟩ := h rfl
      exact absurd htrusts (hnone certificate)
    · rw [hroots]
      refine ⟨fun h => (nomatch h), fun hgiven => ?_⟩
      obtain ⟨-, hnamed⟩ := hgiven rfl
      obtain ⟨named, hok⟩ := hnamed path hpath
      rw [h] at hok
      cases hok

/-- When trust is not given, the host lacks authorities: a file of the settings has none, or there
are no roots to trust at all. -/
theorem refuses_of_checkTrust {e : TransportError} (h : host.checkTrust settings = .error e) :
    host.Refuses settings identity e := by
  unfold checkTrust at h
  split at h
  · cases h
  · rename_i hskip
    replace hskip : settings.skipVerification = false := Bool.eq_false_iff.mpr hskip
    rcases host.trustedRoots_cases settings with
      ⟨roots, hroots, -⟩ | ⟨hroots, hpath, hnone⟩ | ⟨path, problem, hpath, hauthorities, hroots⟩
    · rw [hroots] at h
      cases h
    · rw [hroots] at h
      cases h
      exact .noRoots hskip hpath hnone
    · rw [hroots] at h
      cases h
      exact .noAuthorities hskip hpath hauthorities

/-- An identity passes when there is none, or when it can be presented. -/
theorem checkIdentity_ok_iff : host.checkIdentity identity = .ok () ↔
    ∀ chain key, identity = some (chain, key) → host.presents chain key = true := by
  unfold checkIdentity
  split
  · simp
  · rename_i chain key
    split
    · rename_i hpresents
      exact ⟨fun _ _ _ hsame => by cases hsame; exact hpresents, fun _ => rfl⟩
    · rename_i hnot
      exact ⟨fun h => (nomatch h), fun h => absurd (h chain key rfl) hnot⟩

/-- When an identity does not pass, it cannot be presented: the host refuses the certificate or
the key. -/
theorem refuses_of_checkIdentity {e : TransportError} (h : host.checkIdentity identity = .error e) :
    host.Refuses settings identity e := by
  unfold checkIdentity at h
  split at h
  · cases h
  · split at h
    · cases h
    · rename_i hnot
      cases h
      exact .notPresentable rfl (Bool.eq_false_iff.mpr hnot)

/-- The protocol is asked for first, then trust, and then the identity. The first that is lacking
decides the error. -/
theorem checkTls_eq (host : Host) (settings : Settings)
    (identity : Option (CertificateChain × PrivateKey)) :
    host.checkTls settings identity =
      if host.speaksTls then host.checkTrust settings >>= fun _ => host.checkIdentity identity
      else .error .tls := by
  unfold checkTls
  cases host.speaksTls with
  | true => rfl
  | false => rfl

/-- The three checks succeed exactly on a host that serves the settings and the identity. -/
theorem checkTls_ok_iff :
    host.checkTls settings identity = .ok () ↔ host.Serves settings identity := by
  rw [checkTls_eq]
  cases hspeaks : host.speaksTls with
  | false =>
    refine ⟨fun h => (nomatch h), fun h => ?_⟩
    rw [h.speaksTls] at hspeaks
    cases hspeaks
  | true =>
    rw [if_pos rfl, bind_eq_ok_iff]
    constructor
    · rintro ⟨_, htrust, hidentity⟩
      have hgiven := checkTrust_ok_iff.mp htrust
      exact {
        speaksTls := hspeaks
        trusts := fun hskip => (hgiven hskip).1
        named := fun hskip => (hgiven hskip).2
        presents := checkIdentity_ok_iff.mp hidentity }
    · intro h
      exact ⟨(), checkTrust_ok_iff.mpr fun hskip => ⟨h.trusts hskip, h.named hskip⟩,
        checkIdentity_ok_iff.mpr h.presents⟩

/-- When one of the checks fails, the error says what the host lacks. -/
theorem refuses_of_checkTls {e : TransportError} (h : host.checkTls settings identity = .error e) :
    host.Refuses settings identity e := by
  rw [checkTls_eq] at h
  split at h
  · rcases bind_eq_error_iff.mp h with h | ⟨_, -, h⟩
    · exact refuses_of_checkTrust h
    · exact refuses_of_checkIdentity h
  · rename_i hnot
    cases h
    exact .noProtocol (Bool.eq_false_iff.mpr hnot)

/-- A host that lacks something does not serve. So `Serves` and `Refuses` are the two ways in
which the checks can end. -/
theorem Refuses.not_serves {e : TransportError} (h : host.Refuses settings identity e) :
    ¬ host.Serves settings identity := by
  intro hserves
  cases h with
  | noProtocol h =>
    rw [hserves.speaksTls] at h
    cases h
  | noAuthorities hskip hpath h =>
    obtain ⟨named, hok⟩ := hserves.named hskip _ hpath
    rw [h] at hok
    cases hok
  | noRoots hskip _ h =>
    obtain ⟨certificate, htrusts⟩ := hserves.trusts hskip
    exact h certificate htrusts
  | notPresentable hidentity h =>
    rw [hserves.presents _ _ hidentity] at h
    cases h

/-- A machine without files and without authorities, whose TLS library takes nothing that
it is shown. -/
def bare : Host where
  read := fun _ => .error "No such file or directory (os error 2)"
  nativeRoots := []
  speaksTls := true
  acceptsRoot := fun _ => false
  presents := fun _ _ => false

/-- It serves clients that accept any server, and none that verifies servers. -/
example : Host.bare.checkTls .default none = .ok () ∧
    Host.bare.checkTls { Settings.default with skipVerification := false } none = .error .tls :=
  ⟨rfl, rfl⟩

/-! ### Hosts that agree -/

/-- Hosts that decide alike where the settings ask. What they know of authorities is asked
for only if servers are verified, and of their files only the one that the settings
name. -/
structure Agrees (host host' : Host) (settings : Settings) : Prop where
  /-- Both speak the protocol, or neither does. -/
  speaksTls : host'.speaksTls = host.speaksTls
  /-- They present the same identities. -/
  presents : host'.presents = host.presents
  /-- Their machines trust the same certificates. -/
  nativeRoots : settings.skipVerification = false → host'.nativeRoots = host.nativeRoots
  /-- They take the same certificates as those of authorities. -/
  acceptsRoot : settings.skipVerification = false → host'.acceptsRoot = host.acceptsRoot
  /-- They have the same file of authorities. -/
  read : settings.skipVerification = false → ∀ path, settings.trustedAuthorities = some path →
    host'.read path = host.read path

/-- A host agrees with itself. -/
theorem Agrees.refl (host : Host) (settings : Settings) : host.Agrees host settings :=
  ⟨rfl, rfl, fun _ => rfl, fun _ => rfl, fun _ _ _ => rfl⟩

/-- Hosts that agree where the settings ask give the same outcome, with the same error if it is
one. -/
theorem Agrees.checkTls_eq {host' : Host} (h : host.Agrees host' settings)
    (identity : Option (CertificateChain × PrivateKey)) :
    host'.checkTls settings identity = host.checkTls settings identity := by
  have htrust : host'.checkTrust settings = host.checkTrust settings := by
    unfold checkTrust
    split
    · rfl
    · rename_i hskip
      replace hskip : settings.skipVerification = false := Bool.eq_false_iff.mpr hskip
      have hnamed : host'.namedRoots settings = host.namedRoots settings := by
        unfold namedRoots
        split
        · rename_i path hpath
          rw [authorities, authorities, CertificateChain.ofFile, CertificateChain.ofFile,
            h.read hskip path hpath, h.acceptsRoot hskip]
        · rfl
      rw [trustedRoots, trustedRoots, hnamed, h.nativeRoots hskip, h.acceptsRoot hskip]
  have hidentity : host'.checkIdentity identity = host.checkIdentity identity := by
    unfold checkIdentity
    rw [h.presents]
  rw [Host.checkTls_eq, Host.checkTls_eq, h.speaksTls, htrust, hidentity]

end Host

end EntitlementClient
