import EntitlementClient.Http.Connection
import EntitlementClient.Proofs.Text.Base64
import EntitlementClient.Proofs.Text.Utf8

/-!
# `EntitlementClient.Proofs.Http.Credentials`: user names and passwords in a header field

A user name and a password are joined by a colon and sent as base64. Whatever they are,
the field can be made (`BasicCredentials.makeHeader_eq`): base64 has letters, digits and
three signs, and a field may hold all of them. So no connection is refused for its
credentials (`Credentials.checkHeader_eq`). Base64 and UTF-8 lose nothing, so two fields
are the same exactly when the joined texts are (`BasicCredentials.headerValue_eq_iff`).

The joined text is all that is sent. A colon in a user name cannot be told from the one
that joins, and without one the first colon ends the user name
(`BasicCredentials.plainText_eq_iff`). `BasicCredentials.makeHeader_headerValue` puts this
together.
-/

set_option autoImplicit false

namespace EntitlementClient

namespace BasicCredentials

variable {c c' : BasicCredentials}

/-! ### The field can be made -/

/-- Letters of base64 and its filler can all stand in the value of a field. -/
theorem isValueChar_of_mem_encode {bytes : List UInt8} {ch : Char}
    (h : ch ∈ Text.Base64.encode bytes) : isValueChar ch = true := by
  have hletter : ∀ n < 64, isValueChar (Text.Base64.letter n) = true := by decide
  rcases Text.Base64.mem_encode h with ⟨n, hn, rfl⟩ | rfl
  · exact hletter n hn
  · rfl

/-- A field may have the value, whatever the credentials are. Base64 sees to that, for any
character can stand in a user name or a password. -/
theorem isHeaderValue_headerValue : isHeaderValue c.headerValue = true := by
  have hword : "Basic ".toList.all isValueChar = true := by decide
  have hletters : (Text.Base64.encode (Text.utf8 c.plainText.toList)).all isValueChar = true := by
    rw [List.all_eq_true]
    intro ch hch
    exact isValueChar_of_mem_encode hch
  simp only [isHeaderValue, headerValue, String.toList_append, String.toList_ofList,
    List.all_append]
  exact Bool.and_eq_true_iff.mpr ⟨hword, hletters⟩

/-- The header of credentials is always made. It is the word for the scheme, a blank, and
the letters of base64, and none of these is refused in a field. -/
theorem makeHeader_eq : c.makeHeader = .ok c.header := by
  rw [makeHeader, if_pos isHeaderValue_headerValue]

/-! ### Fields that are the same -/

/-- The value says no more and no less than the joined text, because base64 and UTF-8 can both be
read back. -/
theorem headerValue_eq_iff : c.headerValue = c'.headerValue ↔ c.plainText = c'.plainText := by
  rw [headerValue, headerValue, ← String.toList_inj, String.toList_append, String.toList_append,
    List.append_cancel_left_eq, String.toList_ofList, String.toList_ofList, Text.Base64.encode_inj,
    Text.utf8_inj, String.toList_inj]

/-- What is encoded is the name, a colon and the password. -/
theorem toList_plainText :
    c.plainText.toList = c.username.toList ++ ':' :: c.password.secret.toList := by
  simp [plainText]

/-- Texts that end at the first of a sign are the same when the whole is. The sign must not stand
in either of the first parts, and may stand in what follows. -/
theorem append_cons_inj {sign : Char} {x y u v : List Char} (hx : sign ∉ x) (hy : sign ∉ y) :
    x ++ sign :: u = y ++ sign :: v ↔ x = y ∧ u = v := by
  induction x generalizing y with
  | nil =>
    cases y with
    | nil => simp
    | cons d y =>
      -- One text is over where the other goes on, with a character that is not the sign.
      simp only [List.mem_cons, not_or] at hy
      simp [hy.1]
  | cons c x ih =>
    simp only [List.mem_cons, not_or] at hx
    cases y with
    | nil => simp [Ne.symm hx.1]
    | cons d y =>
      simp only [List.mem_cons, not_or] at hy
      simp only [List.cons_append, List.cons.injEq, ih hx.2 hy.2, and_assoc]

/-- User names without a colon end at the first colon of the joined text. So the joined text has
just one user name and one password. -/
theorem plainText_eq_iff (h : ':' ∉ c.username.toList) (h' : ':' ∉ c'.username.toList) :
    c.plainText = c'.plainText ↔ c = c' := by
  obtain ⟨username, ⟨secret⟩⟩ := c
  obtain ⟨username', ⟨secret'⟩⟩ := c'
  rw [← String.toList_inj, toList_plainText, toList_plainText, append_cons_inj h h',
    String.toList_inj, String.toList_inj, mk.injEq, Password.mk.injEq]

/-- Take any user name and password. The header field that carries them can be made. Its
value is the word for this way of authenticating and then the base64, with letters and
padding only and in groups of four, of the UTF-8 bytes of the two with a colon between.
Two values are the same exactly when the joined texts are. So when neither user name has a
colon, only the same credentials have the same value. -/
theorem makeHeader_headerValue (c : BasicCredentials) :
    (∃ header, c.makeHeader = .ok header ∧ header.name = Header.authorization ∧
      header.value = c.headerValue) ∧
    (∃ letters, c.headerValue = "Basic " ++ String.ofList letters ∧
      Text.Base64.decode (Text.utf8 letters) =
        some (Text.utf8 (c.username ++ ":" ++ c.password.secret).toList) ∧
      letters.length % 4 = 0 ∧
      ∀ ch ∈ letters, (∃ n < 64, ch = Text.Base64.letter n) ∨ ch = '=') ∧
    (∀ c' : BasicCredentials, c.headerValue = c'.headerValue ↔
      c.username ++ ":" ++ c.password.secret = c'.username ++ ":" ++ c'.password.secret) ∧
    ∀ c' : BasicCredentials, ':' ∉ c.username.toList → ':' ∉ c'.username.toList →
      (c.headerValue = c'.headerValue ↔ c = c') := by
  refine ⟨⟨_, makeHeader_eq, rfl, rfl⟩, ⟨_, rfl, Text.Base64.decode_encode, ?_, fun ch hch =>
    Text.Base64.mem_encode hch⟩, fun c' => headerValue_eq_iff, fun c' h h' => ?_⟩
  · rw [Text.Base64.length_encode, Nat.mul_mod_left]
  · rw [headerValue_eq_iff, plainText_eq_iff h h']

/-- A colon in the password, and a text that is not ASCII. -/
theorem makeHeader_headerValue_colon :
    let c : BasicCredentials := ⟨"ada", ⟨"a:b"⟩⟩
    let c' : BasicCredentials := ⟨"ada", ⟨"a:ä"⟩⟩
    ':' ∉ c.username.toList ∧ ':' ∉ c'.username.toList ∧ c.headerValue ≠ c'.headerValue ∧
      c.headerValue = "Basic YWRhOmE6Yg==" := by
  intro c c'
  have hc : ':' ∉ c.username.toList := by decide
  have hc' : ':' ∉ c'.username.toList := by decide
  refine ⟨hc, hc', fun h => ?_, by decide +kernel⟩
  have hsame := ((makeHeader_headerValue c).2.2.2 c' hc hc').mp h
  exact absurd hsame (by decide)

/-- With a colon in a user name, other credentials can have the same value. -/
example : (BasicCredentials.mk "a:b" ⟨"c"⟩).headerValue =
    (BasicCredentials.mk "a" ⟨"b:c"⟩).headerValue := by
  decide +kernel

end BasicCredentials

/-! ### Connections -/

/-- No connection is refused for its user name and password, since the field for them can always
be made. -/
theorem Credentials.checkHeader_eq (credentials : Credentials) :
    credentials.checkHeader = .ok () := by
  cases credentials with
  | none => rfl
  | basic c =>
    rw [checkHeader, BasicCredentials.makeHeader_eq]
    rfl
  | certificate identity => rfl

end EntitlementClient
