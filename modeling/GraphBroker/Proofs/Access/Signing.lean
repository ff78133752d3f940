import GraphBroker.Proofs.Access.Tokens
import GraphBroker.Proofs.Json.Decoding
import GraphBroker.Proofs.Text.Base64

/-!
# Tokens there and back

A token that is signed with given claims is read as these claims, if their times fit 64 bits, and
else as none. Under the key that it was signed with it is accepted, unless it ends before the
beginning of time or was issued by another authority than the one expected.

## Main statements

* `Claims.ofBytes?_encode`, `Claims.ofBytes?_encode_of_not_fits`: the claims that are read.
* `claims_sign`: what is read of a token that has been signed.
* `verify_sign`: whether it is accepted.
-/

namespace GraphBroker

open Json (seen quote Fits Stops)
open Json.Decoder (Finds Fails label finds_named fails_named finds_unnamed finds_named_end)

namespace Claims

variable {c : Claims} {given : List (String × Json)} {name value : String} {n : Int}
  {rest : List Char} {d : Char}

/-- The times of the claims `c` fit 64 bits. -/
def FitsTimes (c : Claims) : Prop :=
  Fits c.issuedAt ∧ Fits c.expiresAt

theorem seen_toJson (c : Claims) : seen c.toJson.compress =
    '\x7b' :: (label true "sub" ++ (seen (quote c.subject) ++
      (label false "iss" ++ (seen (quote c.issuer) ++
      (label false "iat" ++ (seen (toString c.issuedAt) ++
      (label false "exp" ++ (seen (toString c.expiresAt) ++
      (label false "jti" ++ (seen (quote c.id) ++ ['\x7d'])))))))))) := by
  have brace : seen "\x7b" = ['\x7b'] ∧ seen "\x7d" = ['\x7d'] ∧ seen ":" = [':'] ∧
    seen "," = [','] := by decide
  simp only [toJson, Json.compress, Json.compressMembers, Json.seen_append, brace, label,
    Json.Decoder.lead, List.append_assoc, List.cons_append, List.nil_append]
  simp

/-- The text of `c` is long enough for all members. -/
theorem exists_length (c : Claims) : ∃ k, (seen c.toJson.compress).length = k + 6 := by
  have first : (label true "sub").length = 6 := by decide
  refine ⟨(seen c.toJson.compress).length - 6, ?_⟩
  rw [seen_toJson, List.length_cons, List.length_append, first]
  omega

/-- Decodes the claim `name` and puts it to those that are `given`. -/
def step (given : List (String × Json)) (name : String) : Json.Decoder (List (String × Json)) := do
  let value ← if name = "iat" ∨ name = "exp" then .int <$> .int64 else .text <$> .text
  return (name, value) :: given

theorem decoder_eq : decoder = .record ["sub", "iss", "iat", "exp", "jti"] step []
    fun given => ofJson? (.object given) := rfl

theorem finds_step_text (other : ¬(name = "iat" ∨ name = "exp")) :
    Finds (step given name) (seen (quote value) ++ rest) ((name, .text value) :: given) rest := by
  rw [step, if_neg other]
  exact .bind (.map Json.Decoder.finds_text) Json.Decoder.finds_pure

theorem finds_step_int (time : name = "iat" ∨ name = "exp") (fits : Fits n) (stops : Stops d) :
    Finds (step given name) (seen (toString n) ++ d :: rest) ((name, .int n) :: given)
      (d :: rest) := by
  rw [step, if_pos time]
  exact .bind (.map (Json.Decoder.finds_int64 fits stops)) Json.Decoder.finds_pure

theorem fails_step_int (time : name = "iat" ∨ name = "exp") (other : ¬Fits n) (stops : Stops d) :
    Fails (step given name) (seen (toString n) ++ d :: rest) := by
  rw [step, if_pos time]
  have failed : Fails Json.Decoder.int64 (seen (toString n) ++ d :: rest) :=
    Json.Decoder.fails_int64 other stops
  obtain ⟨flaw, rest, stopped⟩ := failed
  exact Fails.bind ⟨flaw, rest, Json.Decoder.run_map_error stopped⟩

/-- The claims `c`, if their times fit, are read as they were written. -/
theorem finds_decoder (fits : c.FitsTimes) : Finds decoder (seen c.toJson.compress) c [] := by
  obtain ⟨k, long⟩ := exists_length c
  have stops : Stops ',' := by decide
  rw [seen_toJson] at long ⊢
  rw [decoder_eq]
  refine Json.Decoder.finds_record [("jti", .text c.id), ("exp", .int c.expiresAt),
    ("iat", .int c.issuedAt), ("iss", .text c.issuer), ("sub", .text c.subject)] ?_ ?_
  · -- The members are found in the order in which they are written.
    rw [long]
    refine finds_named _ (by decide) (by decide) (finds_step_text (by decide)) ?_
    refine finds_named _ (by decide) (by decide) (finds_step_text (by decide)) ?_
    refine finds_named _ (by decide) (by decide) (finds_step_int (by decide) fits.1 stops) ?_
    refine finds_named _ (by decide) (by decide) (finds_step_int (by decide) fits.2 stops) ?_
    refine finds_named _ (by decide) (by decide) (finds_step_text (by decide)) ?_
    exact finds_named_end
  · have issued := Json.int64?_int fits.1
    have expires := Json.int64?_int fits.2
    simp [ofJson?, Json.fields?, Json.Fields.required?, Json.Fields.defaulted?, Json.Fields.get?,
      List.lookup_cons, Json.text?, issued, expires]

/-- The claims `c`, if one of their times does not fit, are not read. -/
theorem fails_decoder (other : ¬c.FitsTimes) : Fails decoder (seen c.toJson.compress) := by
  obtain ⟨k, long⟩ := exists_length c
  have stops : Stops ',' := by decide
  rw [seen_toJson] at long ⊢
  rw [decoder_eq]
  refine Json.Decoder.fails_record ?_
  rw [long]
  refine .named (by decide) (by decide) (finds_step_text (by decide)) ?_
  refine .named (by decide) (by decide) (finds_step_text (by decide)) ?_
  by_cases issued : Fits c.issuedAt
  · refine .named (by decide) (by decide) (finds_step_int (by decide) issued stops) ?_
    exact fails_named (by decide) (by decide)
      (fails_step_int (by decide) (fun expires => other ⟨issued, expires⟩) stops)
  · exact fails_named (by decide) (by decide) (fails_step_int (by decide) issued stops)

theorem ofBytes?_encode (fits : c.FitsTimes) :
    ofBytes? (Utf8.encode c.toJson.compress) = some c := by
  rw [ofBytes?, Json.Decoder.run_of_finds (finds_decoder fits)]
  rfl

theorem ofBytes?_encode_of_not_fits (other : ¬c.FitsTimes) :
    ofBytes? (Utf8.encode c.toJson.compress) = none := by
  obtain ⟨flaw, refused⟩ := Json.Decoder.run_of_fails (fails_decoder other)
  rw [ofBytes?, refused]
  rfl

end Claims

namespace AccessToken

variable {c : Claims} {key issuer : String} {r : Remarks} {rest : List Char}

/-! ### Remarks -/

theorem finds_said {α : Type} {d : Json.Decoder α} {input : List Char} {a : α} {first : Char}
    (found : Finds d input a rest) (peeked : Finds Json.Decoder.peek input first input)
    (other : first ≠ 'n') (holds : α → Bool) : Finds (said holds d) input (holds a) rest := by
  exact .bind (found.nullable peeked other).attempt Json.Decoder.finds_pure

theorem finds_peek_quote {value : String} : Finds Json.Decoder.peek (seen (quote value) ++ rest) '"'
    (seen (quote value) ++ rest) := by
  rw [Json.Decoder.seen_quote_append]
  exact Json.Decoder.finds_peek rfl

/-- What is said of `c` when it is written. -/
def remarksOf (c : Claims) : Remarks where
  ends := 0 ≤ c.expiresAt
  subject := true
  issuer := true
  given := 3

theorem finds_remarks (fits : c.FitsTimes) :
    Finds remarks (seen c.toJson.compress) (remarksOf c) [] := by
  obtain ⟨k, long⟩ := c.exists_length
  have stops : Stops ',' := by decide
  rw [Claims.seen_toJson] at long ⊢
  refine .bind (Json.Decoder.finds_peek rfl) ?_
  refine Json.Decoder.finds_record (remarksOf c) ?_ ?_
  · rw [long]
    refine finds_named { subject := true, given := 1 } (by decide) (by decide) ?_ ?_
    · exact .bind (finds_said Json.Decoder.finds_text finds_peek_quote (by decide) _)
        Json.Decoder.finds_pure
    refine finds_named { subject := true, issuer := true, given := 2 }
      (by decide) (by decide) ?_ ?_
    · exact .bind (finds_said (Json.Decoder.finds_value_text 125) finds_peek_quote (by decide) _)
        Json.Decoder.finds_pure
    -- Nothing is said of the first second, which is passed over.
    refine finds_unnamed (by decide) (Json.Decoder.finds_ignored_int stops) ?_
    refine finds_named (remarksOf c) (by decide) (by decide) ?_ ?_
    · obtain ⟨first, peeked, start⟩ := Json.Decoder.finds_peek_number c.expiresAt
        (label false "jti" ++ (seen (quote c.id) ++ ['\x7d']))
      have other : first ≠ 'n' := by
        rintro rfl
        cases start
      exact .bind (finds_said (Json.Decoder.finds_plain_int fits.2 stops) peeked other _)
        Json.Decoder.finds_pure
    refine finds_unnamed (by decide) Json.Decoder.finds_ignored_text ?_
    exact finds_named_end
  · rfl

/-! ### The parts of a token -/

theorem cutLast?_append (before : List Char) {after : List Char} (free : '.' ∉ after) :
    cutLast? (before ++ '.' :: after) = some (before, after) := by
  have inside : ∀ d ∈ after.reverse, (d != '.') = true := fun d listed => by
    simpa using ne_of_mem_of_not_mem (List.mem_reverse.1 listed) free
  have reversed : (before ++ '.' :: after).reverse = after.reverse ++ '.' :: before.reverse := by
    simp
  rw [cutLast?, reversed, List.dropWhile_append_of_pos inside, List.takeWhile_append_of_pos inside]
  simp

/-- The `text` in base 64, as characters. -/
def letters (text : String) : List Char :=
  Base64.encode .url (Utf8.encode text)

theorem dotless_encode {bytes : List UInt8} : '.' ∉ Base64.encode .url bytes := fun listed =>
  Base64.forall_mem_encode (p := (· ≠ '.')) (by decide) _ listed rfl

/-- The text that is signed for `c`. -/
def signedText (c : Claims) : String :=
  part headerJson.compress ++ "." ++ part c.toJson.compress

/-- A token that is signed with `key` has three parts without dots. -/
theorem toList_sign (key : String) (c : Claims) : (sign key c).text.toList =
    letters headerJson.compress ++ '.' :: letters c.toJson.compress ++ '.' ::
      Base64.encode .url (signature key (signedText c)) := by
  simp [sign, signedText, part, letters]

theorem payload?_sign (key : String) (c : Claims) :
    (sign key c).payload? = some (letters c.toJson.compress) := by
  have inside {text : String} : ∀ d ∈ letters text, (d != '.') = true := fun d listed => by
    simpa using ne_of_mem_of_not_mem listed dotless_encode
  rw [payload?, toList_sign, List.append_assoc, List.dropWhile_append_of_pos inside,
    List.cons_append, List.dropWhile_cons_of_neg (by decide)]
  dsimp only
  rw [List.takeWhile_append_of_pos inside, List.takeWhile_cons_of_neg (by decide), List.append_nil]

theorem claims_sign_eq (key : String) (c : Claims) : (sign key c).claims =
    match Claims.ofBytes? (Utf8.encode c.toJson.compress) with
    | some claims => .ok claims
    | none => .error (.security "Token claims are unreadable") := by
  have unpadded : '=' ∉ letters c.toJson.compress := fun listed =>
    Base64.forall_mem_encode (p := (· ≠ '=')) (by decide) _ listed rfl
  have read : Base64.decode? .url (letters c.toJson.compress) =
      some (Utf8.encode c.toJson.compress) := Base64.decode?_encode
  rw [claims, payload?_sign]
  cases said : Claims.ofBytes? (Utf8.encode c.toJson.compress) <;>
    simp only [unpadded_of_not_mem unpadded, read, said]

/-- What is read of a token that has been signed is `c`, if its times fit. -/
theorem claims_sign (key : String) (fits : c.FitsTimes) : (sign key c).claims = .ok c := by
  rw [claims_sign_eq, Claims.ofBytes?_encode fits]

theorem claims_sign_of_not_fits (key : String) (other : ¬c.FitsTimes) :
    (sign key c).claims = .error (.security "Token claims are unreadable") := by
  rw [claims_sign_eq, Claims.ofBytes?_encode_of_not_fits other]

theorem checkClaims_remarksOf : checkClaims (remarksOf c) c issuer =
    if c.expiresAt < 0 then .error (refused "Missing required claim: exp")
    else if c.issuer ≠ issuer then .error (.security "Token issued by another authority")
    else .ok () := by
  by_cases before : c.expiresAt < 0
  · simp [checkClaims, remarksOf, before]
    rfl
  · by_cases same : c.issuer = issuer
    · simp [checkClaims, remarksOf, before, same]
      rfl
    · simp [checkClaims, remarksOf, before, same]
      rfl

/-- Whether a token that has been signed for `c` is accepted where `issuer` is expected. -/
theorem verify_sign (key issuer : String) (fits : c.FitsTimes) : verify key issuer (sign key c) =
    if c.expiresAt < 0 then .error (refused "Missing required claim: exp")
    else if c.issuer ≠ issuer then .error (.security "Token issued by another authority")
    else .ok c := by
  have header : (Json.ofBytes? (Utf8.encode headerJson.compress)).bind TokenHeader.method? =
      some signatureMethod := by decide +kernel
  have signed : String.ofList (letters headerJson.compress ++ '.' :: letters c.toJson.compress) =
      signedText c := by
    simp [signedText, part, letters, String.append_assoc]
  -- The last two dots cut the token into its parts.
  have dotless (bytes : List UInt8) : '.' ∉ Base64.encode .url bytes := dotless_encode
  have first := cutLast?_append (letters headerJson.compress ++ '.' :: letters c.toJson.compress)
    (dotless (signature key (signedText c)))
  have second := cutLast?_append (letters headerJson.compress)
    (dotless (Utf8.encode c.toJson.compress))
  have said : remarks.run (Utf8.encode c.toJson.compress) = .ok (remarksOf c) :=
    Json.Decoder.run_of_finds (finds_remarks fits)
  have headerRead : Base64.decode? .url (letters headerJson.compress) =
      some (Utf8.encode headerJson.compress) := Base64.decode?_encode
  have payloadRead : Base64.decode? .url (letters c.toJson.compress) =
      some (Utf8.encode c.toJson.compress) := Base64.decode?_encode
  rw [verify, toList_sign, first]
  simp only [show cutLast? (letters headerJson.compress ++ '.' :: letters c.toJson.compress) =
    some (letters headerJson.compress, letters c.toJson.compress) from second]
  have goes {α β : Type} (a : α) (f : α → Outcome β) : (Except.ok a >>= f) = f a := rfl
  have given {α : Type} (a : α) : orUnreadable (some a) = .ok a := rfl
  have remarked : (Except.ok (remarksOf c) : Except Json.Flaw Remarks).toOption =
      some (remarksOf c) := rfl
  simp only [headerRead, payloadRead, Base64.decode?_encode, given, goes, header, signed, ne_eq,
    not_true_eq_false, if_false, Claims.ofBytes?_encode fits, said, remarked, checkClaims_remarksOf]
  by_cases before : c.expiresAt < 0
  · simp only [if_pos before]
    rfl
  · by_cases same : c.issuer = issuer
    · simp only [if_neg before, not_not.2 same, if_false]
      rfl
    · simp only [if_neg before, if_pos same]
      rfl

end AccessToken

end GraphBroker
