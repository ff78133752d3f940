import GraphBroker.Access.Signature
import GraphBroker.Proofs.Json.Values
import Mathlib.Data.List.TakeWhile

/-!
# The two readers of a token

A token is read in two ways: one reader checks the signature and looks for the parts from
the end, the other only wants the claims and looks for them from the start. They agree on
every token that is accepted, since neither a dot nor a padding sign is written in base 64.

## Main definitions

* `FailsSecurely`: an outcome that is no fault but one of security.
* `AccessToken.Accepted`: the parts of a token and what they say.

## Main statements

* `accepted_of_verify`: what a token is made of that is accepted.
* `claims_of_verify`: the other reader finds the same claims.
-/

namespace GraphBroker

/-! ### Faults of security -/

/-- If there is a fault in `outcome`, it is one of security. -/
def FailsSecurely {α : Type} (outcome : Outcome α) : Prop :=
  ∀ fault, outcome = .error fault → fault.kind = .security

namespace FailsSecurely

variable {α β : Type} {x : Outcome α} {f : α → Outcome β}

theorem ok {a : α} : FailsSecurely (.ok a : Outcome α) := nofun

theorem error {fault : Fault} (kind : fault.kind = .security) :
    FailsSecurely (.error fault : Outcome α) := by
  rintro _ ⟨⟩
  exact kind

theorem bind (first : FailsSecurely x) (second : ∀ a, x = .ok a → FailsSecurely (f a)) :
    FailsSecurely (x >>= f) := by
  cases given : x with
  | error fault =>
    rintro _ ⟨⟩
    exact first fault given
  | ok a => exact second a given

/-- A check of the condition `c`, before something else. -/
theorem check {c : Prop} [Decidable c] {fault : Fault} {next : PUnit → Outcome α}
    (kind : fault.kind = .security) (rest : FailsSecurely x) :
    FailsSecurely (if c then throw fault >>= next else x) := by
  split
  · exact error kind
  · exact rest

end FailsSecurely

namespace Base64

variable {alphabet : Alphabet} {cs : List Char} {bytes : List UInt8} {c : Char}

/-- A character `c` outside the alphabet is not read. -/
theorem not_mem_of_decode? (other : value? alphabet c = none)
    (read : decode? alphabet cs = some bytes) : c ∉ cs := by
  intro listed
  obtain ⟨digits, values, -⟩ := Option.bind_eq_some_iff.1 read
  have digit := Json.isSome_of_mapM_eq_some values c listed
  rw [other] at digit
  cases digit

end Base64

namespace AccessToken

variable {key issuer : String} {t : AccessToken} {c : Claims}

/-- What is cut off, here `after`, is what follows the last dot. -/
theorem of_cutLast? {text before after : List Char} (cut : cutLast? text = some (before, after)) :
    text = before ++ '.' :: after ∧ '.' ∉ after := by
  unfold cutLast? at cut
  split at cut
  · cases cut
  · rename_i d rest found
    obtain ⟨rfl, rfl⟩ := Prod.mk.inj (Option.some.inj cut)
    -- The search from the end stops at a dot only.
    have dot : d = '.' := by
      have stops := List.head?_dropWhile_not (· != '.') text.reverse
      simpa [found] using stops
    refine ⟨?_, fun listed => ?_⟩
    · have whole := List.takeWhile_append_dropWhile (p := (· != '.')) (l := text.reverse)
      rw [found, dot] at whole
      calc text = text.reverse.reverse := (List.reverse_reverse text).symm
        _ = (text.reverse.takeWhile (· != '.') ++ '.' :: rest).reverse := by rw [whole]
        _ = _ := by simp
    · simpa using List.mem_takeWhile_imp (List.mem_reverse.1 listed)

/-- The token `t` has three parts with dots between them, the header names the method of the
signature, the signature is right, and the payload says what the claims `c` are. -/
structure Accepted (key issuer : String) (t : AccessToken) (c : Claims) : Prop where
  /-- The parts, with the bytes of the header and of the payload. -/
  parts : ∃ (header payload tag : List Char) (described bytes : List UInt8),
    t.text.toList = header ++ '.' :: payload ++ '.' :: tag ∧
    '.' ∉ header ∧ '.' ∉ payload ∧ '.' ∉ tag ∧
    Base64.decode? .url header = some described ∧
    (Json.ofBytes? described).bind TokenHeader.method? = some signatureMethod ∧
    Base64.decode? .url tag = some (signature key (String.ofList (header ++ '.' :: payload))) ∧
    Base64.decode? .url payload = some bytes ∧ Claims.ofBytes? bytes = some c
  /-- The issuer of `c` is the one expected. -/
  issuer : c.issuer = issuer

theorem orUnreadable_eq_ok {α : Type} {value : Option α} {a : α} :
    orUnreadable value = .ok a ↔ value = some a := by
  cases value <;> simp [orUnreadable]

theorem issuer_of_checkClaims {remarks : Remarks} {result : Unit}
    (checked : checkClaims remarks c issuer = .ok result) : c.issuer = issuer := by
  unfold checkClaims at checked
  dsimp only at checked
  iterate 4
    split at checked
    · cases checked
  rename_i same
  exact Decidable.not_not.1 same

/-- What a token `t` is made of that is accepted. -/
theorem accepted_of_verify (verified : verify key issuer t = .ok c) : Accepted key issuer t c := by
  unfold verify at verified
  split at verified
  · cases verified
  · rename_i signed tag last
    split at verified
    · cases verified
    · rename_i header payload middle
      obtain ⟨whole, dotlessTag⟩ := of_cutLast? last
      obtain ⟨rfl, dotless⟩ := of_cutLast? middle
      -- Every check is passed, and each of them says something of the token.
      obtain ⟨headerBytes, headerRead, verified⟩ := bind_eq_ok_iff.1 verified
      obtain ⟨method, named, verified⟩ := bind_eq_ok_iff.1 verified
      split at verified
      · cases verified
      rename_i same
      obtain ⟨given, tagRead, verified⟩ := bind_eq_ok_iff.1 verified
      split at verified
      · cases verified
      rename_i right
      obtain ⟨bytes, payloadRead, verified⟩ := bind_eq_ok_iff.1 verified
      obtain ⟨claims, said, verified⟩ := bind_eq_ok_iff.1 verified
      obtain ⟨remarks, -, verified⟩ := bind_eq_ok_iff.1 verified
      obtain ⟨_, checked, verified⟩ := bind_eq_ok_iff.1 verified
      cases verified
      rw [orUnreadable_eq_ok] at headerRead named tagRead payloadRead said
      obtain rfl : method = signatureMethod := Decidable.not_not.1 same
      have right : given = signature key (String.ofList (header ++ '.' :: payload)) := by
        simpa using right
      have dotlessHeader : '.' ∉ header := Base64.not_mem_of_decode? (by decide) headerRead
      exact ⟨⟨header, payload, tag, headerBytes, bytes, whole, dotlessHeader, dotless, dotlessTag,
        headerRead, named, right ▸ tagRead, payloadRead, said⟩, issuer_of_checkClaims checked⟩

theorem unpadded_of_not_mem {cs : List Char} (none : '=' ∉ cs) : unpadded cs = cs := by
  have kept : cs.reverse.dropWhile (· == '=') = cs.reverse := by
    cases reversed : cs.reverse with
    | nil => rfl
    | cons d rest =>
      have other : d ≠ '=' := by
        rintro rfl
        exact none (List.mem_reverse.1 (reversed ▸ List.mem_cons_self))
      rw [List.dropWhile_cons_of_neg (by simpa using other)]
  rw [unpadded, kept, List.reverse_reverse]

/-- The claims of a token `t` that is accepted are those that are read without checking it. -/
theorem claims_of_verify (verified : verify key issuer t = .ok c) : t.claims = .ok c := by
  obtain ⟨header, payload, tag, _, bytes, whole, dotlessHeader, dotless, -, -, -, -, payloadRead,
    said⟩ := (accepted_of_verify verified).parts
  have unsigned : '=' ∉ payload := Base64.not_mem_of_decode? (by decide) payloadRead
  -- Neither part has a dot in it, so that both readers cut the token at the same places.
  have before : ∀ d ∈ header, (d != '.') = true := by
    simpa using fun d listed => ne_of_mem_of_not_mem listed dotlessHeader
  have inside : ∀ d ∈ payload, (d != '.') = true := by
    simpa using fun d listed => ne_of_mem_of_not_mem listed dotless
  have middle : t.payload? = some payload := by
    rw [payload?, whole, List.append_assoc, List.dropWhile_append_of_pos before, List.cons_append,
      List.dropWhile_cons_of_neg (by decide)]
    dsimp only
    rw [List.takeWhile_append_of_pos inside, List.takeWhile_cons_of_neg (by decide),
      List.append_nil]
  rw [claims, middle]
  dsimp only
  rw [unpadded_of_not_mem unsigned, payloadRead]
  dsimp only
  rw [said]

/-! ### Faults -/

theorem failsSecurely_orUnreadable {α : Type} {value : Option α} :
    FailsSecurely (orUnreadable value) := by
  cases value with
  | none => exact .error rfl
  | some a => exact .ok

theorem failsSecurely_checkClaims {remarks : Remarks} :
    FailsSecurely (checkClaims remarks c issuer) := by
  unfold checkClaims
  refine .check rfl (.check rfl (.check rfl (.check rfl ?_)))
  split
  · exact .error rfl
  · exact .ok

/-- A token `t` that is not accepted is refused for reasons of security. -/
theorem failsSecurely_verify : FailsSecurely (verify key issuer t) := by
  unfold verify
  split
  · exact .error rfl
  · split
    · exact .error rfl
    · refine .bind failsSecurely_orUnreadable fun _ _ => ?_
      refine .bind failsSecurely_orUnreadable fun _ _ => .check rfl ?_
      refine .bind failsSecurely_orUnreadable fun _ _ => .check rfl ?_
      refine .bind failsSecurely_orUnreadable fun _ _ => ?_
      refine .bind failsSecurely_orUnreadable fun _ _ => ?_
      refine .bind failsSecurely_orUnreadable fun _ _ => ?_
      exact .bind failsSecurely_checkClaims fun _ _ => .ok

end AccessToken

end GraphBroker
