import GraphBroker.Proofs.Access.Signing
import GraphBroker.Access.Registry

/-!
# Issuing, verifying and looking at a token

The authority that issues tokens verifies them, and its registry only looks at what they say. All
three agree: a token is verified to say what it was issued to say, by whoever expects its issuer and
by nobody else, and a token that is verified says to the registry what it says to the verifier.

## Main statements

* `verify_issue`: whether a token that has been issued is accepted.
* `expiringDate?_of_verify`: the registry knows when an accepted token ends.
* `readers_agree`: all of this together.
-/

namespace GraphBroker

open Json (Fits)

namespace AccessToken

variable {key subject issuer other id : String} {issuedAt period : Int} {t : AccessToken}
  {c : Claims}

/-- A token that has been issued with times that fit 64 bits, and that does not end before the
beginning of time, is accepted by those who expect its `issuer`, and by no `other`. -/
theorem verify_issue (key subject issuer other id : String) (issued : Fits issuedAt)
    (ends : Fits (issuedAt + period)) (later : 0 ≤ issuedAt + period) :
    verify key other (issue key subject issuer issuedAt period id) =
      if issuer ≠ other then .error (.security "Token issued by another authority")
      else .ok ⟨subject, issuer, issuedAt, issuedAt + period, id⟩ := by
  have fits : (Claims.mk subject issuer issuedAt (issuedAt + period) id).FitsTimes :=
    ⟨issued, ends⟩
  rw [issue, verify_sign key other fits, if_neg (Int.not_lt.2 later)]

/-- If the registry `r` holds a token `t` that is accepted, it knows when `t` ends. -/
theorem expiringDate?_of_verify {r : Registry} {uid : String} (held : r.token? uid = some t)
    (verified : verify key issuer t = .ok c) : r.expiringDate? uid = some c.expiresAt := by
  rw [Registry.expiringDate?, held, Option.map_some, claims_of_verify verified]

/-- A token that has been issued is read as the claims it was issued with, by whoever verifies it
under the same `key` and expects the same `issuer`, and is refused by whoever expects another one.
Whatever text is verified, its claims are also those that are read without verifying it, so that the
registry is never of another opinion. -/
theorem readers_agree (key issuer : String) :
    (∀ (subject id : String) (issuedAt period : Int), Fits issuedAt → Fits (issuedAt + period) →
      0 ≤ issuedAt + period →
      verify key issuer (issue key subject issuer issuedAt period id) =
        .ok ⟨subject, issuer, issuedAt, issuedAt + period, id⟩ ∧
      ∀ other, other ≠ issuer →
        verify key other (issue key subject issuer issuedAt period id) =
          .error (.security "Token issued by another authority")) ∧
    ∀ (text : String) (claims : Claims), verify key issuer ⟨text⟩ = .ok claims →
      (AccessToken.mk text).claims = .ok claims ∧
      ∀ (r : Registry) (uid : String), r.token? uid = some ⟨text⟩ →
        r.expiringDate? uid = some claims.expiresAt := by
  refine ⟨fun subject id issuedAt period issued ends later => ⟨?_, fun other differs => ?_⟩,
    fun text claims verified => ⟨claims_of_verify verified, fun r uid held => ?_⟩⟩
  · rw [verify_issue key subject issuer issuer id issued ends later, if_neg (not_not.2 rfl)]
  · rw [verify_issue key subject issuer other id issued ends later, if_pos differs.symm]
  · exact expiringDate?_of_verify held verified

/-- The token of a device with quotes in its name, which is good for a minute: it is accepted, it is
refused where another issuer is expected, and it can be looked at. -/
theorem readers_agree_quoted :
    let claims : Claims := ⟨"the \"first\" device", "urn:issuer", 1000, 1060, "t"⟩
    let token := issue "key" claims.subject claims.issuer 1000 60 claims.id
    verify "key" "urn:issuer" token = .ok claims ∧
      verify "key" "urn:other" token = .error (.security "Token issued by another authority") ∧
      token.claims = .ok claims := by
  intro claims token
  obtain ⟨issued, peeked⟩ := readers_agree "key" "urn:issuer"
  obtain ⟨accepted, refused⟩ :=
    issued claims.subject claims.id 1000 60 (by decide) (by decide) (by decide)
  exact ⟨accepted, refused "urn:other" (by decide), (peeked token.text claims accepted).1⟩

end AccessToken

end GraphBroker
