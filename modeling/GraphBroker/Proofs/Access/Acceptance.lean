import GraphBroker.Proofs.Access.Refreshes

/-!
# When a token is accepted

The checks of a token are the same at all times but for the last one. So a token that fails one of
the others fails it at all times, and is refused in the same way. A token that passes them is
accepted up to the second at which it ends, and from then on refused because of its age. No other
token is said to be too old: what a client with a good token hears is that it needs a new one.

## Main definitions

* `Authority.vouched`: the claims of a token that passes all checks but that of its age.

## Main statements

* `validate_eq`: the age of a token is looked at last.
* `vouched_eq_ok`: what passes the other checks.
* `validity_ends_once`: what is said of a token at all times.
-/

namespace GraphBroker.Authority

variable {a : Authority} {header : Option String} {now : Int} {claims : Claims}

/-- The claims of the token in `header`, however old it is, if its subject may use the broker. -/
def vouched (a : Authority) (header : Option String) : Outcome Claims := do
  let some given := header | throw (.security "Missing bearer token")
  let text ← Header.bearer given
  let claims ← AccessToken.verify a.key a.registry.issuer ⟨text⟩
  if !a.registry.isAuthorized claims.subject then
    throw (notAuthorized ("Client " ++ claims.subject))
  return claims

/-- The age of a token is looked at last: what `validate` answers is what is `vouched` for, unless
this is expired `now`. -/
theorem validate_eq (a : Authority) (header : Option String) (now : Int) :
    a.validate now header = a.vouched header >>= fun claims =>
      if claims.isExpired now then .error (.tokenExpired "Token is expired") else .ok claims := by
  cases header with
  | none => rfl
  | some given =>
    simp only [validate, vouched, bind_assoc]
    congr 1
    funext text
    congr 1
    funext claims
    split
    · rfl
    · rfl

theorem failsSecurely_bearer (given : String) : FailsSecurely (Header.bearer given) := by
  unfold Header.bearer
  split
  · split
    · exact .error rfl
    · exact .ok
  · exact .error rfl

/-- All checks but the one of the age are about security. -/
theorem failsSecurely_vouched (a : Authority) (header : Option String) :
    FailsSecurely (a.vouched header) := by
  cases header with
  | none => exact .error rfl
  | some given =>
    refine .bind (failsSecurely_bearer given) fun text _ => ?_
    exact .bind AccessToken.failsSecurely_verify fun claims _ => .check rfl .ok

theorem vouched_eq_ok (found : a.vouched header = .ok claims) :
    ∃ given text, header = some given ∧ Header.bearer given = .ok text ∧
      AccessToken.Accepted a.key a.registry.issuer ⟨text⟩ claims ∧
      ∃ record, a.registry.get? claims.subject = some record ∧ record.authorized := by
  cases header with
  | none => cases found
  | some given =>
    obtain ⟨text, shown, found⟩ := bind_eq_ok_iff.1 found
    obtain ⟨accepted, verified, found⟩ := bind_eq_ok_iff.1 found
    split at found
    · cases found
    rename_i allowed
    cases found
    refine ⟨given, text, rfl, shown, AccessToken.accepted_of_verify verified, ?_⟩
    simpa [Registry.isAuthorized, Option.any_eq_true] using allowed

/-- Whatever `header` shows, it is refused at all times for the same `fault` of security, or there
are `claims` that are accepted up to the second `claims.expiresAt` and too old from then on. These
are the payload of a token whose signature is right (`AccessToken.Accepted`), its issuer is the one
that is set, and its subject is known and has not been revoked. -/
theorem validity_ends_once (a : Authority) (header : Option String) :
    (a.enabled → ∀ now, a.authorize now header = (a.validate now header).map some) ∧
    ((∃ fault : Fault, fault.kind = .security ∧ ∀ now, a.validate now header = .error fault) ∨
      ∃ claims : Claims, (∀ now ≤ claims.expiresAt, a.validate now header = .ok claims) ∧
        (∀ now > claims.expiresAt,
          a.validate now header = .error (.tokenExpired "Token is expired")) ∧
        ∃ given text, header = some given ∧ Header.bearer given = .ok text ∧
          AccessToken.Accepted a.key a.registry.issuer ⟨text⟩ claims ∧
          ∃ record, a.registry.get? claims.subject = some record ∧ record.authorized) := by
  refine ⟨fun enabled now => if_pos enabled, ?_⟩
  cases found : a.vouched header with
  | error fault =>
    refine .inl ⟨fault, failsSecurely_vouched a header fault found, fun now => ?_⟩
    rw [validate_eq, found]
    rfl
  | ok claims =>
    have passed (now : Int) : a.validate now header =
        if claims.isExpired now then .error (.tokenExpired "Token is expired")
        else .ok claims := by
      rw [validate_eq, found]
      rfl
    refine .inr ⟨claims, fun now good => ?_, fun now late => ?_, vouched_eq_ok found⟩
    · rw [passed, isExpired_eq_false_iff.2 good]
      rfl
    · have old : claims.isExpired now = true := by
        rw [← Bool.not_eq_false, isExpired_eq_false_iff]
        exact Int.not_le.2 late
      rw [passed, old]
      rfl

/-- The header with a token for the device that is good for an hour. -/
def hourHeader : String :=
  "Bearer " ++ (enrolled.freshToken "device" 0 3600 "t").text

/-- In its last second the token of `hourHeader` is accepted, in the next one it is too old. -/
theorem validity_ends_once_hour :
    enrolled.validate 3600 (some hourHeader) = .ok (enrolled.freshClaims "device" 0 3600 "t") ∧
      enrolled.validate 3601 (some hourHeader) = .error (.tokenExpired "Token is expired") := by
  have fits : (enrolled.freshClaims "device" 0 3600 "t").FitsTimes := ⟨by decide, by decide⟩
  have allowed : enrolled.registry.isAuthorized "device" := by decide +kernel
  have unexpired : (enrolled.freshClaims "device" 0 3600 "t").isExpired 0 = false := by decide
  have start : enrolled.validate 0 (some hourHeader) =
      .ok (enrolled.freshClaims "device" 0 3600 "t") := validate_sign fits allowed unexpired
  obtain ⟨-, ⟨fault, -, failed⟩ | ⟨claims, good, late, -⟩⟩ :=
    validity_ends_once enrolled (some hourHeader)
  · rw [failed] at start
    cases start
  · -- What is accepted at the start is what the theorem tells of.
    have same : claims = enrolled.freshClaims "device" 0 3600 "t" := by
      by_cases before : 0 ≤ claims.expiresAt
      · rw [good 0 before] at start
        exact Except.ok.inj start
      · rw [late 0 (Int.not_le.1 before)] at start
        cases start
    subst same
    exact ⟨good 3600 (by decide), late 3601 (by decide)⟩

end GraphBroker.Authority
