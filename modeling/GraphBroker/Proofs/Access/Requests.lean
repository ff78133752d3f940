import GraphBroker.Proofs.Access.Calls
import GraphBroker.Proofs.Access.Signing

/-!
# Requests for tokens

A client that shows its secret gets a token: the one it holds while that is good, or else a new
one, which it holds from then on. A new token is read again as the claims it was made of, unless
its times do not fit 64 bits, in which case the request is refused and nothing has changed.

## Main definitions

* `Authority.freshClaims`, `Authority.freshToken`: a new token and what it says.
* `Authority.Answers`: how a request for a token is answered.

## Main statements

* `requestToken_of_none`, `requestToken_of_held`: who gets which token.
* `answers_requestToken`: a request is answered in one of three ways.
-/

namespace GraphBroker

open Std

namespace Registry

variable {r : Registry} {uid other : String} {record : Record} {token : AccessToken}
  {claims : Claims} {now : Int} {issue : Int → Outcome AccessToken}

/-! ### Tokens held -/

theorem goodToken?_eq_some : goodToken? record now = some token ↔
    record.token = some token ∧ ∃ claims, token.claims = .ok claims ∧
      claims.isExpired now = false := by
  rw [goodToken?, Option.filter_eq_some_iff]
  refine and_congr_right fun _ => ?_
  cases token.claims with
  | error fault => simp
  | ok claims => simp

theorem addToken_eq (read : token.claims = .ok claims) : r.addToken uid token =
    (.ok (), r.modify uid ({ · with token := some token, period := claims.period })) := by
  simp only [addToken, read]

/-- The token held by `uid` is handed out while it is good. -/
theorem currentOrIssue_of_good (known : r.get? uid = some record)
    (good : goodToken? record now = some token) :
    r.currentOrIssue uid now issue = (.ok token, r) := by
  simp only [currentOrIssue, known, good]

/-- Else a new `token` is handed out, and held from then on. -/
theorem currentOrIssue_of_issued (known : r.get? uid = some record)
    (none : goodToken? record now = none) (issued : issue record.period = .ok token)
    (read : token.claims = .ok claims) : r.currentOrIssue uid now issue =
      (.ok token, r.modify uid ({ · with token := some token, period := claims.period })) := by
  simp only [currentOrIssue, known, none, issued, addToken_eq read]

/-- Whether a token is handed out: the one held by `uid`, or a new one that is held from then on. -/
theorem currentOrIssue_cases (r : Registry) (uid : String) (now : Int)
    (issue : Int → Outcome AccessToken) :
    (∃ fault, r.currentOrIssue uid now issue = (.error fault, r)) ∨
    ∃ record token claims, r.get? uid = some record ∧ token.claims = .ok claims ∧
      (record.token = some token ∧ claims.isExpired now = false ∧
          r.currentOrIssue uid now issue = (.ok token, r) ∨
        issue record.period = .ok token ∧ r.currentOrIssue uid now issue =
          (.ok token, r.modify uid ({ · with token := some token, period := claims.period }))) := by
  cases known : r.get? uid with
  | none =>
    refine .inl ⟨.security ("Unknown client: " ++ uid), ?_⟩
    simp only [currentOrIssue, known]
  | some record =>
    cases good : goodToken? record now with
    | some token =>
      obtain ⟨held, claims, read, unexpired⟩ := goodToken?_eq_some.1 good
      exact .inr ⟨record, token, claims, rfl, read,
        .inl ⟨held, unexpired, currentOrIssue_of_good known good⟩⟩
    | none =>
      cases issued : issue record.period with
      | error fault => exact .inl ⟨fault, by simp only [currentOrIssue, known, good, issued]⟩
      | ok token =>
        cases read : token.claims with
        | error fault =>
          exact .inl ⟨fault, by simp only [currentOrIssue, known, good, issued, addToken, read]⟩
        | ok claims =>
          exact .inr ⟨record, token, claims, rfl, read,
            .inr ⟨issued, currentOrIssue_of_issued known good issued read⟩⟩

end Registry

namespace Authority

variable {a : Authority} {uid secret header id : String} {record : Record} {now period : Int}
  {token : AccessToken} {claims : Claims}

/-! ### Requests -/

/-- What a client is told of `token`. -/
def tokenGrant (token : AccessToken) (claims : Claims) : TokenGrant where
  accessToken := token.text
  expiresIn := claims.period
  issuedAt := claims.issuedAt
  expiresAt := claims.expiresAt

theorem bind_grant (read : token.claims = .ok claims) :
    (Except.ok token : Outcome AccessToken).bind grant = .ok (tokenGrant token claims) := by
  dsimp only [Except.bind]
  rw [grant, read]
  rfl

/-- The claims of a new token for `uid`. -/
def freshClaims (a : Authority) (uid : String) (now period : Int) (id : String) : Claims :=
  ⟨uid, a.registry.issuer, now, now + period, id⟩

@[simp] theorem period_freshClaims : (a.freshClaims uid now period id).period = period := by
  dsimp only [Claims.period, freshClaims]
  omega

/-- A new token is not past its time `now`. -/
theorem isExpired_freshClaims (good : 0 ≤ period) :
    (a.freshClaims uid now period id).isExpired now = false := by
  rw [Claims.isExpired, period_freshClaims]
  dsimp only [freshClaims]
  exact decide_eq_false (by omega)

/-- A new token for `uid`, which is told from all others by its name `id`. -/
def freshToken (a : Authority) (uid : String) (now period : Int) (id : String) : AccessToken :=
  .sign a.key (a.freshClaims uid now period id)

/-- The authority `a` once `uid` holds `token`. -/
def hold (a : Authority) (uid : String) (token : AccessToken) (claims : Claims) : Authority :=
  let held (record : Record) := { record with token := some token, period := claims.period }
  { a with registry := a.registry.modify uid held }

/-- A request of `uid`, which is known and has shown its `secret`. -/
theorem requestToken_eq (named : Header.basic header = .ok (uid, secret))
    (checked : a.registry.checkCredentials uid secret) (allowed : a.registry.isAuthorized uid) :
    a.requestToken now header id =
      let answer := a.registry.currentOrIssue uid now fun period =>
        .ok (a.freshToken uid now period id)
      (answer.1.bind grant, { a with registry := answer.2 }) := by
  simp only [requestToken, named, checked, allowed, Bool.not_true, Bool.false_eq_true, if_false]
  rfl

/-- If `uid` holds no token which is good, it gets a new one, provided that its times fit 64
bits. -/
theorem requestToken_of_not_good (now : Int) (id : String)
    (named : Header.basic header = .ok (uid, secret))
    (checked : a.registry.checkCredentials uid secret) (allowed : a.registry.isAuthorized uid)
    (known : a.registry.get? uid = some record)
    (notGood : Registry.goodToken? record now = .none)
    (fits : (a.freshClaims uid now record.period id).FitsTimes) :
    a.requestToken now header id =
      (.ok (tokenGrant (a.freshToken uid now record.period id)
          (a.freshClaims uid now record.period id)),
        a.hold uid (a.freshToken uid now record.period id)
          (a.freshClaims uid now record.period id)) := by
  have read : (a.freshToken uid now record.period id).claims = .ok _ :=
    AccessToken.claims_sign a.key fits
  rw [requestToken_eq named checked allowed,
    Registry.currentOrIssue_of_issued known notGood rfl read]
  dsimp only
  rw [bind_grant read]
  rfl

/-- If `uid` holds no token, it gets a new one, provided that its times fit 64 bits. -/
theorem requestToken_of_none (now : Int) (id : String)
    (named : Header.basic header = .ok (uid, secret))
    (checked : a.registry.checkCredentials uid secret) (allowed : a.registry.isAuthorized uid)
    (known : a.registry.get? uid = some record) (none : record.token = none)
    (fits : (a.freshClaims uid now record.period id).FitsTimes) :
    a.requestToken now header id =
      (.ok (tokenGrant (a.freshToken uid now record.period id)
          (a.freshClaims uid now record.period id)),
        a.hold uid (a.freshToken uid now record.period id)
          (a.freshClaims uid now record.period id)) :=
  requestToken_of_not_good now id named checked allowed known
    (by rw [Registry.goodToken?, none]; rfl) fits

/-- If `uid` holds a `token` which is good, it gets this one. -/
theorem requestToken_of_held (named : Header.basic header = .ok (uid, secret))
    (checked : a.registry.checkCredentials uid secret) (allowed : a.registry.isAuthorized uid)
    (known : a.registry.get? uid = some record) (held : record.token = some token)
    (read : token.claims = .ok claims) (unexpired : claims.isExpired now = false) :
    a.requestToken now header id = (.ok (tokenGrant token claims), a) := by
  rw [requestToken_eq named checked allowed, Registry.currentOrIssue_of_good known
    (Registry.goodToken?_eq_some.2 ⟨held, claims, read, unexpired⟩)]
  dsimp only
  rw [bind_grant read]

/-- How a request for a token with this `header` is answered by `a`. -/
inductive Answers (a : Authority) (now : Int) (header id : String) :
    Outcome TokenGrant × Authority → Prop
  /-- It is refused with `fault`. -/
  | refused (fault : Fault) : Answers a now header id (.error fault, a)
  /-- The token held is handed out. -/
  | held {uid secret : String} {record : Record} {token : AccessToken} {claims : Claims}
    (named : Header.basic header = .ok (uid, secret)) (allowed : a.registry.isAuthorized uid)
    (known : a.registry.get? uid = some record) (held : record.token = some token)
    (read : token.claims = .ok claims) (unexpired : claims.isExpired now = false) :
    Answers a now header id (.ok (tokenGrant token claims), a)
  /-- A new token is handed out. -/
  | issued {uid secret : String} {record : Record} {claims : Claims}
    (named : Header.basic header = .ok (uid, secret)) (allowed : a.registry.isAuthorized uid)
    (known : a.registry.get? uid = some record)
    (fresh : claims = a.freshClaims uid now record.period id) (fits : claims.FitsTimes) :
    Answers a now header id
      (.ok (tokenGrant (.sign a.key claims) claims), a.hold uid (.sign a.key claims) claims)

/-- A request for a token is refused, or the token held or a new one is handed out: there are no
other `Answers`. -/
theorem answers_requestToken (a : Authority) (now : Int) (header id : String) :
    a.Answers now header id (a.requestToken now header id) := by
  cases named : Header.basic header with
  | error fault =>
    rw [requestToken, named]
    exact .refused fault
  | ok pair =>
    obtain ⟨uid, secret⟩ := pair
    by_cases checked : a.registry.checkCredentials uid secret = true
    case neg =>
      simp only [requestToken, named, checked, Bool.not_false, if_true]
      exact .refused _
    by_cases allowed : a.registry.isAuthorized uid = true
    case neg =>
      simp only [requestToken, named, checked, allowed, Bool.not_false, Bool.not_true,
        Bool.false_eq_true, if_true, if_false]
      exact .refused _
    rw [requestToken_eq named checked allowed]
    rcases a.registry.currentOrIssue_cases uid now
      fun period => .ok (a.freshToken uid now period id) with
      ⟨fault, answer⟩ | ⟨record, token, claims, known, read, ⟨held, unexpired, answer⟩ |
        ⟨issued, answer⟩⟩
    · rw [answer]
      exact .refused fault
    · rw [answer]
      dsimp only
      rw [bind_grant read]
      exact .held named allowed known held read unexpired
    · -- What a new token says is read only if its times fit.
      obtain rfl := Except.ok.inj issued
      have fits : (a.freshClaims uid now record.period id).FitsTimes := by
        by_contra other
        cases read.symm.trans (AccessToken.claims_sign_of_not_fits a.key other)
      have fresh := Except.ok.inj (read.symm.trans (AccessToken.claims_sign a.key fits))
      rw [answer]
      dsimp only
      rw [bind_grant read, freshToken, ← fresh]
      exact .issued named allowed known fresh (fresh ▸ fits)

end Authority

end GraphBroker
