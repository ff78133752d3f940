import GraphBroker.Proofs.Access.Headers
import GraphBroker.Proofs.Access.Records
import GraphBroker.Proofs.Access.Revocation

/-!
# Tokens handed out and accepted

A client that has registered gets a token, and the token is accepted, if there is no colon in the
name of the client: else the header with its name and secret names another client. A token that
is handed out is accepted as long as its issuer is the one that is set. The token that a client
holds is handed out without a look at its issuer, so that after another issuer has been set the
client gets a token that is refused.

## Main statements

* `validate_sign`: whether a signed token is accepted.
* `registered_gets_token`: clients that have registered get tokens.
* `granted_token_accepted`: which tokens that are handed out are accepted.
-/

namespace GraphBroker

namespace AccessToken

variable {key : String} {c : Claims}

/-- A token that is signed with `key` is read from the header that shows it. -/
theorem bearer_sign : Header.bearer ("Bearer " ++ (sign key c).text) = .ok (sign key c).text := by
  have solid {bytes : List UInt8} : ∀ d ∈ Base64.encode .url bytes, Text.isBlank d = false :=
    Base64.forall_mem_encode (by decide)
  have dot : Text.isBlank '.' = false := rfl
  refine Header.bearer_append (fun d listed => ?_) fun empty => ?_
  · rw [toList_sign, List.mem_append, List.mem_append, List.mem_cons, List.mem_cons] at listed
    rcases listed with (first | rfl | second) | rfl | third
    · exact solid d first
    · exact dot
    · exact solid d second
    · exact dot
    · exact solid d third
  · have none := toList_sign key c
    rw [empty] at none
    simp at none

end AccessToken

namespace Authority

open Registry (get?_put get?_modify)

variable {a after : Authority} {uid secret header id : String} {identity : DigitalIdentity}
  {now : Int} {token : AccessToken} {claims : Claims} {grant : TokenGrant}
  {issuers : String → Prop}

/-! ### Showing a token -/

/-- Whether the token that is signed with `claims` is accepted, if it is not past its time and names
a client that may use the broker. -/
theorem validate_sign (fits : claims.FitsTimes) (allowed : a.registry.isAuthorized claims.subject)
    (unexpired : claims.isExpired now = false) :
    a.validate now (some ("Bearer " ++ (AccessToken.sign a.key claims).text)) =
      if claims.expiresAt < 0 then
        .error (AccessToken.refused "Missing required claim: exp")
      else if claims.issuer ≠ a.registry.issuer then
        .error (.security "Token issued by another authority")
      else .ok claims := by
  rw [← AccessToken.verify_sign a.key a.registry.issuer fits]
  -- The checks that come after the signature are passed by these claims.
  cases verified : AccessToken.verify a.key a.registry.issuer (.sign a.key claims) with
  | error fault =>
    simp only [validate, AccessToken.bearer_sign, bind, Except.bind]
    rw [verified]
  | ok accepted =>
    obtain rfl : accepted = claims := Except.ok.inj
      ((AccessToken.claims_of_verify verified).symm.trans (AccessToken.claims_sign a.key fits))
    simp only [validate, AccessToken.bearer_sign, bind, Except.bind]
    rw [verified]
    simp only [allowed, unexpired, Bool.not_true, Bool.false_eq_true, if_false]
    rfl

@[simp] theorem isAuthorized_hold {other : String} :
    (a.hold uid token claims).registry.isAuthorized other = a.registry.isAuthorized other := by
  simp only [Registry.isAuthorized, hold, get?_modify]
  split
  · exact Option.any_map ..
  · rfl

@[simp] theorem issuer_hold : (a.hold uid token claims).registry.issuer = a.registry.issuer := by
  unfold hold Registry.modify
  dsimp only
  split <;> rfl

/-- A new token of `uid` is accepted, if it ends after the beginning of time. -/
theorem validate_freshToken {period : Int} (allowed : a.registry.isAuthorized uid)
    (fits : (a.freshClaims uid now period id).FitsTimes) (good : 0 ≤ period)
    (ends : 0 ≤ now + period) :
    (a.hold uid (a.freshToken uid now period id) (a.freshClaims uid now period id)).validate now
      (some ("Bearer " ++ (a.freshToken uid now period id).text)) =
        .ok (a.freshClaims uid now period id) := by
  have accepted := validate_sign
    (a := a.hold uid (a.freshToken uid now period id) (a.freshClaims uid now period id)) fits
    (by rwa [isAuthorized_hold]) (isExpired_freshClaims good)
  have later : ¬(a.freshClaims uid now period id).expiresAt < 0 := Int.not_lt.2 ends
  have same : (a.freshClaims uid now period id).issuer = a.registry.issuer := rfl
  rw [issuer_hold, if_neg later, if_neg (not_not.2 same)] at accepted
  exact accepted

/-! ### Registering -/

/-- The record of the client `identity` when it has just registered with `secret`. -/
def clientRecord (a : Authority) (identity : DigitalIdentity) (secret : String) : Record where
  identity := identity
  secret := some (.ofSecret secret)
  period := a.registry.initialPeriod identity

/-- The client `uid`, if it is known and may use the broker, can register. -/
theorem register_of_known (named : a.Named) (known : a.registry.identity? uid = some identity)
    (allowed : a.registry.isAuthorized uid) : a.register uid secret =
      (.ok ⟨uid, secret, none⟩,
        { a with registry := a.registry.put uid (a.clientRecord identity secret) }) := by
  obtain ⟨record, found, rfl⟩ := Option.map_eq_some_iff.1 known
  -- The secret is stored under the name in the record.
  have same : record.identity.uid = uid := named uid record found
  have authorized : record.authorized := by rwa [Registry.isAuthorized, found] at allowed
  have stored : a.registry.storeCredentials record.identity secret =
      (true, a.registry.put uid (a.clientRecord record.identity secret)) := by
    rw [Registry.storeCredentials, same, found, Option.all_some, authorized, if_pos rfl]
    rfl
  simp only [register, known, allowed, Option.filter_some, if_true, stored]

/-- Every client `uid` that is known and may use the broker can register. It then gets a token that
is accepted, if there is no colon in its name, and the times of the token fit 64 bits and end after
the beginning of time. If there is a colon, its name and `secret` name another client. -/
theorem registered_gets_token {config : AuthConfig} (built : a.registry = .ofConfig config)
    (calls : List Call) (periods : (a.run calls).registry.expiry.NonNegative)
    (known : (a.run calls).registry.identity? uid = some identity)
    (allowed : (a.run calls).registry.isAuthorized uid) (secret id : String) (now : Int) :
    ∃ registered, (a.run calls).register uid secret = (.ok ⟨uid, secret, none⟩, registered) ∧
      (':' ∉ uid.toList → Json.Fits now →
        Json.Fits (now + (a.run calls).registry.initialPeriod identity) →
        0 ≤ now + (a.run calls).registry.initialPeriod identity →
        ∃ grant after claims,
          registered.requestToken now (Header.ofPair uid secret) id = (.ok grant, after) ∧
          after.validate now (some ("Bearer " ++ grant.accessToken)) = .ok claims ∧
          claims.subject = uid) ∧
      (':' ∈ uid.toList → ∃ other rest,
        Header.basic (Header.ofPair uid secret) = .ok (other, rest) ∧ other ≠ uid) := by
  refine ⟨_, register_of_known (named_run built calls) known allowed, ?_,
    Header.basic_ofPair_of_colon⟩
  intro colonless fits fitsEnd ends
  have good := Registry.initialPeriod_nonneg periods identity
  generalize a.run calls = b at *
  generalize put : b.registry.put uid (b.clientRecord identity secret) = registry
  -- The record is a new one, so that no token is held yet.
  have found : registry.get? uid = some (b.clientRecord identity secret) := by
    rw [← put, get?_put, if_pos rfl]
  have checked : registry.checkCredentials uid secret := by
    rw [Registry.checkCredentials, found]
    exact StoredSecret.verify_ofSecret.2 rfl
  have authorized : registry.isAuthorized uid := by
    rw [Registry.isAuthorized, found]
    rfl
  exact ⟨_, _, _, requestToken_of_none now id (Header.basic_ofPair colonless) checked authorized
    found rfl ⟨fits, fitsEnd⟩, validate_freshToken authorized ⟨fits, fitsEnd⟩ good ends, rfl⟩

/-- The client `"device"` has registered, and gets a token, which is accepted. -/
theorem registered_gets_token_device :
    ∃ registered, withDevice.register "device" "s" = (.ok ⟨"device", "s", none⟩, registered) ∧
      ∃ grant after claims,
        registered.requestToken 60 (Header.ofPair "device" "s") "t" = (.ok grant, after) ∧
        after.validate 60 (some ("Bearer " ++ grant.accessToken)) = .ok claims ∧
        claims.subject = "device" := by
  have built : withDevice.registry = .ofConfig deviceConfig := rfl
  have known : withDevice.registry.identity? "device" = some ⟨"device", .device, none⟩ := by
    decide +kernel
  obtain ⟨registered, answer, gets, -⟩ := registered_gets_token built []
    ⟨by decide, by decide, by decide, by decide, by decide⟩ known (by decide +kernel) "s" "t" 60
  exact ⟨registered, answer, gets (by decide) (by decide) (by decide +kernel) (by decide +kernel)⟩

/-- A device whose name has a colon. -/
def iriConfig : AuthConfig where
  identities := [⟨"urn:dev", .device⟩]

/-- An authority that knows it. -/
def withIri : Authority :=
  ⟨.ofConfig iriConfig, "key", true⟩

/-- The device `"urn:dev"` of `iriConfig` can register, but its name and secret are taken for those
of another client. -/
theorem no_token_for_colon :
    ∃ registered, withIri.register "urn:dev" "s" = (.ok ⟨"urn:dev", "s", none⟩, registered) ∧
      registered.requestToken 0 (Header.ofPair "urn:dev" "s") "t" =
        (.error (.security "Client credentials are not valid"), registered) := by
  have built : withIri.registry = .ofConfig iriConfig := rfl
  have known : withIri.registry.identity? "urn:dev" = some ⟨"urn:dev", .device, none⟩ := by
    decide +kernel
  have taken : Header.basic (Header.ofPair "urn:dev" "s") = .ok ("urn", "dev:s") :=
    Header.basic_ofPair_eq_ok (by decide)
  refine ⟨_, register_of_known (named_run built []) known (by decide +kernel), ?_⟩
  have unknown : (withIri.registry.put "urn:dev" (withIri.clientRecord
    ⟨"urn:dev", .device, none⟩ "s")).checkCredentials "urn" "dev:s" = false := by decide +kernel
  simp only [requestToken, taken, unknown, Bool.not_false, if_true]

/-! ### Tokens handed out -/

/-- The token in `grant` is signed, has the `claims`, names a client that may use the broker, and is
not past its time `now`. -/
structure Backs (a : Authority) (now : Int) (uid : String) (grant : TokenGrant)
    (claims : Claims) : Prop where
  /-- The token is signed. -/
  text : grant.accessToken = (AccessToken.sign a.key claims).text
  /-- It names the client `uid`. -/
  subject : claims.subject = uid
  /-- Its times fit 64 bits. -/
  fits : claims.FitsTimes
  /-- It is not past its time. -/
  unexpired : claims.isExpired now = false
  /-- The client may use the broker. -/
  allowed : a.registry.isAuthorized uid

theorem Backs.validate (backs : a.Backs now uid grant claims) :
    a.validate now (some ("Bearer " ++ grant.accessToken)) =
      if claims.expiresAt < 0 then
        .error (AccessToken.refused "Missing required claim: exp")
      else if claims.issuer ≠ a.registry.issuer then
        .error (.security "Token issued by another authority")
      else .ok claims := by
  rw [backs.text]
  exact validate_sign backs.fits (backs.subject.symm ▸ backs.allowed) backs.unexpired

/-- The token of `grant` is accepted, if the issuer is still the same. -/
theorem Backs.accepted (backs : a.Backs now uid grant claims)
    (same : claims.issuer = a.registry.issuer) (later : 0 ≤ now) :
    a.validate now (some ("Bearer " ++ grant.accessToken)) = .ok claims := by
  have unexpired := backs.unexpired
  have ends : ¬claims.expiresAt < 0 := by
    rw [Claims.isExpired, Claims.period, decide_eq_false_iff_not] at unexpired
    omega
  rw [backs.validate, if_neg ends, if_neg (not_not.2 same)]

theorem Backs.unique {other : Claims} (backs : a.Backs now uid grant claims)
    (backsOther : a.Backs now uid grant other) : claims = other := by
  have same : AccessToken.sign a.key claims = AccessToken.sign a.key other :=
    congrArg AccessToken.mk (backs.text.symm.trans backsOther.text)
  have read := AccessToken.claims_sign a.key backs.fits
  rw [same, AccessToken.claims_sign a.key backsOther.fits] at read
  exact (Except.ok.inj read).symm

/-- Who gets a token is named in `header`. -/
theorem named_of_granted (granted : a.requestToken now header id = (.ok grant, after)) :
    ∃ uid secret, Header.basic header = .ok (uid, secret) := by
  have answered := answers_requestToken a now header id
  rw [granted] at answered
  cases answered with
  | held named => exact ⟨_, _, named⟩
  | issued named => exact ⟨_, _, named⟩

/-- If `uid` holds no token, it holds none of another issuer. -/
theorem Sound.of_none (sound : a.Sound issuers uid) (none : a.registry.token? uid = none) :
    a.Sound (· = a.registry.issuer) uid := by
  refine ⟨rfl, sound.expiry, fun record found => ⟨(sound.record record found).period, ?_⟩⟩
  intro token held
  rw [Registry.token?, found, Option.bind_some, held] at none
  cases none

/-- A token that is handed out was signed for `uid`, by one of the `issuers`, as all of them are. -/
theorem Sound.granted (sound : a.Sound issuers uid)
    (named : Header.basic header = .ok (uid, secret))
    (granted : a.requestToken now header id = (.ok grant, after)) :
    after.registry.issuer = a.registry.issuer ∧
      ∃ claims, after.Backs now uid grant claims ∧ issuers claims.issuer := by
  have answered := answers_requestToken a now header id
  rw [granted] at answered
  cases answered with
  | @held other _ record token claims namedOther allowed known held read unexpired =>
    obtain ⟨rfl, -⟩ := Prod.mk.inj (Except.ok.inj (named.symm.trans namedOther))
    obtain ⟨signed, rfl, subject, fits, issuer⟩ := (sound.record record known).token token held
    obtain rfl := Except.ok.inj (read.symm.trans (AccessToken.claims_sign a.key fits))
    exact ⟨rfl, claims, ⟨rfl, subject, fits, unexpired, allowed⟩, issuer⟩
  | @issued other _ record claims namedOther allowed known fresh fits =>
    obtain ⟨rfl, -⟩ := Prod.mk.inj (Except.ok.inj (named.symm.trans namedOther))
    have good := (sound.record record known).period
    refine ⟨issuer_hold, claims, ⟨rfl, congrArg Claims.subject fresh, fits, ?_, ?_⟩, ?_⟩
    · exact fresh ▸ isExpired_freshClaims good
    · rwa [isAuthorized_hold]
    · exact fresh ▸ sound.issuer

/-- A token that is handed out in a `grant` was signed for the client that `header` names. It is
accepted if it ends after the beginning of time and the issuer is still the same, and this is so
unless another issuer has been set `since` the client last held no token. -/
theorem granted_token_accepted {config : AuthConfig} (built : a.registry = .ofConfig config)
    (periods : config.expiry.NonNegative) {calls : List Call}
    (proper : ∀ call ∈ calls, call.Proper)
    (granted : (a.run calls).requestToken now header id = (.ok grant, after)) :
    ∃ uid secret claims, Header.basic header = .ok (uid, secret) ∧ claims.subject = uid ∧
      after.validate now (some ("Bearer " ++ grant.accessToken)) =
        (if claims.expiresAt < 0 then
          .error (AccessToken.refused "Missing required claim: exp")
        else if claims.issuer ≠ after.registry.issuer then
          .error (.security "Token issued by another authority")
        else .ok claims) ∧
      (0 ≤ now → ∀ before since, calls = before ++ since →
        (a.run before).registry.token? uid = none →
        (∀ issuer, .setIssuer issuer ∈ since → issuer = (a.run before).registry.issuer) →
        after.validate now (some ("Bearer " ++ grant.accessToken)) = .ok claims) := by
  obtain ⟨uid, secret, named⟩ := named_of_granted granted
  have start := sound_of_ofConfig built periods uid
  obtain ⟨-, claims, backs, -⟩ :=
    (start.run proper fun _ _ => trivial).granted named granted
  refine ⟨uid, secret, claims, named, backs.subject, backs.validate, ?_⟩
  rintro later before since rfl none same
  -- Once the client holds no token, all its tokens are of the one issuer.
  have half : (a.run before).Sound (fun _ => True) uid :=
    start.run (fun call listed => proper call (List.mem_append_left _ listed)) fun _ _ => trivial
  have whole := (half.of_none none).run
    (fun call listed => proper call (List.mem_append_right _ listed)) same
  rw [run, List.foldl_append] at granted
  obtain ⟨sameIssuer, other, backsOther, issuer⟩ := whole.granted named granted
  obtain rfl := backs.unique backsOther
  exact backs.accepted (issuer.trans (whole.issuer.symm.trans sameIssuer.symm)) later

/-- The `token` that has been handed out last is handed out again while it is good, whatever issuer
has been set since. -/
theorem requestToken_hold (named : Header.basic header = .ok (uid, secret))
    (checked : a.registry.checkCredentials uid secret) (allowed : a.registry.isAuthorized uid)
    (read : token.claims = .ok claims) (unexpired : claims.isExpired now = false)
    (issuer : String) :
    ((a.hold uid token claims).perform (.setIssuer issuer)).requestToken now header id =
      (.ok (tokenGrant token claims), (a.hold uid token claims).perform (.setIssuer issuer)) := by
  obtain ⟨record, known, -⟩ := (Option.any_eq_true _ _).1 allowed
  have held : (a.hold uid token claims).registry.get? uid =
      some { record with token := some token, period := claims.period } := by
    rw [hold, get?_modify, if_pos rfl, known]
    rfl
  refine requestToken_of_held named ?_ ?_ held rfl read unexpired
  · rw [Registry.checkCredentials, known] at checked
    change (a.hold uid token claims).registry.checkCredentials uid secret = true
    rwa [Registry.checkCredentials, held]
  · change (a.hold uid token claims).registry.isAuthorized uid = true
    rwa [isAuthorized_hold]

/-- What a device shows to get a token. -/
def deviceHeader : String :=
  Header.ofPair "device" "s"

theorem basic_deviceHeader : Header.basic deviceHeader = .ok ("device", "s") :=
  Header.basic_ofPair (by decide)

/-- The authority once the device has registered. -/
def enrolled : Authority :=
  withDevice.run [.register "device" "s"]

/-- The record of the device then. -/
def enrolledRecord : Record where
  identity := ⟨"device", .device, none⟩
  secret := some (.ofSecret "s")
  period := 3600

/-- The authority once the device has got a token and an issuer has been set. -/
theorem run_deviceCalls (issuer : String) :
    withDevice.run [.register "device" "s", .requestToken 0 deviceHeader "t", .setIssuer issuer] =
      (enrolled.hold "device" (enrolled.freshToken "device" 0 3600 "t")
        (enrolled.freshClaims "device" 0 3600 "t")).perform (.setIssuer issuer) := by
  have known : enrolled.registry.get? "device" = some enrolledRecord := by decide +kernel
  have answer := requestToken_of_none 0 "t" basic_deviceHeader (by decide +kernel)
    (by decide +kernel) known rfl ⟨by decide, by decide⟩
  have asked : enrolled.perform (.requestToken 0 deviceHeader "t") =
      (enrolled.requestToken 0 deviceHeader "t").2 := by rw [perform]
  rw [answer] at asked
  exact congrArg (perform · (.setIssuer issuer)) asked

/-- As long as the token of `enrolled` is good the device gets it again, whatever `issuer` is
set. -/
theorem requestToken_deviceCalls {now : Int} (good : now ≤ 3600) (issuer : String) :
    (withDevice.run [.register "device" "s", .requestToken 0 deviceHeader "t",
      .setIssuer issuer]).requestToken now deviceHeader "u" =
      (.ok (tokenGrant (enrolled.freshToken "device" 0 3600 "t")
        (enrolled.freshClaims "device" 0 3600 "t")), withDevice.run [.register "device" "s",
          .requestToken 0 deviceHeader "t", .setIssuer issuer]) := by
  rw [run_deviceCalls]
  refine requestToken_hold basic_deviceHeader (by decide +kernel) (by decide +kernel)
    (AccessToken.claims_sign _ ⟨by decide, by decide⟩) ?_ issuer
  rw [Claims.isExpired, period_freshClaims]
  exact decide_eq_false (Int.not_lt.2 good)

/-- If the same issuer is set again, the token is still accepted. -/
theorem granted_token_accepted_twice :
    ∃ grant after claims, (withDevice.run [.register "device" "s",
        .requestToken 0 deviceHeader "t", .setIssuer deviceConfig.issuer]).requestToken 60
        deviceHeader "u" = (.ok grant, after) ∧
      after.validate 60 (some ("Bearer " ++ grant.accessToken)) = .ok claims ∧
      claims.subject = "device" := by
  have built : withDevice.registry = .ofConfig deviceConfig := rfl
  have good : (60 : Int) ≤ 3600 := by decide
  have granted := requestToken_deviceCalls good deviceConfig.issuer
  obtain ⟨uid, secret, claims, named, subject, -, accepted⟩ := granted_token_accepted built
    ⟨by decide, by decide, by decide, by decide, by decide⟩ (by simp [Call.Proper]) granted
  obtain ⟨rfl, -⟩ := Prod.mk.inj (Except.ok.inj (basic_deviceHeader.symm.trans named))
  refine ⟨_, _, claims, granted, accepted (by decide) [] _ rfl (by decide +kernel) ?_, subject⟩
  intro issuer listed
  have set : issuer = deviceConfig.issuer := by simpa using listed
  exact set

/-- After another issuer has been set, the device gets the token that it held, which is refused. -/
theorem held_token_refused :
    ∃ grant after, (withDevice.run [.register "device" "s", .requestToken 0 deviceHeader "t",
        .setIssuer "other"]).requestToken 0 deviceHeader "u" = (.ok grant, after) ∧
      after.validate 0 (some ("Bearer " ++ grant.accessToken)) =
        .error (.security "Token issued by another authority") := by
  refine ⟨_, _, requestToken_deviceCalls (by decide) "other", ?_⟩
  rw [run_deviceCalls]
  generalize made : enrolled.hold "device" _ _ = after
  have fits : (enrolled.freshClaims "device" 0 3600 "t").FitsTimes := ⟨by decide, by decide⟩
  have unexpired : (enrolled.freshClaims "device" 0 3600 "t").isExpired 0 = false := by decide
  have allowed : after.registry.isAuthorized "device" := by
    rw [← made, isAuthorized_hold]
    decide +kernel
  have refused := validate_sign (a := after.perform (.setIssuer "other")) fits allowed unexpired
  have other : (enrolled.freshClaims "device" 0 3600 "t").issuer ≠
      (after.perform (.setIssuer "other")).registry.issuer :=
    show (enrolled.freshClaims "device" 0 3600 "t").issuer ≠ "other" by decide
  have sameKey : (after.perform (.setIssuer "other")).key = enrolled.key := by
    rw [← made]
    rfl
  rw [sameKey, if_neg (by decide), if_pos other] at refused
  exact refused

end Authority

end GraphBroker
