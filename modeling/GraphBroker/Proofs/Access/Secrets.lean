import GraphBroker.Proofs.Access.Standing

/-!
# The secret stored last

Whatever has been asked of the authority, the secret of an identity is the one stored last, unless
it has been forgotten since, and storing one is refused only to an identity that has been revoked.
A secret that is stored starts a new record, while an identity that is added again keeps all but
its description. Nothing of this can be told by asking about another identity.

## Main definitions

* `Observation`, `Registry.observe`: all that the registry answers about an identity.
* `Observation.ofSecret`: the answers about an identity that has just been given a secret.
* `Authority.Call.uid?`: the identity that a call names.

## Main statements

* `observe_storeCredentials`, `observe_addIdentity`: what is answered after these calls.
* `observe_perform`: a call does not change what is answered about another identity.
* `secret_stored_last`: which secrets are accepted along a run, and what storing one does.
-/

namespace GraphBroker

/-- For how long a token for a class of identities is good, with the settings `c`. -/
def ExpiryConfig.ofClass (c : ExpiryConfig) : IdentityClass → Int
  | .device => c.device
  | .application => c.application
  | .user => c.user
  | .test => c.other

/-- All that the registry answers about an identity. -/
structure Observation where
  /-- How it is described. -/
  identity : Option DigitalIdentity
  /-- What is presented to a query engine on its behalf. -/
  endpoint : Option Credentials
  /-- Whether it may use the broker. -/
  authorized : Bool
  /-- Whether it is listed for tests. -/
  exempt : Bool
  /-- Whether it has a secret. -/
  registered : Bool
  /-- Which texts are accepted as its secret. -/
  accepts : String → Bool
  /-- Its token. -/
  token : Option AccessToken
  /-- Whether it has a token. -/
  hasToken : Bool
  /-- The last second at which its token is good. -/
  expiringDate : Option Int
  /-- For how many seconds its tokens are good. -/
  period : Int

/-- The answers about `identity` when it has just been given `secret`. -/
def Observation.ofSecret (identity : DigitalIdentity) (secret : String) (exempt : Bool)
    (period : Int) : Observation where
  identity := some identity
  endpoint := identity.endpoint
  authorized := true
  exempt := exempt
  registered := true
  accepts := (secret == ·)
  token := none
  hasToken := false
  expiringDate := none
  period := period

/-- The answers about an identity that has this `record`. -/
def Record.observe (record : Record) (exempt : Bool) : Observation where
  identity := some record.identity
  endpoint := record.identity.endpoint
  authorized := record.authorized
  exempt := exempt
  registered := record.secret.isSome
  accepts := fun secret => record.secret.any (·.verify secret)
  token := record.token
  hasToken := record.token.isSome
  expiringDate := match record.token.map AccessToken.claims with
    | some (.ok claims) => some claims.expiresAt
    | _ => none
  period := record.period

namespace Registry

variable {r s : Registry} {uid secret : String} {record : Record} {identity : DigitalIdentity}

/-- The answers of the registry `r` about `uid`. -/
def observe (r : Registry) (uid : String) : Observation where
  identity := r.identity? uid
  endpoint := r.endpoint? uid
  authorized := r.isAuthorized uid
  exempt := r.isExempt uid
  registered := r.containsCredentials uid
  accepts := r.checkCredentials uid
  token := r.token? uid
  hasToken := r.containsToken uid
  expiringDate := r.expiringDate? uid
  period := r.expiringPeriod uid

/-- The answers about `uid` depend on its record and on whether it is listed for tests, so that `r`
and `s` may differ in anything else. -/
theorem observe_congr (same : s.get? uid = r.get? uid) (exempt : s.isExempt uid = r.isExempt uid) :
    s.observe uid = r.observe uid := by
  have accepts : s.checkCredentials uid = r.checkCredentials uid :=
    funext fun _ => by rw [checkCredentials, checkCredentials, same]
  simp only [observe, endpoint?, identity?, isAuthorized, containsCredentials, containsToken,
    expiringDate?, token?, expiringPeriod, same, exempt, accepts]

theorem observe_of_known (known : r.get? uid = some record) :
    r.observe uid = record.observe (r.isExempt uid) := by
  have accepts : r.checkCredentials uid = fun secret => record.secret.any (·.verify secret) :=
    funext fun _ => by rw [checkCredentials, known, Option.bind_some]
  simp only [observe, endpoint?, identity?, isAuthorized, containsCredentials, containsToken,
    expiringDate?, token?, expiringPeriod, known, accepts]
  rfl

theorem initialPeriod_eq : r.initialPeriod identity =
    if r.isExempt identity.uid then r.expiry.test else r.expiry.ofClass identity.kind := by
  unfold initialPeriod
  cases identity.kind <;> rfl

/-- A `secret` that is stored starts a new record. -/
theorem observe_storeCredentials (stored : (r.storeCredentials identity secret).1) :
    (r.storeCredentials identity secret).2.observe identity.uid =
      .ofSecret identity secret (r.isExempt identity.uid) (r.initialPeriod identity) := by
  have allowed : (r.get? identity.uid).all (·.authorized) := by
    rwa [fst_storeCredentials, all_standing?] at stored
  rw [storeCredentials, if_pos allowed]
  exact observe_of_known (get?_put.trans (if_pos rfl))

/-- If `identity` is known, it keeps all but its description when it is added again. -/
theorem observe_addIdentity (known : (r.identity? identity.uid).isSome) :
    (r.addIdentity identity).observe identity.uid =
      { r.observe identity.uid with
        identity := some identity
        endpoint := identity.endpoint } := by
  obtain ⟨record, found⟩ := Option.isSome_iff_exists.1 (Option.isSome_map.symm.trans known)
  have after : (r.addIdentity identity).get? identity.uid = some { record with identity } := by
    rw [get?_addIdentity, if_pos rfl, found]
    rfl
  have exempt : (r.addIdentity identity).isExempt identity.uid = r.isExempt identity.uid := by
    rw [isExempt, (Step.addIdentity identity).exempt, isExempt]
  rw [observe_of_known after, observe_of_known found, exempt]
  rfl

end Registry

namespace Authority

variable {a b : Authority} {uid : String} {call : Call}

/-- The identity that a call names, if it names one. -/
def Call.uid? : Call → Option String
  | .addIdentity identity | .storeCredentials identity _ => some identity.uid
  | .revoke uid | .removeCredentials uid | .addToken uid _ | .removeToken uid
  | .currentOrIssue uid _ _ | .setExpiringPeriod uid _ | .register uid _ => some uid
  | .setExpiry _ | .setIssuer _ | .shutdown => none
  | .requestToken _ header _ => (Header.basic header).toOption.map (·.1)

theorem Call.apart_of_uid? (different : call.uid? ≠ some uid) (notShutdown : call ≠ .shutdown) :
    call.Apart uid := by
  cases call with
  | setExpiry => trivial
  | setIssuer => trivial
  | shutdown => exact notShutdown rfl
  | requestToken now header id =>
    change Header.names uid header = false
    unfold Header.names
    split
    · rename_i name secret named
      refine beq_eq_false_iff_ne.2 fun same => different ?_
      rw [uid?, named, same]
      rfl
    · rfl
  | _ => exact fun same => different (congrArg some same)

/-- A `call` does not change what is answered about `uid` if it does not name it. -/
theorem observe_perform (named : a.Named) (different : call.uid? ≠ some uid)
    (notShutdown : call ≠ .shutdown) :
    (a.perform call).registry.observe uid = a.registry.observe uid :=
  Registry.observe_congr (get?_perform_of_apart named (Call.apart_of_uid? different notShutdown))
    (isExempt_run [call] uid)

/-- Along every run from the settings, the secret that is accepted for `uid` is the one that was
stored last (`writes`), if none has been forgotten since. A secret is stored unless the identity is
known and has been revoked, and starts a new record, while an identity that is added again keeps all
but its description. What is answered about `uid` is not changed by a `call` that names another
identity. -/
theorem secret_stored_last {config : AuthConfig} (built : a.registry = .ofConfig config)
    (calls : List Call) (reached : a.run calls = b) (uid : String) :
    (∀ secret, b.registry.checkCredentials uid secret ↔
      (a.writes uid calls).getLast? = some (some secret)) ∧
    (∀ (identity : DigitalIdentity) (secret : String), identity.uid = uid →
      ((b.registry.storeCredentials identity secret).1 ↔
        b.registry.identity? uid = none ∨ b.registry.isAuthorized uid) ∧
      ((b.registry.storeCredentials identity secret).1 ↔ ¬a.Revokes uid calls) ∧
      ((b.registry.storeCredentials identity secret).1 →
        (b.registry.storeCredentials identity secret).2.observe uid =
          .ofSecret identity secret (decide (uid ∈ config.testIdentities))
            (if uid ∈ config.testIdentities then b.registry.expiry.test
              else b.registry.expiry.ofClass identity.kind))) ∧
    (∀ identity : DigitalIdentity, identity.uid = uid → (b.registry.identity? uid).isSome →
      (b.registry.addIdentity identity).observe uid =
        { b.registry.observe uid with
          identity := some identity
          endpoint := identity.endpoint }) ∧
    ∀ call : Call, call.uid? ≠ some uid → call ≠ .shutdown →
      (b.perform call).registry.observe uid = b.registry.observe uid := by
  subst reached
  have start : a.Named := named_run built []
  have named : (a.run calls).Named := start.run calls
  have exempt : (a.run calls).registry.isExempt uid = decide (uid ∈ config.testIdentities) := by
    rw [isExempt_run, Registry.isExempt, built, Registry.exempt_ofConfig, List.contains_eq_mem]
  refine ⟨fun secret => ?_, fun identity secret same => ?_, ?_, ?_⟩
  · rw [Registry.checkCredentials_iff]
    change (a.run calls).secret? uid = _ ↔ _
    rw [secret?_run start, secret?_of_ofConfig built]
    cases (a.writes uid calls).getLast? with
    | none => simp
    | some written => cases written <;> simp [StoredSecret.ofSecret]
  · subst same
    refine ⟨?_, ?_, fun stored => ?_⟩
    · rw [Registry.fst_storeCredentials, Registry.all_standing?, Registry.identity?,
        Registry.isAuthorized]
      cases (a.run calls).registry.get? identity.uid <;> simp
    · rw [Registry.fst_storeCredentials]
      exact allowed_run start (allowed_of_ofConfig built _) calls
    · rw [Registry.observe_storeCredentials stored, Registry.initialPeriod_eq, exempt]
      simp only [decide_eq_true_eq]
  · rintro identity rfl known
    exact Registry.observe_addIdentity known
  · exact fun call different notShutdown => observe_perform named different notShutdown

/-- A device registers and is given another secret, which is forgotten, and a third one, before it
is revoked. -/
def deviceSecrets : List Call :=
  [.register "device" "s", .storeCredentials ⟨"device", .device, none⟩ "t",
    .removeCredentials "device", .storeCredentials ⟨"device", .user, none⟩ "u",
    .revoke "device", .storeCredentials ⟨"device", .device, none⟩ "v"]

/-- Of the `deviceSecrets`, the one accepted in the end is the last one that was stored before the
device was revoked, and no other one can be stored. The identity for tests can be given a secret,
which is good for a token of five seconds, and does not notice what is set for the device. -/
theorem secret_stored_last_device :
    withDevice.writes "device" deviceSecrets = [some "s", some "t", none, some "u"] ∧
    (withDevice.run deviceSecrets).registry.checkCredentials "device" "u" ∧
    ((withDevice.run deviceSecrets).registry.storeCredentials
      ⟨"device", .device, none⟩ "w").1 = false ∧
    ((withDevice.run deviceSecrets).registry.storeCredentials
      ⟨"probe", .user, none⟩ "p").2.observe "probe" =
        .ofSecret ⟨"probe", .user, none⟩ "p" true 5 ∧
    ((withDevice.run deviceSecrets).perform (.setExpiringPeriod "device" 0)).registry.observe
      "probe" = (withDevice.run deviceSecrets).registry.observe "probe" := by
  have built : withDevice.registry = .ofConfig deviceConfig := rfl
  have written : withDevice.writes "device" deviceSecrets =
    [some "s", some "t", none, some "u"] := by decide +kernel
  have revoked : withDevice.Revokes "device" deviceSecrets :=
    ⟨deviceSecrets.take 4, deviceSecrets.drop 5, rfl, by decide, by decide +kernel⟩
  obtain ⟨accepted, stores, -, -⟩ := secret_stored_last built deviceSecrets rfl "device"
  obtain ⟨-, storesProbe, -, apart⟩ := secret_stored_last built deviceSecrets rfl "probe"
  have refused := (stores ⟨"device", .device, none⟩ "w" rfl).2.1.not.2 (not_not.2 revoked)
  have given := (storesProbe ⟨"probe", .user, none⟩ "p" rfl).2.2 (by decide +kernel)
  exact ⟨written, (accepted "u").2 (by rw [written]; rfl), Bool.eq_false_iff.2 refused, given,
    apart _ (by decide) nofun⟩

end Authority

end GraphBroker
