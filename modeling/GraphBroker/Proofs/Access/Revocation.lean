import GraphBroker.Proofs.Access.Calls
import GraphBroker.Proofs.Access.Tokens

/-!
# Revocation is for good

An identity that has been revoked stays revoked whatever is asked of the authority later. It
cannot register again, gets no token, and no token that names it is accepted. The identities
listed for tests are never revoked.

## Main definitions

* `Registry.Revoked`: the identity has a record that says so.
* `Authority.ShutsOut`: what an identity may no longer do.

## Main statements

* `isAuthorized_run_of_exempt`: who is listed for tests may use the broker at all times.
* `revoked_run`: an identity that has been revoked stays revoked.
* `revoked_for_good`: it is shut out along every run, and who is listed for tests never is.
-/

namespace GraphBroker

namespace Registry

/-- The identity `uid` is known and has been revoked. -/
def Revoked (r : Registry) (uid : String) : Prop :=
  ∃ record, r.get? uid = some record ∧ record.authorized = false

variable {r : Registry} {uid : String}

theorem Revoked.isAuthorized (revoked : r.Revoked uid) : r.isAuthorized uid = false := by
  obtain ⟨record, known, denied⟩ := revoked
  rw [Registry.isAuthorized, known, Option.any_some, denied]

/-- No `secret` is stored for a revoked identity. -/
theorem Revoked.storeCredentials (revoked : r.Revoked uid) {identity : DigitalIdentity}
    (named : identity.uid = uid) (secret : String) :
    r.storeCredentials identity secret = (false, r) := by
  obtain ⟨record, known, denied⟩ := revoked
  rw [Registry.storeCredentials, named, known, Option.all_some, denied]
  rfl

theorem revoked_revoke (notExempt : r.isExempt uid = false) (known : (r.get? uid).isSome) :
    (r.revoke uid).Revoked uid := by
  obtain ⟨record, found⟩ := Option.isSome_iff_exists.1 known
  refine ⟨{ record with authorized := false }, ?_, rfl⟩
  rw [revoke, notExempt, if_neg Bool.false_ne_true, get?_modify, if_pos rfl, found]
  rfl

/-! ### Who is listed for tests -/

theorem get?_addIdentity {identity : DigitalIdentity} : (r.addIdentity identity).get? uid =
    if identity.uid = uid then
      some (((r.get? uid).map ({ · with identity })).getD
        { identity, period := r.initialPeriod identity })
    else r.get? uid := by
  unfold addIdentity
  split <;> rename_i found <;> rw [get?_put] <;> split
  · rename_i named
    rw [← named, found]
    rfl
  · rfl
  · rename_i named
    rw [← named, found]
    rfl
  · rfl

/-- If `uid` is known and may use the broker, or is listed in `identities` and not known yet, it is
known and may use the broker once these are added. -/
theorem isAuthorized_foldl_addIdentity {identities : List DigitalIdentity}
    (allowed : r.isAuthorized uid ∨
      r.get? uid = none ∧ ∃ identity ∈ identities, identity.uid = uid) :
    (identities.foldl addIdentity r).isAuthorized uid := by
  -- An identity that is listed becomes known on the way, and from then on stays allowed.
  induction identities generalizing r with
  | nil =>
    rcases allowed with allowed | ⟨-, _, listed, -⟩
    · exact allowed
    · cases listed
  | cons identity rest ih =>
    refine ih ?_
    unfold isAuthorized
    rw [get?_addIdentity]
    rcases allowed with allowed | ⟨unknown, other, listed, named⟩
    · obtain ⟨record, known, authorized⟩ := (Option.any_eq_true _ _).1 allowed
      rw [known]
      split <;> exact .inl authorized
    · rw [unknown]
      split
      · exact .inl rfl
      · rename_i different
        refine .inr ⟨rfl, other, ?_, named⟩
        rcases List.mem_cons.1 listed with rfl | later
        · exact absurd named different
        · exact later

theorem exempt_ofConfig (config : AuthConfig) :
    (ofConfig config).exempt = config.testIdentities := by
  have kept (identities : List DigitalIdentity) (r : Registry) :
      (identities.foldl addIdentity r).exempt = r.exempt := by
    induction identities generalizing r with
    | nil => rfl
    | cons identity rest ih => rw [List.foldl_cons, ih, (Step.addIdentity identity).exempt]
  exact kept _ _

theorem isAuthorized_ofConfig {config : AuthConfig} (listed : uid ∈ config.testIdentities) :
    (ofConfig config).isAuthorized uid :=
  isAuthorized_foldl_addIdentity (.inr ⟨Std.ExtTreeMap.getElem?_empty, _,
    List.mem_append_left _ (List.mem_map_of_mem listed), rfl⟩)

end Registry

namespace Authority

variable {a : Authority} {uid : String}

/-! ### Every run -/

/-- If `uid` is exempt and may use the broker, this stays so, whatever the `calls`. -/
theorem isAuthorized_run_of_exempt (exempt : a.registry.isExempt uid)
    (allowed : a.registry.isAuthorized uid) (calls : List Call) :
    (a.run calls).registry.isAuthorized uid := by
  refine run_induction (motive := fun found => found.any (·.authorized) = true) ?_ allowed calls
  intro before after change authorized
  cases change with
  | unchanged => exact authorized
  | added => rfl
  | noted same => exact same.trans authorized
  | renewed => rfl
  | revoked notExempt =>
    rw [exempt] at notExempt
    cases notExempt

/-- If `uid` has been revoked it stays revoked, whatever the `calls`. -/
theorem revoked_run (revoked : a.registry.Revoked uid) (calls : List Call) :
    (a.run calls).registry.Revoked uid := by
  refine run_induction (motive := fun found =>
    ∃ record, found = some record ∧ record.authorized = false) ?_ revoked calls
  rintro before after change ⟨record, rfl, denied⟩
  -- A record is not added twice, and a new secret needs one that is not revoked.
  cases change with
  | unchanged => exact ⟨record, rfl, denied⟩
  | noted same => exact ⟨_, rfl, same.trans denied⟩
  | renewed _ _ _ allowed =>
    rw [Option.all_some, denied] at allowed
    cases allowed
  | revoked => exact ⟨_, rfl, rfl⟩

/-! ### What a revoked identity may not do -/

/-- If `uid` may not use the broker, or is not known, it cannot register. -/
theorem register_of_denied (denied : a.registry.isAuthorized uid = false) (secret : String) :
    a.register uid secret = (.error (notAuthorized ("Client identity " ++ uid)), a) := by
  have none : (a.registry.identity? uid).filter (fun _ => a.registry.isAuthorized uid) = none := by
    rw [denied]
    cases a.registry.identity? uid <;> rfl
  unfold register
  simp only [none]

/-- If `uid` has been revoked it gets no token. -/
theorem requestToken_of_revoked (revoked : a.registry.Revoked uid) {header secret : String}
    (named : Header.basic header = .ok (uid, secret)) (now : Int) (id : String) :
    ∃ fault, a.requestToken now header id = (.error fault, a) := by
  unfold requestToken
  rw [named]
  dsimp only
  split
  · exact ⟨_, rfl⟩
  · rw [revoked.isAuthorized]
    exact ⟨_, rfl⟩

/-- No token that names a revoked identity `uid` is accepted, even when it is past its time. -/
theorem validate_of_revoked (revoked : a.registry.Revoked uid) {header text : String}
    {claims : Claims} (given : Header.bearer header = .ok text)
    (read : (AccessToken.mk text).claims = .ok claims) (names : claims.subject = uid) (now : Int) :
    ∃ fault, a.validate now (some header) = .error fault ∧ fault.kind = .security := by
  cases verified : AccessToken.verify a.key a.registry.issuer ⟨text⟩ with
  | error fault =>
    refine ⟨fault, ?_, AccessToken.failsSecurely_verify fault verified⟩
    simp only [validate, given, verified, bind, Except.bind]
  | ok accepted =>
    -- Both readers find the same claims, so that the registry is asked about the identity.
    obtain rfl : accepted = claims :=
      Except.ok.inj ((AccessToken.claims_of_verify verified).symm.trans read)
    refine ⟨notAuthorized ("Client " ++ accepted.subject), ?_, rfl⟩
    have denied : a.registry.isAuthorized accepted.subject = false := names ▸ revoked.isAuthorized
    simp only [validate, given, verified, bind, Except.bind, denied]
    rfl

/-- The identity `uid` is shut out: it may not use the broker, no secret of it is stored, it cannot
register, it gets no token, and no token that names it is accepted. None of this changes
anything. -/
structure ShutsOut (a : Authority) (uid : String) : Prop where
  /-- It may not use the broker. -/
  unauthorized : a.registry.isAuthorized uid = false
  /-- No secret is stored for it. -/
  storeCredentials : ∀ (identity : DigitalIdentity) (secret : String), identity.uid = uid →
    a.registry.storeCredentials identity secret = (false, a.registry)
  /-- It cannot register. -/
  register : ∀ secret, ∃ fault, a.register uid secret = (.error fault, a) ∧
    fault.code = "unauthorized_client"
  /-- It gets no token. -/
  requestToken : ∀ now header id secret, Header.basic header = .ok (uid, secret) →
    ∃ fault, a.requestToken now header id = (.error fault, a)
  /-- No token that names it is accepted. -/
  validate : ∀ now header text claims, Header.bearer header = .ok text →
    (AccessToken.mk text).claims = .ok claims → claims.subject = uid →
    ∃ fault, a.validate now (some header) = .error fault ∧ fault.kind = .security

theorem shutsOut_of_revoked (revoked : a.registry.Revoked uid) : a.ShutsOut uid where
  unauthorized := revoked.isAuthorized
  storeCredentials _ secret named := revoked.storeCredentials named secret
  register secret := ⟨_, register_of_denied revoked.isAuthorized secret, rfl⟩
  requestToken now _ id _ named := requestToken_of_revoked revoked named now id
  validate now _ _ _ given read names := validate_of_revoked revoked given read names now

/-- Whatever is asked of an authority, an identity `uid` that has been revoked is shut out for good
(`ShutsOut`), and one of `config.testIdentities` may use the broker at all times. -/
theorem revoked_for_good {config : AuthConfig} (built : a.registry = .ofConfig config) :
    (∀ (uid : String) (before after : List Call), uid ∉ config.testIdentities →
      ((a.run before).registry.get? uid).isSome →
      (((a.run before).perform (.revoke uid)).run after).ShutsOut uid) ∧
    ∀ uid ∈ config.testIdentities, ∀ calls : List Call,
      (a.run calls).registry.isAuthorized uid := by
  have exempt (uid : String) : a.registry.isExempt uid = decide (uid ∈ config.testIdentities) := by
    rw [Registry.isExempt, built, Registry.exempt_ofConfig, List.contains_eq_mem]
  refine ⟨fun uid before after unlisted known => ?_, fun uid listed calls => ?_⟩
  · have notExempt : (a.run before).registry.isExempt uid = false := by
      rw [isExempt_run, exempt, decide_eq_false unlisted]
    exact shutsOut_of_revoked (revoked_run (Registry.revoked_revoke notExempt known) after)
  · refine isAuthorized_run_of_exempt ?_ ?_ calls
    · rw [exempt, decide_eq_true listed]
    · rw [built]
      exact Registry.isAuthorized_ofConfig listed

/-- A device and an identity for tests. -/
def deviceConfig : AuthConfig where
  testIdentities := ["probe"]
  identities := [⟨"device", .device⟩]

/-- An authority that knows them. -/
def withDevice : Authority :=
  ⟨.ofConfig deviceConfig, "key", true⟩

/-- A device that has registered is revoked and then added, given a secret and registered again,
to no avail; the identity for tests cannot even be revoked. -/
theorem revoked_for_good_device :
    (((withDevice.run [.register "device" "s"]).perform (.revoke "device")).run
      [.addIdentity ⟨"device", .application, none⟩, .shutdown,
        .storeCredentials ⟨"device", .device, none⟩ "t",
        .register "device" "t"]).ShutsOut "device" ∧
    (withDevice.run [.revoke "probe"]).registry.isAuthorized "probe" := by
  have built : withDevice.registry = .ofConfig deviceConfig := rfl
  obtain ⟨shut, open_⟩ := revoked_for_good built
  exact ⟨shut _ _ _ (by decide) (by decide +kernel), open_ _ (by decide) _⟩

end Authority

end GraphBroker
