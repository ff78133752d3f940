import GraphBroker.Proofs.Access.Refreshes

/-!
# Who is let in, and with which secret

Of all that is asked of the authority, few calls decide who is let in. A secret is stored for an
identity that has not been revoked, and is forgotten when this is asked for, so that the one that is
accepted is the one stored last, if none has been forgotten since. An identity that is known has
been revoked for good or may use the broker.

## Main definitions

* `Standing`: the secret of an identity, and whether it may use the broker.
* `Authority.Call.standing`: what each call makes of it.
* `Authority.writes`: the secrets stored and forgotten along a run.
* `Authority.Revokes`: the identity is revoked along a run.

## Main statements

* `standing?_perform`: what each call makes of the standing of an identity.
* `secret?_run`: the secret of an identity is the one written last.
* `allowed_run`: an identity that is known may use the broker unless it has been revoked.
-/

namespace GraphBroker

open Std

/-- What decides whether an identity is let in. -/
structure Standing where
  /-- Its secret. -/
  secret : Option StoredSecret
  /-- Whether it may use the broker. -/
  authorized : Bool

/-- The standing that `record` gives. -/
def Record.standing (record : Record) : Standing :=
  ⟨record.secret, record.authorized⟩

namespace Registry

variable {r : Registry} {uid other secret : String} {record : Record} {identity : DigitalIdentity}

/-- The standing of `uid`, if it is known. -/
def standing? (r : Registry) (uid : String) : Option Standing :=
  (r.get? uid).map Record.standing

theorem isAuthorized_eq : r.isAuthorized uid = (r.standing? uid).any (·.authorized) := by
  unfold isAuthorized standing?
  cases r.get? uid <;> rfl

/-- The only text that is accepted as a secret of `uid` is the one that was stored. -/
theorem checkCredentials_iff : r.checkCredentials uid secret ↔
    (r.standing? uid).bind (·.secret) = some (.ofSecret secret) := by
  have stored : (r.standing? uid).bind (·.secret) = (r.get? uid).bind (·.secret) :=
    Option.bind_map ..
  rw [checkCredentials, stored, Option.any_eq_true]
  constructor
  · rintro ⟨⟨candidate⟩, found, fits⟩
    obtain rfl := StoredSecret.verify_ofSecret.1 fits
    exact found
  · exact fun found => ⟨_, found, StoredSecret.verify_ofSecret.2 rfl⟩

theorem all_standing? :
    (r.standing? uid).all (·.authorized) = (r.get? uid).all (·.authorized) :=
  Option.all_map

theorem fst_storeCredentials : (r.storeCredentials identity secret).1 =
    (r.standing? identity.uid).all (·.authorized) := by
  rw [all_standing?, storeCredentials]
  split <;> simp_all

theorem standing?_put :
    (r.put uid record).standing? other = if uid = other then some record.standing
      else r.standing? other := by
  simp only [standing?, get?_put]
  split <;> rfl

theorem standing?_modify {f : Record → Record} {g : Standing → Standing}
    (moves : ∀ record, (f record).standing = g record.standing) :
    (r.modify uid f).standing? other =
      if uid = other then (r.standing? other).map g else r.standing? other := by
  simp only [standing?, get?_modify]
  split
  · rw [Option.map_map, Option.map_map]
    congr 1
    exact funext moves
  · rfl

theorem standing?_modify_of_keeps {f : Record → Record}
    (keeps : ∀ record, (f record).standing = record.standing) :
    (r.modify uid f).standing? other = r.standing? other := by
  rw [standing?_modify (g := id) keeps]
  simp

theorem standing?_addIdentity : (r.addIdentity identity).standing? uid =
    if identity.uid = uid then (r.standing? uid).or (some ⟨none, true⟩) else r.standing? uid := by
  rw [standing?, get?_addIdentity, standing?]
  split
  · cases r.get? uid <;> rfl
  · rfl

/-- At the start `uid`, if it is known, has no secret and may use the broker. -/
theorem standing?_ofConfig (config : AuthConfig) (uid : String) :
    ((ofConfig config).standing? uid).getD ⟨none, true⟩ = ⟨none, true⟩ := by
  refine List.foldlRecOn _ addIdentity
    (motive := fun r => (r.standing? uid).getD ⟨none, true⟩ = ⟨none, true⟩) ?_
    fun r fresh identity _ => ?_
  · rw [standing?, get?, ExtTreeMap.getElem?_empty]
    rfl
  · rw [standing?_addIdentity]
    cases found : r.standing? uid with
    | none => split <;> rfl
    | some standing =>
      rw [found] at fresh
      split <;> exact fresh

theorem standing?_revoke : (r.revoke other).standing? uid =
    if other = uid ∧ r.isExempt uid = false then
      (r.standing? uid).map ({ · with authorized := false })
    else r.standing? uid := by
  unfold revoke
  split
  · rename_i exempt
    rw [if_neg]
    rintro ⟨rfl, notExempt⟩
    exact Bool.eq_false_iff.1 notExempt exempt
  · rename_i notExempt
    rw [standing?_modify (g := ({ · with authorized := false })) fun _ => rfl]
    congr 1
    refine propext ⟨?_, And.left⟩
    rintro rfl
    exact ⟨rfl, Bool.not_eq_true _ ▸ notExempt⟩

theorem standing?_storeCredentials : (r.storeCredentials identity secret).2.standing? uid =
    if identity.uid = uid ∧ (r.standing? uid).all (·.authorized) then
      some ⟨some (.ofSecret secret), true⟩
    else r.standing? uid := by
  unfold storeCredentials
  split
  · rename_i allowed
    rw [standing?_put]
    congr 1
    refine propext ⟨?_, And.left⟩
    rintro rfl
    exact ⟨rfl, all_standing?.trans allowed⟩
  · rename_i denied
    rw [if_neg]
    rintro ⟨rfl, allowed⟩
    exact denied (all_standing?.symm.trans allowed)

end Registry

namespace Authority

variable {a : Authority} {uid other secret : String} {call : Call} {calls : List Call}

/-- What a call makes of the standing of `uid`, which may be `exempt` from being revoked. -/
def Call.standing (exempt : Bool) (uid : String) (before : Option Standing) :
    Call → Option Standing
  | .addIdentity identity => if identity.uid = uid then before.or (some ⟨none, true⟩) else before
  | .revoke other =>
    if other = uid ∧ exempt = false then before.map ({ · with authorized := false }) else before
  | .storeCredentials identity secret =>
    if identity.uid = uid ∧ before.all (·.authorized) then some ⟨some (.ofSecret secret), true⟩
    else before
  | .removeCredentials other =>
    if other = uid then before.map ({ · with secret := none }) else before
  | .register other secret =>
    if other = uid ∧ before.any (·.authorized) then some ⟨some (.ofSecret secret), true⟩
    else before
  | _ => before

/-- Whoever may use the broker can register with a new `secret`. -/
theorem register_of_allowed (named : a.Named) (allowed : a.registry.isAuthorized uid)
    (secret : String) : ∃ identity, a.register uid secret = (.ok ⟨uid, secret, none⟩,
      { a with registry := a.registry.put uid (a.clientRecord identity secret) }) := by
  obtain ⟨record, known, -⟩ := (Option.any_eq_true _ _).1 allowed
  have described : a.registry.identity? uid = some record.identity := by
    rw [Registry.identity?, known]
    rfl
  exact ⟨_, register_of_known named described allowed⟩

/-- What `call` makes of the standing of `uid` is `Call.standing`. -/
theorem standing?_perform (named : a.Named) (call : Call) (uid : String) :
    (a.perform call).registry.standing? uid =
      call.standing (a.registry.isExempt uid) uid (a.registry.standing? uid) := by
  cases call with
  | addIdentity identity => exact Registry.standing?_addIdentity
  | revoke other => exact Registry.standing?_revoke
  | storeCredentials identity secret => exact Registry.standing?_storeCredentials
  | removeCredentials other => exact Registry.standing?_modify fun _ => rfl
  | addToken other token =>
    change (a.registry.addToken other token).2.standing? uid = _
    unfold Registry.addToken
    split
    · rfl
    · exact Registry.standing?_modify_of_keeps fun _ => rfl
  | removeToken other => exact Registry.standing?_modify_of_keeps fun _ => rfl
  | currentOrIssue other now issue =>
    change (a.registry.currentOrIssue other now issue).2.standing? uid = _
    obtain ⟨_, answer⟩ | ⟨_, _, _, -, -, ⟨-, -, answer⟩ | ⟨-, answer⟩⟩ :=
      a.registry.currentOrIssue_cases other now issue <;> rw [answer]
    · rfl
    · rfl
    · exact Registry.standing?_modify_of_keeps fun _ => rfl
  | setExpiringPeriod other period => exact Registry.standing?_modify_of_keeps fun _ => rfl
  | setExpiry expiry => rfl
  | setIssuer issuer => rfl
  | shutdown =>
    change (a.registry.shutdown.get? uid).map Record.standing = _
    rw [Registry.get?_shutdown, Option.map_map]
    rfl
  | register other secret =>
    change (a.register other secret).2.registry.standing? uid = _
    rw [Call.standing]
    by_cases allowed : a.registry.isAuthorized other
    · obtain ⟨identity, answer⟩ := register_of_allowed named allowed secret
      rw [answer, Registry.standing?_put]
      split
      · rename_i same
        rw [if_pos ⟨same, by rwa [← same, ← Registry.isAuthorized_eq]⟩]
        rfl
      · rename_i different
        rw [if_neg fun both => different both.1]
    · rw [register_of_denied (Bool.not_eq_true _ ▸ allowed), if_neg]
      rintro ⟨rfl, both⟩
      exact allowed (Registry.isAuthorized_eq.trans both)
  | requestToken now header id =>
    have answered := answers_requestToken a now header id
    change (a.requestToken now header id).2.registry.standing? uid = _
    generalize a.requestToken now header id = answer at answered
    cases answered with
    | refused => rfl
    | held => rfl
    | issued => exact Registry.standing?_modify_of_keeps fun _ => rfl

/-! ### Secrets that are written -/

/-- What a call writes for the secret of `uid`: a secret that is stored, as the answer says, or that
there is none. -/
def write? (a : Authority) (uid : String) : Call → Option (Option String)
  | .storeCredentials identity secret =>
    if identity.uid = uid ∧ (a.registry.storeCredentials identity secret).1 then some (some secret)
    else none
  | .removeCredentials other => if other = uid then some none else none
  | .register other secret =>
    if other = uid ∧ (a.register other secret).1.isOk then some (some secret) else none
  | _ => none

/-- What some calls in a row write for the secret of `uid`, beginning with `a`. -/
def writes (a : Authority) (uid : String) : List Call → List (Option String)
  | [] => []
  | call :: rest => (a.write? uid call).toList ++ (a.perform call).writes uid rest

/-- The secret of `uid`, which may not be known. -/
def secret? (a : Authority) (uid : String) : Option StoredSecret :=
  (a.registry.standing? uid).bind (·.secret)

theorem isOk_register (named : a.Named) (uid secret : String) :
    (a.register uid secret).1.isOk = (a.registry.standing? uid).any (·.authorized) := by
  rw [← Registry.isAuthorized_eq]
  by_cases allowed : a.registry.isAuthorized uid
  · obtain ⟨identity, answer⟩ := register_of_allowed named allowed secret
    rw [answer, allowed]
    rfl
  · rw [Bool.not_eq_true] at allowed
    rw [register_of_denied allowed, allowed]
    rfl

/-- The secret of `uid` is the one that `call` writes, and else stays. -/
theorem secret?_perform (named : a.Named) (call : Call) (uid : String) :
    (a.perform call).secret? uid =
      ((a.write? uid call).map (·.map .ofSecret)).getD (a.secret? uid) := by
  unfold secret?
  rw [standing?_perform named]
  cases call with
  | addIdentity identity =>
    rw [Call.standing]
    split
    · cases a.registry.standing? uid <;> rfl
    · rfl
  | revoke other =>
    rw [Call.standing]
    split
    · cases a.registry.standing? uid <;> rfl
    · rfl
  | storeCredentials identity secret =>
    simp only [Call.standing, write?, Registry.fst_storeCredentials]
    by_cases same : identity.uid = uid
    · subst same
      split <;> rfl
    · simp only [same, false_and, if_false]
      rfl
  | removeCredentials other =>
    simp only [Call.standing, write?]
    split
    · cases a.registry.standing? uid <;> rfl
    · rfl
  | register other secret =>
    simp only [Call.standing, write?, isOk_register named]
    by_cases same : other = uid
    · subst same
      split <;> rfl
    · simp only [same, false_and, if_false]
      rfl
  | _ => rfl

/-- The secret of `uid` is the one written last by `calls`. -/
theorem secret?_run (named : a.Named) (calls : List Call) (uid : String) :
    (a.run calls).secret? uid =
      ((a.writes uid calls).getLast?.map (·.map .ofSecret)).getD (a.secret? uid) := by
  induction calls generalizing a with
  | nil => rfl
  | cons call rest ih =>
    refine (ih (named.perform call)).trans ?_
    rw [secret?_perform named, writes]
    cases a.write? uid call with
    | none => rfl
    | some written =>
      rw [Option.toList_some, List.singleton_append, List.getLast?_cons]
      cases ((a.perform call).writes uid rest).getLast? <;> rfl

/-! ### Being revoked -/

/-- One of the `calls` revokes `uid`, which is known then. -/
def Revokes (a : Authority) (uid : String) (calls : List Call) : Prop :=
  ∃ before after, calls = before ++ .revoke uid :: after ∧ a.registry.isExempt uid = false ∧
    ((a.run before).registry.get? uid).isSome

theorem Revokes.cons (later : (a.perform call).Revokes uid calls) :
    a.Revokes uid (call :: calls) := by
  obtain ⟨before, after, rfl, notExempt, known⟩ := later
  refine ⟨call :: before, after, rfl, ?_, known⟩
  rwa [← isExempt_run [call]]

/-- Only a `call` that revokes `uid` shuts it out. -/
theorem Call.all_standing {exempt : Bool} {before : Option Standing}
    (allowed : before.all (·.authorized)) :
    (call.standing exempt uid before).all (·.authorized) ∨
      call = .revoke uid ∧ exempt = false ∧ before.isSome := by
  cases call with
  | addIdentity identity =>
    rw [Call.standing]
    cases before <;> split <;> exact .inl allowed
  | revoke other =>
    rw [Call.standing]
    split
    · rename_i both
      cases before with
      | none => exact .inl rfl
      | some standing => exact .inr ⟨congrArg Call.revoke both.1, both.2, rfl⟩
    · exact .inl allowed
  | storeCredentials identity secret =>
    rw [Call.standing]
    split
    · exact .inl rfl
    · exact .inl allowed
  | removeCredentials other =>
    rw [Call.standing]
    cases before <;> split <;> exact .inl allowed
  | register other secret =>
    rw [Call.standing]
    split
    · exact .inl rfl
    · exact .inl allowed
  | _ => exact .inl allowed

/-- The identity `uid` may use the broker, once it is known, unless the `calls` have revoked it. -/
theorem allowed_run (named : a.Named) (allowed : (a.registry.standing? uid).all (·.authorized))
    (calls : List Call) :
    ((a.run calls).registry.standing? uid).all (·.authorized) ↔ ¬a.Revokes uid calls := by
  constructor
  · rintro allowedLast ⟨before, after, rfl, notExempt, known⟩
    rw [← isExempt_run before] at notExempt
    have revoked : ((a.run before).perform (.revoke uid)).registry.Revoked uid :=
      Registry.revoked_revoke notExempt known
    obtain ⟨record, found, denied⟩ := revoked_run revoked after
    have last : a.run (before ++ .revoke uid :: after) =
      ((a.run before).perform (.revoke uid)).run after := List.foldl_append
    rw [Registry.all_standing?, last, found, Option.all_some, denied] at allowedLast
    cases allowedLast
  · intro notRevoked
    induction calls generalizing a with
    | nil => exact allowed
    | cons call rest ih =>
      refine ih (named.perform call) ?_ fun later => notRevoked later.cons
      have step : (call.standing (a.registry.isExempt uid) uid (a.registry.standing? uid)).all
          (·.authorized) ∨ call = .revoke uid ∧ a.registry.isExempt uid = false ∧
            (a.registry.standing? uid).isSome := Call.all_standing allowed
      rw [standing?_perform named]
      rcases step with still | ⟨rfl, notExempt, known⟩
      · exact still
      · rw [Registry.standing?, Option.isSome_map] at known
        exact absurd ⟨[], rest, rfl, notExempt, known⟩ notRevoked

/-! ### The start -/

variable {config : AuthConfig}

theorem secret?_of_ofConfig (built : a.registry = .ofConfig config) (uid : String) :
    a.secret? uid = none := by
  have start := Registry.standing?_ofConfig config uid
  rw [secret?, built]
  cases found : (Registry.ofConfig config).standing? uid with
  | none => rfl
  | some standing =>
    rw [found] at start
    exact congrArg Standing.secret start

theorem allowed_of_ofConfig (built : a.registry = .ofConfig config) (uid : String) :
    (a.registry.standing? uid).all (·.authorized) := by
  have start := Registry.standing?_ofConfig config uid
  rw [built]
  cases found : (Registry.ofConfig config).standing? uid with
  | none => rfl
  | some standing =>
    rw [found] at start
    exact congrArg Standing.authorized start

end Authority

end GraphBroker
