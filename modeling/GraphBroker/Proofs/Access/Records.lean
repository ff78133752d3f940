import GraphBroker.Proofs.Access.Requests

/-!
# Records along a run

Whatever is asked of the authority, little can happen to the record of an identity. In
particular its token is one that the authority signed for it, unless somebody else hands one in.

## Main definitions

* `Authority.Edit`: what a call does to the record of an identity.
* `Authority.Edits`: what a call does to the authority.
* `Authority.Named`: records are filed under the names of their identities.
* `Authority.Sound`: the token of an identity is one that was signed for it by an issuer of some
  kind.

## Main statements

* `edits_perform`: what any call does.
* `named_run`, `Sound.run`: what is kept by calls in a row.
-/

namespace GraphBroker

open Std

namespace Authority

variable {a b : Authority} {call : Call} {uid : String} {record : Record} {f : Record → Record}
  {token : AccessToken} {claims : Claims}

/-! ### One call -/

/-- Whether the token comes from elsewhere. -/
def Call.Foreign : Call → Prop
  | .addToken .. | .currentOrIssue .. => True
  | _ => False

/-- What `call` does to the record of `uid`, which may be missing. -/
inductive Edit (a : Authority) (call : Call) (uid : String) :
    Option Record → Option Record → Prop
  /-- Nothing. -/
  | unchanged {before : Option Record} : Edit a call uid before before
  /-- The `identity` is described in another way. -/
  | described {before : Record} (identity : DigitalIdentity) (named : identity.uid = uid) :
    Edit a call uid (some before) (some { before with identity })
  /-- A new record with this `secret` takes the place of what was there. -/
  | renewed {before : Option Record} (identity : DigitalIdentity) (secret : Option StoredSecret)
    (named : identity.uid = uid) : Edit a call uid before
      (some { identity, secret, period := a.registry.initialPeriod identity })
  /-- Something is taken from the identity: its record is `after` what is left of the one
  `before`. -/
  | deprived {before after : Record} (identity : after.identity = before.identity)
    (period : after.period = before.period)
    (token : after.token = before.token ∨ after.token = none) :
    Edit a call uid (some before) (some after)
  /-- Its tokens are to be good for `period` from now on. -/
  | timed {before : Record} (period : Int) (asked : call = .setExpiringPeriod uid period) :
    Edit a call uid (some before) (some { before with period })
  /-- A token with `claims` is signed for it. -/
  | issued {before : Record} {claims : Claims} (now : Int) (id : String)
    (fresh : claims = a.freshClaims uid now before.period id) (fits : claims.FitsTimes) :
    Edit a call uid (some before)
      (some { before with token := some (.sign a.key claims), period := claims.period })
  /-- A `token` is handed in for it, by a call that is `Foreign`. -/
  | stored {before : Record} (token : AccessToken) (claims : Claims) (foreign : call.Foreign) :
    Edit a call uid (some before)
      (some { before with token := some token, period := claims.period })

/-- What `call` does to the authority `a`, which is `b` after it. -/
structure Edits (a : Authority) (call : Call) (b : Authority) : Prop where
  /-- The key stays. -/
  key : b.key = a.key
  /-- The issuer stays, unless it is set. -/
  issuer : b.registry.issuer = a.registry.issuer ∨ call = .setIssuer b.registry.issuer
  /-- For how long new tokens are good stays, unless it is set. -/
  expiry : b.registry.expiry = a.registry.expiry ∨ call = .setExpiry b.registry.expiry
  /-- What happens to the record of each `uid`. -/
  record : ∀ uid, Edit a call uid (a.registry.get? uid) (b.registry.get? uid)

namespace Edits

theorem refl : Edits a call a :=
  ⟨rfl, .inl rfl, .inl rfl, fun _ => .unchanged⟩

theorem put (edit : Edit a call uid (a.registry.get? uid) (some record)) :
    Edits a call { a with registry := a.registry.put uid record } := by
  refine ⟨rfl, .inl rfl, .inl rfl, fun other => ?_⟩
  rw [Registry.get?_put]
  split
  · rename_i named
    rwa [← named]
  · exact .unchanged

theorem modify (edit : ∀ record, a.registry.get? uid = some record →
    Edit a call uid (some record) (some (f record))) :
    Edits a call { a with registry := a.registry.modify uid f } := by
  unfold Registry.modify
  split
  · rename_i record known
    exact put (known ▸ edit record known)
  · exact refl

theorem addIdentity (identity : DigitalIdentity) :
    Edits a call { a with registry := a.registry.addIdentity identity } := by
  unfold Registry.addIdentity
  split
  · rename_i record known
    exact put (known ▸ .described identity rfl)
  · exact put (.renewed identity none rfl)

theorem revoke : Edits a call { a with registry := a.registry.revoke uid } := by
  unfold Registry.revoke
  split
  · exact refl
  · exact modify fun _ _ => .deprived rfl rfl (.inl rfl)

theorem storeCredentials (identity : DigitalIdentity) (secret : String) :
    Edits a call { a with registry := (a.registry.storeCredentials identity secret).2 } := by
  unfold Registry.storeCredentials
  split
  · exact put (.renewed identity _ rfl)
  · exact refl

theorem addToken (foreign : call.Foreign) :
    Edits a call { a with registry := (a.registry.addToken uid token).2 } := by
  unfold Registry.addToken
  split
  · exact refl
  · exact modify fun _ _ => .stored _ _ foreign

theorem currentOrIssue (now : Int) (issue : Int → Outcome AccessToken) (foreign : call.Foreign) :
    Edits a call { a with registry := (a.registry.currentOrIssue uid now issue).2 } := by
  rcases a.registry.currentOrIssue_cases uid now issue with ⟨fault, answer⟩ |
    ⟨record, token, claims, -, -, ⟨-, -, answer⟩ | ⟨-, answer⟩⟩
  · rw [answer]
    exact refl
  · rw [answer]
    exact refl
  · rw [answer]
    exact modify fun _ _ => .stored _ _ foreign

theorem shutdown : Edits a call { a with registry := a.registry.shutdown } := by
  refine ⟨rfl, .inl rfl, .inl rfl, fun uid => ?_⟩
  dsimp only
  rw [Registry.get?_shutdown]
  cases a.registry.get? uid with
  | none => exact .unchanged
  | some record => exact .deprived rfl rfl (.inr rfl)

theorem register (secret : String) : Edits a call (a.register uid secret).2 := by
  unfold Authority.register
  dsimp only
  split
  · exact refl
  · rename_i identity _
    have stored : Edits a call
        { a with registry := (a.registry.storeCredentials identity secret).2 } :=
      storeCredentials identity secret
    split <;> rename_i answer
    · rwa [answer] at stored
    · exact refl

theorem requestToken (now : Int) (header id : String) :
    Edits a call (a.requestToken now header id).2 := by
  have answered := answers_requestToken a now header id
  generalize a.requestToken now header id = answer at answered
  cases answered with
  | refused => exact refl
  | held => exact refl
  | issued _ _ known fresh fits =>
    -- The record is the one for whose period the token was made.
    refine modify fun record found => ?_
    obtain rfl := Option.some.inj (known.symm.trans found)
    exact .issued now id fresh fits

end Edits

/-- What any `call` does is among the `Edits`. -/
theorem edits_perform (a : Authority) (call : Call) : a.Edits call (a.perform call) := by
  cases call with
  | addIdentity identity => exact .addIdentity identity
  | revoke uid => exact .revoke
  | storeCredentials identity secret => exact .storeCredentials identity secret
  | removeCredentials uid => exact .modify fun _ _ => .deprived rfl rfl (.inl rfl)
  | addToken uid token => exact .addToken trivial
  | removeToken uid => exact .modify fun _ _ => .deprived rfl rfl (.inr rfl)
  | currentOrIssue uid now issue => exact .currentOrIssue now issue trivial
  | setExpiringPeriod uid period => exact .modify fun _ _ => .timed period rfl
  | setExpiry expiry => exact ⟨rfl, .inl rfl, .inr rfl, fun _ => .unchanged⟩
  | setIssuer issuer => exact ⟨rfl, .inr rfl, .inl rfl, fun _ => .unchanged⟩
  | shutdown => exact .shutdown
  | register uid secret => exact .register secret
  | requestToken now header id => exact .requestToken now header id

/-! ### The start -/

/-- The authority `a` before any identity is listed. -/
def bare (a : Authority) (config : AuthConfig) : Authority :=
  { a with registry := ⟨∅, config.expiry, config.issuer, config.testIdentities⟩ }

theorem run_map_addIdentity (identities : List DigitalIdentity) :
    a.run (identities.map .addIdentity) =
      { a with registry := identities.foldl Registry.addIdentity a.registry } := by
  induction identities generalizing a with
  | nil => rfl
  | cons identity rest ih => exact ih

/-- At the start the `identities` that the settings list have been added. -/
theorem exists_run_bare {config : AuthConfig} (built : a.registry = .ofConfig config) :
    ∃ identities : List DigitalIdentity,
      a = (a.bare config).run (identities.map .addIdentity) := by
  obtain ⟨identities, listed⟩ : ∃ identities : List DigitalIdentity, Registry.ofConfig config =
    identities.foldl Registry.addIdentity (a.bare config).registry := ⟨_, rfl⟩
  refine ⟨identities, ?_⟩
  rw [run_map_addIdentity, ← listed, ← built]
  rfl

theorem get?_bare {config : AuthConfig} : (a.bare config).registry.get? uid = none :=
  ExtTreeMap.getElem?_empty

/-! ### Names -/

/-- Records of `a` are filed under the names of their identities. -/
def Named (a : Authority) : Prop :=
  ∀ uid record, a.registry.get? uid = some record → record.identity.uid = uid

theorem Named.perform (named : a.Named) (call : Call) : (a.perform call).Named := by
  intro uid after known
  have edit := (edits_perform a call).record uid
  rw [known] at edit
  generalize found : a.registry.get? uid = before at edit
  cases edit with
  | unchanged => exact named uid after found
  | described _ same => exact same
  | renewed _ _ same => exact same
  | deprived identity => exact (congrArg _ identity).trans (named uid _ found)
  | @timed before => exact named uid before found
  | @issued before => exact named uid before found
  | @stored before => exact named uid before found

theorem Named.run (named : a.Named) (calls : List Call) : (a.run calls).Named :=
  List.foldlRecOn calls Authority.perform named fun _ kept call _ => kept.perform call

theorem named_run {config : AuthConfig} (built : a.registry = .ofConfig config)
    (calls : List Call) : (a.run calls).Named := by
  -- No record is there before the identities that are listed.
  obtain ⟨identities, listed⟩ := exists_run_bare built
  have start : (a.bare config).Named := fun uid record known => by
    rw [get?_bare] at known
    cases known
  exact (listed ▸ start.run _ : a.Named).run calls

end Authority

/-! ### Tokens -/

/-- With the settings `c`, no token is good for a negative time. -/
structure ExpiryConfig.NonNegative (c : ExpiryConfig) : Prop where
  /-- No token of a device. -/
  device : 0 ≤ c.device
  /-- No token of an application. -/
  application : 0 ≤ c.application
  /-- No token of a user. -/
  user : 0 ≤ c.user
  /-- No token of an identity without a class of its own. -/
  other : 0 ≤ c.other
  /-- No token of an identity listed for tests. -/
  test : 0 ≤ c.test

theorem Registry.initialPeriod_nonneg {r : Registry} (periods : r.expiry.NonNegative)
    (identity : DigitalIdentity) : 0 ≤ r.initialPeriod identity := by
  unfold initialPeriod
  split
  · exact periods.test
  · split
    · exact periods.device
    · exact periods.application
    · exact periods.user
    · exact periods.other

/-- Tokens are good for some time, and the one held was signed for `uid` by one of the `issuers`. -/
structure Record.Sound (key uid : String) (issuers : String → Prop) (record : Record) : Prop where
  /-- Tokens are good for some time. -/
  period : 0 ≤ record.period
  /-- The `token` held was signed for the identity, with some `claims`. -/
  token : ∀ token, record.token = some token → ∃ claims : Claims, token = .sign key claims ∧
    claims.subject = uid ∧ claims.FitsTimes ∧ issuers claims.issuer

namespace Authority

variable {a b : Authority} {call : Call} {uid : String} {issuers : String → Prop}
  {before : Option Record} {after : Record}

/-- A call that hands in no token and sets no negative time. -/
def Call.Proper : Call → Prop
  | .addToken .. | .currentOrIssue .. => False
  | .setExpiringPeriod _ period => 0 ≤ period
  | .setExpiry expiry => expiry.NonNegative
  | _ => True

theorem Call.Proper.not_foreign (proper : call.Proper) : ¬call.Foreign := by
  cases call <;> first | exact id | exact fun _ => proper

/-- The issuer is one of the `issuers`, tokens are good for some time, and the one that `uid` holds
was signed for it by one of these. -/
structure Sound (issuers : String → Prop) (uid : String) (a : Authority) : Prop where
  /-- The issuer is one of them. -/
  issuer : issuers a.registry.issuer
  /-- New tokens are good for some time. -/
  expiry : a.registry.expiry.NonNegative
  /-- So are those of `uid`, and the one it holds was signed for it. -/
  record : ∀ record, a.registry.get? uid = some record → record.Sound a.key uid issuers

theorem Edit.sound (edit : Edit a call uid before (some after)) (proper : call.Proper)
    (issuer : issuers a.registry.issuer) (expiry : a.registry.expiry.NonNegative)
    (sound : ∀ record, before = some record → record.Sound a.key uid issuers) :
    after.Sound a.key uid issuers := by
  -- Only two kinds of edits bring a token, and one of them is not proper.
  cases edit with
  | unchanged => exact sound after rfl
  | @described before => exact ⟨(sound before rfl).period, (sound before rfl).token⟩
  | renewed => exact ⟨Registry.initialPeriod_nonneg expiry _, nofun⟩
  | @deprived before after identity period token =>
    refine ⟨period ▸ (sound before rfl).period, fun held given => ?_⟩
    rcases token with same | none
    · exact (sound before rfl).token held (same.symm.trans given)
    · cases none.symm.trans given
  | @timed before period asked =>
    subst asked
    exact ⟨proper, (sound before rfl).token⟩
  | @issued before claims now id fresh fits =>
    refine ⟨?_, fun held given => ?_⟩
    · rw [fresh]
      dsimp only
      rw [period_freshClaims]
      exact (sound before rfl).period
    · obtain rfl := Option.some.inj given
      exact ⟨claims, rfl, congrArg Claims.subject fresh, fits, fresh ▸ issuer⟩
  | stored _ _ foreign => exact absurd foreign proper.not_foreign

theorem Sound.perform (sound : a.Sound issuers uid) (proper : call.Proper)
    (set : ∀ issuer, call = .setIssuer issuer → issuers issuer) :
    (a.perform call).Sound issuers uid := by
  have edits := edits_perform a call
  refine ⟨?_, ?_, fun record known => ?_⟩
  · rcases edits.issuer with same | asked
    · exact same ▸ sound.issuer
    · exact set _ asked
  · rcases edits.expiry with same | asked
    · exact same ▸ sound.expiry
    · rw [asked] at proper
      exact proper
  · have edit := edits.record uid
    rw [known] at edit
    rw [edits.key]
    exact edit.sound proper sound.issuer sound.expiry sound.record

/-- Proper `calls` keep an authority `Sound`, if the issuers that they set are among the same
`issuers`. -/
theorem Sound.run (sound : a.Sound issuers uid) {calls : List Call}
    (proper : ∀ call ∈ calls, call.Proper)
    (set : ∀ issuer, .setIssuer issuer ∈ calls → issuers issuer) :
    (a.run calls).Sound issuers uid :=
  List.foldlRecOn calls Authority.perform sound fun _ kept call listed =>
    kept.perform (proper call listed) fun issuer asked => set issuer (asked ▸ listed)

theorem sound_of_ofConfig {config : AuthConfig} (built : a.registry = .ofConfig config)
    (periods : config.expiry.NonNegative) (uid : String) : a.Sound (fun _ => True) uid := by
  obtain ⟨identities, listed⟩ := exists_run_bare built
  have start : (a.bare config).Sound (fun _ => True) uid :=
    ⟨trivial, periods, fun record known => by
      rw [get?_bare] at known
      cases known⟩
  rw [listed]
  refine start.run (fun call added => ?_) fun _ _ => trivial
  obtain ⟨identity, -, rfl⟩ := List.mem_map.1 added
  trivial

end Authority

end GraphBroker
