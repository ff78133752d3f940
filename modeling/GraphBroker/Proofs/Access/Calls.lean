import GraphBroker.Access.Authority

/-!
# Calls on the authority and its registry

Whoever holds the authority may ask its registry for anything, and clients may ask it for
secrets and tokens. Whatever is asked, only a few things can happen to the record of an
identity. What each of them keeps is kept by every sequence of calls.

## Main definitions

* `Record.Change`: what a call can do to the record of an identity.
* `Registry.Step`: every record changes so, and the same identities are exempt.
* `Authority.Call`, `Authority.perform`, `Authority.run`: calls, one of them, some in a row.

## Main statements

* `step_perform`: a call is a step of the registry.
* `run_induction`: what each change of a record keeps, a run keeps.
-/

namespace GraphBroker

open Std

/-- What a call can do to the record of an identity, which may be missing. Whether the identity is
`exempt` from being revoked makes a difference. -/
inductive Record.Change (exempt : Bool) : Option Record → Option Record → Prop
  /-- Nothing. -/
  | unchanged {before : Option Record} : Change exempt before before
  /-- The `identity` is added. -/
  | added (identity : DigitalIdentity) (period : Int) :
    Change exempt none (some { identity, period })
  /-- Something else is noted than whether it may use the broker. -/
  | noted {before after : Record} (same : after.authorized = before.authorized) :
    Change exempt (some before) (some after)
  /-- A record with a new `secret` takes its place, unless it has been revoked. -/
  | renewed {before : Option Record} (identity : DigitalIdentity) (secret : String) (period : Int)
    (allowed : before.all (·.authorized)) :
    Change exempt before (some { identity, secret := some (.ofSecret secret), period })
  /-- It is revoked, unless it is `exempt`. -/
  | revoked {before : Record} (notExempt : exempt = false) :
    Change exempt (some before) (some { before with authorized := false })

namespace Registry

open Record (Change)

/-- From `r` to `s` every record changes as a call can change it, and the same identities are
exempt. -/
structure Step (r s : Registry) : Prop where
  /-- The same identities are exempt. -/
  exempt : s.exempt = r.exempt
  /-- The record of each `uid` changes as a call can change it. -/
  change : ∀ uid, Change (r.isExempt uid) (r.get? uid) (s.get? uid)

variable {r : Registry} {uid : String}

theorem get?_shutdown : r.shutdown.get? uid = (r.get? uid).map ({ · with token := none }) :=
  ExtTreeMap.getElem?_map

namespace Step

theorem refl : Step r r :=
  ⟨rfl, fun _ => .unchanged⟩

theorem put {record : Record} (change : Change (r.isExempt uid) (r.get? uid) (some record)) :
    Step r (r.put uid record) := by
  refine ⟨rfl, fun other => ?_⟩
  rw [get?_put]
  split
  · rename_i named
    rwa [← named]
  · exact .unchanged

theorem modify {f : Record → Record}
    (change : ∀ record, Change (r.isExempt uid) (some record) (some (f record))) :
    Step r (r.modify uid f) := by
  unfold Registry.modify
  split
  · rename_i record known
    exact put (known ▸ change record)
  · exact refl

theorem addIdentity (identity : DigitalIdentity) : Step r (r.addIdentity identity) := by
  unfold Registry.addIdentity
  split
  · rename_i record known
    exact put (known ▸ .noted rfl)
  · rename_i unknown
    exact put (unknown ▸ .added _ _)

theorem revoke : Step r (r.revoke uid) := by
  unfold Registry.revoke
  split
  · exact refl
  · rename_i notExempt
    exact modify fun _ => .revoked (Bool.not_eq_true _ ▸ notExempt)

theorem storeCredentials (identity : DigitalIdentity) (secret : String) :
    Step r (r.storeCredentials identity secret).2 := by
  unfold Registry.storeCredentials
  split
  · rename_i allowed
    exact put (.renewed _ _ _ allowed)
  · exact refl

theorem addToken (token : AccessToken) : Step r (r.addToken uid token).2 := by
  unfold Registry.addToken
  split
  · exact refl
  · exact modify fun _ => .noted rfl

theorem currentOrIssue (now : Int) (issue : Int → Outcome AccessToken) :
    Step r (r.currentOrIssue uid now issue).2 := by
  unfold Registry.currentOrIssue
  split
  · exact refl
  · split
    · exact refl
    · split
      · exact refl
      · rename_i token _
        have stored : Step r (r.addToken uid token).2 := addToken token
        split <;> rename_i answer <;> rwa [answer] at stored

theorem shutdown : Step r r.shutdown := by
  refine ⟨rfl, fun uid => ?_⟩
  rw [get?_shutdown]
  cases r.get? uid with
  | none => exact .unchanged
  | some record => exact .noted rfl

end Step

end Registry

namespace Authority

open Registry (Step)

/-! ### Calls -/

/-- What may be asked of the authority and its registry. -/
inductive Call where
  /-- Adds `identity`. -/
  | addIdentity (identity : DigitalIdentity)
  /-- Revokes the identity `uid`. -/
  | revoke (uid : String)
  /-- Stores the `secret` of an identity. -/
  | storeCredentials (identity : DigitalIdentity) (secret : String)
  /-- Forgets the secret of `uid`. -/
  | removeCredentials (uid : String)
  /-- Stores a `token` of `uid`. -/
  | addToken (uid : String) (token : AccessToken)
  /-- Forgets the token of `uid`. -/
  | removeToken (uid : String)
  /-- Looks for the current token of `uid`, with a way to `issue` one. -/
  | currentOrIssue (uid : String) (now : Int) (issue : Int → Outcome AccessToken)
  /-- Sets for how long the tokens of `uid` are good. -/
  | setExpiringPeriod (uid : String) (period : Int)
  /-- Sets for how long the tokens of new records are good. -/
  | setExpiry (expiry : ExpiryConfig)
  /-- Sets the `issuer` named in tokens. -/
  | setIssuer (issuer : String)
  /-- Forgets all tokens. -/
  | shutdown
  /-- Registers the client `uid`, with a fresh `secret`. -/
  | register (uid secret : String)
  /-- Asks for a token at the time `now`, with the name `id` for a fresh one. -/
  | requestToken (now : Int) (header id : String)

/-- The authority `a` after a call. -/
def perform (a : Authority) : Call → Authority
  | .addIdentity identity => { a with registry := a.registry.addIdentity identity }
  | .revoke uid => { a with registry := a.registry.revoke uid }
  | .storeCredentials identity secret =>
    { a with registry := (a.registry.storeCredentials identity secret).2 }
  | .removeCredentials uid => { a with registry := a.registry.removeCredentials uid }
  | .addToken uid token => { a with registry := (a.registry.addToken uid token).2 }
  | .removeToken uid => { a with registry := a.registry.removeToken uid }
  | .currentOrIssue uid now issue =>
    { a with registry := (a.registry.currentOrIssue uid now issue).2 }
  | .setExpiringPeriod uid period =>
    { a with registry := a.registry.setExpiringPeriod uid period }
  | .setExpiry expiry => { a with registry := { a.registry with expiry } }
  | .setIssuer issuer => { a with registry := { a.registry with issuer } }
  | .shutdown => { a with registry := a.registry.shutdown }
  | .register uid secret => (a.register uid secret).2
  | .requestToken now header id => (a.requestToken now header id).2

/-- The authority `a` after the `calls`, one after another. -/
def run (a : Authority) (calls : List Call) : Authority :=
  calls.foldl perform a

variable {a : Authority}

theorem step_register (uid secret : String) :
    Step a.registry (a.register uid secret).2.registry := by
  unfold register
  dsimp only
  split
  · exact .refl
  · rename_i identity _
    have stored : Step a.registry (a.registry.storeCredentials identity secret).2 :=
      .storeCredentials identity secret
    split <;> rename_i answer
    · rwa [answer] at stored
    · exact .refl

theorem step_requestToken (now : Int) (header id : String) :
    Step a.registry (a.requestToken now header id).2.registry := by
  unfold requestToken
  split
  · exact .refl
  · split
    · exact .refl
    · split
      · exact .refl
      · exact .currentOrIssue now _

/-- A `call` does nothing to a record but what `Record.Change` lists. -/
theorem step_perform (a : Authority) (call : Call) :
    Step a.registry (a.perform call).registry := by
  cases call with
  | addIdentity identity => exact .addIdentity identity
  | revoke uid => exact .revoke
  | storeCredentials identity secret => exact .storeCredentials identity secret
  | removeCredentials uid => exact .modify fun _ => .noted rfl
  | addToken uid token => exact .addToken token
  | removeToken uid => exact .modify fun _ => .noted rfl
  | currentOrIssue uid now issue => exact .currentOrIssue now issue
  | setExpiringPeriod uid period => exact .modify fun _ => .noted rfl
  | setExpiry expiry => exact ⟨rfl, fun _ => .unchanged⟩
  | setIssuer issuer => exact ⟨rfl, fun _ => .unchanged⟩
  | shutdown => exact .shutdown
  | register uid secret => exact step_register uid secret
  | requestToken now header id => exact step_requestToken now header id

/-- The same identities are exempt at all times, whatever the `calls`. -/
theorem isExempt_run (calls : List Call) (uid : String) :
    (a.run calls).registry.isExempt uid = a.registry.isExempt uid := by
  induction calls generalizing a with
  | nil => rfl
  | cons call calls ih =>
    refine (ih (a := a.perform call)).trans ?_
    rw [Registry.isExempt, (step_perform a call).exempt, Registry.isExempt]

/-- What holds of the record of `uid` and is kept by every change of it, still holds after the
`calls`. -/
theorem run_induction {motive : Option Record → Prop} {uid : String}
    (keeps : ∀ before after, Record.Change (a.registry.isExempt uid) before after →
      motive before → motive after)
    (start : motive (a.registry.get? uid)) (calls : List Call) :
    motive ((a.run calls).registry.get? uid) := by
  -- The authority changes with each call, while the identity stays as exempt as it was.
  induction calls generalizing a with
  | nil => exact start
  | cons call calls ih =>
    have exempt : (a.perform call).registry.isExempt uid = a.registry.isExempt uid :=
      isExempt_run [call] uid
    exact ih (a := a.perform call) (by rwa [exempt])
      (keeps _ _ ((step_perform a call).change uid) start)

end Authority

end GraphBroker
