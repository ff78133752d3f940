import GraphBroker.Proofs.Access.Grants
import Mathlib.Data.List.Chain

/-!
# Asking for tokens again and again

A client asks for a token as often as it likes. The first request is answered with a new token,
and each later one with the token handed out before it as long as that is good, and then with a
new one. Since a new token is made for the period of the client, and that period is set to the one
of the token, every token is good for the same time, however often it is renewed. What happens to
other identities in between does not matter, nor for how long tokens of new records are to be good.

## Main definitions

* `Authority.Call.Apart`: a call that does not concern an identity.
* `Authority.Exchange`, `Authority.exchanges`: the requests of a client, with their answers.
* `Authority.Holds`: what a client has to show, and the token that it holds.

## Main statements

* `Holds.apart`, `Holds.requestToken`: what a call does to a client.
* `answers_exchanges`: each request is answered with the token before it while that is good.
* `refreshes_converge`: the tokens of a client along a run.
-/

namespace GraphBroker

/-- Whether `header` names the client `uid`. -/
def Header.names (uid header : String) : Bool :=
  match Header.basic header with
  | .ok (name, _) => name == uid
  | .error _ => false

theorem Header.names_eq_true {uid secret header : String}
    (named : Header.basic header = .ok (uid, secret)) : Header.names uid header = true := by
  simp only [names, named, beq_self_eq_true]

namespace Authority

open Json (Fits)

/-- The call does not concern `uid`: it is about another identity, or sets what holds for new
records and new tokens. -/
def Call.Apart (uid : String) : Call → Prop
  | .addIdentity identity | .storeCredentials identity _ => identity.uid ≠ uid
  | .revoke other | .removeCredentials other | .addToken other _ | .removeToken other
  | .currentOrIssue other _ _ | .setExpiringPeriod other _ | .register other _ => other ≠ uid
  | .setExpiry _ | .setIssuer _ => True
  | .shutdown => False
  | .requestToken _ header _ => Header.names uid header = false

/-- The client `uid` asks for a token at a time at which a token for `period` has times that fit 64
bits. -/
def Call.Asks (uid secret : String) (period : Int) (call : Call) : Prop :=
  ∃ now header id, call = .requestToken now header id ∧ Header.basic header = .ok (uid, secret) ∧
    Fits now ∧ Fits (now + period)

/-- A request of a client for a token. -/
structure Exchange where
  /-- The second at which it is made. -/
  now : Int
  /-- The name for a new token. -/
  id : String
  /-- The issuer that is set. -/
  issuer : String
  /-- The answer. -/
  answer : Outcome TokenGrant

/-- The request for a token that a call on `a` makes for `uid`. -/
def exchange? (a : Authority) (uid : String) : Call → Option Exchange
  | .requestToken now header id =>
    if Header.names uid header then
      some ⟨now, id, a.registry.issuer, (a.requestToken now header id).1⟩
    else none
  | _ => none

/-- The requests for a token that some calls in a row make for `uid`, beginning with `a`. -/
def exchanges (a : Authority) (uid : String) : List Call → List Exchange
  | [] => []
  | call :: rest => (a.exchange? uid call).toList ++ (a.perform call).exchanges uid rest

/-- What a new token says that is made for the request `e`. -/
def Exchange.claims (e : Exchange) (uid : String) (period : Int) : Claims :=
  ⟨uid, e.issuer, e.now, e.now + period, e.id⟩

/-- The answer that hands out the token with `claims`, signed with `key`. -/
def signedGrant (key : String) (claims : Claims) : TokenGrant :=
  tokenGrant (.sign key claims) claims

/-- The answer to `e` that hands out a new token. -/
def Exchange.renewal (e : Exchange) (key uid : String) (period : Int) : TokenGrant :=
  signedGrant key (e.claims uid period)

variable {a : Authority} {uid secret header id : String} {period now : Int} {call : Call}
  {calls : List Call} {record : Record} {held : Option Claims} {key : String}

/-! ### One call -/

/-- A `call` that does not concern `uid` leaves its record as it is. -/
theorem get?_perform_of_apart (named : a.Named) (apart : call.Apart uid) :
    (a.perform call).registry.get? uid = a.registry.get? uid := by
  have modified {other : String} (different : other ≠ uid) (change : Record → Record) :
      (a.registry.modify other change).get? uid = a.registry.get? uid := by
    rw [Registry.get?_modify, if_neg different]
  have stored (identity : DigitalIdentity) (secret : String) (different : identity.uid ≠ uid) :
      (a.registry.storeCredentials identity secret).2.get? uid = a.registry.get? uid := by
    unfold Registry.storeCredentials
    split
    · rw [Registry.get?_put, if_neg different]
    · rfl
  cases call with
  | addIdentity identity =>
    change (a.registry.addIdentity identity).get? uid = _
    rw [Registry.get?_addIdentity, if_neg apart]
  | revoke other =>
    change (a.registry.revoke other).get? uid = _
    unfold Registry.revoke
    split
    · rfl
    · exact modified apart _
  | storeCredentials identity secret => exact stored identity secret apart
  | removeCredentials other => exact modified apart _
  | addToken other token =>
    change (a.registry.addToken other token).2.get? uid = _
    unfold Registry.addToken
    split
    · rfl
    · exact modified apart _
  | removeToken other => exact modified apart _
  | currentOrIssue other now issue =>
    change (a.registry.currentOrIssue other now issue).2.get? uid = _
    obtain ⟨_, answer⟩ | ⟨_, _, _, -, -, ⟨-, -, answer⟩ | ⟨-, answer⟩⟩ :=
      a.registry.currentOrIssue_cases other now issue <;> rw [answer]
    exact modified apart _
  | setExpiringPeriod other period => exact modified apart _
  | setExpiry expiry => rfl
  | setIssuer issuer => rfl
  | shutdown => exact apart.elim
  | register other secret =>
    change (a.register other secret).2.registry.get? uid = _
    unfold register
    dsimp only
    split
    · rfl
    · -- The secret is stored under the name in the record, which is the one it is filed under.
      rename_i identity known
      obtain ⟨record, found, rfl⟩ := Option.map_eq_some_iff.1 (Option.filter_eq_some_iff.1 known).1
      have kept := stored record.identity secret ((named other record found).symm ▸ apart)
      split <;> rename_i answer
      · rwa [answer] at kept
      · rfl
  | requestToken now header id =>
    have answered := answers_requestToken a now header id
    change (a.requestToken now header id).2.registry.get? uid = _
    generalize a.requestToken now header id = answer at answered
    cases answered with
    | refused => rfl
    | held => rfl
    | @issued other _ _ _ namedOther =>
      refine modified ?_ _
      rintro rfl
      cases (Header.names_eq_true namedOther).symm.trans apart

/-- The client `uid` may use the broker, with the `secret` and the `period` of its record and with
what the token says that it holds: `held` is `none` if it holds no token. -/
structure Holds (a : Authority) (uid secret : String) (period : Int) (held : Option Claims) :
    Prop where
  /-- The client has such a record. -/
  record : ∃ record, a.registry.get? uid = some record ∧ record.authorized ∧
    record.secret.any (·.verify secret) ∧ record.period = period ∧
    record.token = held.map (AccessToken.sign a.key)
  /-- The times of its token fit 64 bits. -/
  fits : ∀ claims ∈ held, claims.FitsTimes
  /-- Its token is good for the period. -/
  lasts : ∀ claims ∈ held, claims.period = period

/-- A `call` that does not concern `uid` leaves it what it holds. -/
theorem Holds.apart (holds : a.Holds uid secret period held) (named : a.Named)
    (apart : call.Apart uid) : (a.perform call).Holds uid secret period held := by
  refine ⟨?_, holds.fits, holds.lasts⟩
  rw [get?_perform_of_apart named apart, (edits_perform a call).key]
  exact holds.record

/-- What a token says that is handed out for `e`: it is the one `held` while that is good. -/
def current (held : Option Claims) (e : Exchange) (uid : String) (period : Int) : Claims :=
  (held.filter fun claims => e.now ≤ claims.expiresAt).getD (e.claims uid period)

theorem isExpired_eq_false_iff {claims : Claims} :
    claims.isExpired now = false ↔ now ≤ claims.expiresAt := by
  rw [Claims.isExpired, Claims.period, decide_eq_false_iff_not]
  omega

/-- A request of `uid` is answered with the token that it holds while that is good, and else with a
new one, which it holds from then on. -/
theorem Holds.requestToken (holds : a.Holds uid secret period held)
    (named : Header.basic header = .ok (uid, secret)) (fits : Fits now)
    (fitsEnd : Fits (now + period)) {e : Exchange}
    (asked : a.exchange? uid (.requestToken now header id) = some e) :
    e.answer = .ok (signedGrant a.key (current held e uid period)) ∧
      (a.perform (.requestToken now header id)).Holds uid secret period
        (some (current held e uid period)) := by
  obtain ⟨record, known, authorized, secretFits, rfl, token⟩ := holds.record
  have checked : a.registry.checkCredentials uid secret := by
    rw [Registry.checkCredentials, known]
    exact secretFits
  have allowed : a.registry.isAuthorized uid := by
    rw [Registry.isAuthorized, known]
    exact authorized
  rw [exchange?, if_pos (Header.names_eq_true named), Option.some_inj] at asked
  subst asked
  change (a.requestToken now header id).1 = _ ∧ (a.requestToken now header id).2.Holds _ _ _ _
  cases good : held.filter fun claims => decide (now ≤ claims.expiresAt) with
  | some claims =>
    obtain ⟨rfl, unexpired⟩ := Option.filter_eq_some_iff.1 good
    rw [requestToken_of_held named checked allowed known token
      (AccessToken.claims_sign a.key (holds.fits claims rfl))
      (isExpired_eq_false_iff.2 (of_decide_eq_true unexpired)), current, good]
    exact ⟨rfl, holds⟩
  | none =>
    have notGood : Registry.goodToken? record now = none := by
      refine Option.eq_none_iff_forall_ne_some.2 fun other found => ?_
      obtain ⟨stored, claims, read, unexpired⟩ := Registry.goodToken?_eq_some.1 found
      obtain ⟨claims', rfl, rfl⟩ := Option.map_eq_some_iff.1 (token.symm.trans stored)
      obtain rfl := Except.ok.inj
        ((AccessToken.claims_sign a.key (holds.fits claims' rfl)).symm.trans read)
      rw [isExpired_eq_false_iff] at unexpired
      rw [Option.filter_some, decide_eq_true unexpired] at good
      cases good
    have fitsNew : (a.freshClaims uid now record.period id).FitsTimes := ⟨fits, fitsEnd⟩
    rw [requestToken_of_not_good now id named checked allowed known notGood fitsNew, current, good]
    refine ⟨rfl, ⟨{ record with
      token := some (a.freshToken uid now record.period id)
      period := (a.freshClaims uid now record.period id).period }, ?_, authorized, secretFits,
      period_freshClaims, rfl⟩, ?_, ?_⟩
    · rw [hold, Registry.get?_modify, if_pos rfl, known]
      rfl
    · rintro _ ⟨⟩
      exact fitsNew
    · rintro _ ⟨⟩
      exact period_freshClaims

/-! ### Calls in a row -/

/-- The request `f` is answered with the token of `e` while that is good, and else with a new
one. -/
def Exchange.Follows (key uid : String) (period : Int) (e f : Exchange) : Prop :=
  ∀ g, e.answer = .ok g →
    f.answer = .ok (if f.now ≤ g.expiresAt then g else f.renewal key uid period)

/-- Each request of `uid` is answered with the token that it holds while that is good, and else with
a new one. -/
theorem answers_exchanges (named : a.Named) (holds : a.Holds uid secret period held)
    (listed : ∀ call ∈ calls, call.Apart uid ∨ call.Asks uid secret period) :
    (∀ e ∈ (a.exchanges uid calls).head?,
      e.answer = .ok (signedGrant a.key (current held e uid period))) ∧
    (a.exchanges uid calls).IsChain (Exchange.Follows a.key uid period) ∧
    ∀ e ∈ a.exchanges uid calls, (e.claims uid period).FitsTimes := by
  induction calls generalizing a held with
  | nil => exact ⟨nofun, .nil, nofun⟩
  | cons call rest ih =>
    obtain ⟨first, others⟩ := List.forall_mem_cons.1 listed
    have key : (a.perform call).key = a.key := (edits_perform a call).key
    rw [exchanges]
    rcases first with apart | ⟨now, header, id, rfl, namedHeader, fits, fitsEnd⟩
    · -- Nothing is asked for the client, and it holds what it held.
      have silent : a.exchange? uid call = none := by
        unfold exchange?
        split
        · rw [show Header.names uid _ = false from apart, if_neg Bool.false_ne_true]
        · rfl
      have later := ih (named.perform call) (holds.apart named apart) others
      rw [key] at later
      rwa [silent, Option.toList_none, List.nil_append]
    · obtain ⟨e, asked⟩ : ∃ e, a.exchange? uid (.requestToken now header id) = some e :=
        ⟨_, if_pos (Header.names_eq_true namedHeader)⟩
      obtain ⟨answer, holdsNew⟩ := holds.requestToken namedHeader fits fitsEnd asked
      obtain ⟨next, chain, fitsLater⟩ := ih (named.perform _) holdsNew others
      rw [key] at next chain
      rw [asked, Option.toList_some, List.singleton_append]
      refine ⟨?_, List.isChain_cons.2 ⟨fun f isNext g given => ?_, chain⟩, ?_⟩
      · rintro _ ⟨⟩
        exact answer
      · obtain rfl := Except.ok.inj (answer.symm.trans given)
        rw [next f isNext, current, Option.filter_some]
        change _ = Except.ok (if f.now ≤ (current held e uid period).expiresAt then _ else _)
        split <;> simp_all [Exchange.renewal]
      · rw [List.forall_mem_cons]
        refine ⟨?_, fitsLater⟩
        rw [exchange?, if_pos (Header.names_eq_true namedHeader), Option.some_inj] at asked
        exact asked ▸ ⟨fits, fitsEnd⟩

/-! ### The tokens of a client -/

/-- The request `e` is answered with a token that is good for `period`, and good at the time of the
request. -/
structure Exchange.Served (key : String) (period : Int) (e : Exchange) (claims : Claims) :
    Prop where
  /-- The token is handed out. -/
  answer : e.answer = .ok (signedGrant key claims)
  /-- Its times fit 64 bits. -/
  fits : claims.FitsTimes
  /-- It is good for the period. -/
  lasts : claims.period = period
  /-- Its time has begun. -/
  started : claims.issuedAt ≤ e.now
  /-- It is not past its time. -/
  unexpired : e.now ≤ claims.expiresAt

variable {e f : Exchange} {es : List Exchange} {claims : Claims}

theorem served_renewal (good : 0 ≤ period) (fits : (e.claims uid period).FitsTimes)
    (renewed : e.answer = .ok (e.renewal key uid period)) :
    e.Served key period (e.claims uid period) where
  answer := renewed
  fits := fits
  lasts := by simp only [Claims.period, Exchange.claims]; omega
  started := Int.le_refl _
  unexpired := by simp only [Exchange.claims]; omega

theorem Exchange.Served.follow (served : e.Served key period claims) (good : 0 ≤ period)
    (fits : (f.claims uid period).FitsTimes) (later : e.now ≤ f.now)
    (follows : e.Follows key uid period f) : f.Served key period
      (if f.now ≤ claims.expiresAt then claims else f.claims uid period) := by
  have answer := follows _ served.answer
  change f.answer = .ok (if f.now ≤ claims.expiresAt then _ else _) at answer
  split at answer
  · rename_i unexpired
    rw [if_pos unexpired]
    exact ⟨answer, served.fits, served.lasts, Int.le_trans served.started later, unexpired⟩
  · rename_i expired
    rw [if_neg expired]
    exact served_renewal good fits answer

/-- Of the requests `es` that follow `e`, each is answered with the same token if and only if that
is still good. -/
theorem served_of_isChain (good : 0 ≤ period)
    (chain : (e :: es).IsChain (Exchange.Follows key uid period))
    (ordered : (e :: es).Pairwise (·.now ≤ ·.now))
    (fits : ∀ f ∈ es, (f.claims uid period).FitsTimes) (served : e.Served key period claims) :
    ∀ f ∈ es, ∃ claims', f.Served key period claims' ∧
      (claims' = claims ↔ f.now ≤ claims.expiresAt) := by
  -- The induction goes from the request to the one that follows it, with the token of that one.
  induction es generalizing e claims with
  | nil => exact nofun
  | cons next rest ih =>
    obtain ⟨follows, chain⟩ := List.isChain_cons_cons.1 chain
    obtain ⟨after, ordered⟩ := List.pairwise_cons.1 ordered
    obtain ⟨fitsNext, fits⟩ := List.forall_mem_cons.1 fits
    have servedNext := served.follow good fitsNext (after next List.mem_cons_self) follows
    have renewed (f : Exchange) {claims' : Claims} (expired : claims.expiresAt < f.now)
        (servedLater : f.Served key period claims') : claims' ≠ claims := by
      rintro rfl
      exact absurd servedLater.unexpired (Int.not_le.2 expired)
    rintro f (_ | ⟨_, listed⟩)
    · refine ⟨_, servedNext, ?_⟩
      by_cases unexpired : next.now ≤ claims.expiresAt
      · exact iff_of_true (if_pos unexpired) unexpired
      · exact iff_of_false (renewed next (Int.not_le.1 unexpired) servedNext) unexpired
    · obtain ⟨claims', servedLater, same⟩ := ih chain ordered fits servedNext f listed
      refine ⟨claims', servedLater, ?_⟩
      by_cases unexpired : next.now ≤ claims.expiresAt
      · rwa [if_pos unexpired] at same
      · have late : claims.expiresAt < f.now :=
          Int.lt_of_lt_of_le (Int.not_le.1 unexpired) ((List.pairwise_cons.1 ordered).1 f listed)
        exact iff_of_false (renewed f late servedLater) (Int.not_le.2 late)

theorem text_sign_inj {c d : Claims} (fits : c.FitsTimes) (fits' : d.FitsTimes) :
    (AccessToken.sign key c).text = (AccessToken.sign key d).text ↔ c = d := by
  refine ⟨fun same => ?_, fun same => by rw [same]⟩
  have read := AccessToken.claims_sign key fits
  rw [show AccessToken.sign key c = .sign key d from congrArg AccessToken.mk same,
    AccessToken.claims_sign key fits'] at read
  exact (Except.ok.inj read).symm

/-- The requests `e` and `f` of a client are answered with the same token if and only if the token
of `e` is still good at `f`. -/
def Exchange.Converges (e f : Exchange) : Prop :=
  ∀ g h, e.answer = .ok g → f.answer = .ok h →
    (h = g ↔ f.now ≤ g.expiresAt) ∧ (h.accessToken = g.accessToken ↔ f.now ≤ g.expiresAt)

/-- The request `e` and those that follow it converge, if it is `Served`. -/
theorem converges_of_isChain (good : 0 ≤ period)
    (chain : (e :: es).IsChain (Exchange.Follows key uid period))
    (ordered : (e :: es).Pairwise (·.now ≤ ·.now))
    (fits : ∀ f ∈ es, (f.claims uid period).FitsTimes) (served : e.Served key period claims) :
    (e :: es).Pairwise Exchange.Converges := by
  induction es generalizing e claims with
  | nil => exact List.pairwise_singleton ..
  | cons next rest ih =>
    have all := served_of_isChain good chain ordered fits served
    obtain ⟨follows, chain'⟩ := List.isChain_cons_cons.1 chain
    obtain ⟨claims', servedNext, -⟩ := all next List.mem_cons_self
    refine List.pairwise_cons.2 ⟨fun f listed g h given given' => ?_,
      ih chain' (List.pairwise_cons.1 ordered).2 (List.forall_mem_cons.1 fits).2 servedNext⟩
    obtain ⟨other, servedLater, same⟩ := all f listed
    obtain rfl := Except.ok.inj (served.answer.symm.trans given)
    obtain rfl := Except.ok.inj (servedLater.answer.symm.trans given')
    have token : (signedGrant key other).accessToken = (signedGrant key claims).accessToken ↔
        f.now ≤ (signedGrant key claims).expiresAt :=
      (text_sign_inj servedLater.fits served.fits).trans same
    refine ⟨⟨fun equal => token.1 (by rw [equal]), fun unexpired => ?_⟩, token⟩
    rw [same.2 unexpired]

/-- If the first request of `es` is answered with a new token, all of them are served and
converge. -/
theorem served_of_head? (good : 0 ≤ period)
    (first : ∀ e ∈ es.head?, e.answer = .ok (e.renewal key uid period))
    (chain : es.IsChain (Exchange.Follows key uid period))
    (ordered : es.Pairwise (·.now ≤ ·.now))
    (fits : ∀ e ∈ es, (e.claims uid period).FitsTimes) :
    (∀ e ∈ es, ∃ claims, e.Served key period claims) ∧ es.Pairwise Exchange.Converges := by
  cases es with
  | nil => exact ⟨nofun, .nil⟩
  | cons e es =>
    obtain ⟨fitsFirst, fits⟩ := List.forall_mem_cons.1 fits
    have served := served_renewal good fitsFirst (first e rfl)
    refine ⟨List.forall_mem_cons.2 ⟨⟨_, served⟩, fun f listed => ?_⟩,
      converges_of_isChain good chain ordered fits served⟩
    obtain ⟨claims, servedLater, -⟩ := served_of_isChain good chain ordered fits served f listed
    exact ⟨claims, servedLater⟩

/-- A client `uid` that holds no token asks for tokens, each time no earlier than before. Each
request is answered with a token that is good for `record.period`, and good at the time of the
request. The first is answered with a new one, and each other one with the token before it as long
as that is good, and then with a new one (`Exchange.Follows`). So two requests are answered with the
same token if and only if that of the first is still good at the second (`Exchange.Converges`). -/
theorem refreshes_converge {config : AuthConfig} (built : a.registry = .ofConfig config)
    (before : List Call) (known : (a.run before).registry.get? uid = some record)
    (allowed : record.authorized) (registered : record.secret.any (·.verify secret))
    (none : record.token = none) (good : 0 ≤ record.period)
    (listed : ∀ call ∈ calls, call.Apart uid ∨ call.Asks uid secret record.period)
    (ordered : ((a.run before).exchanges uid calls).Pairwise (·.now ≤ ·.now)) :
    (∀ e ∈ (a.run before).exchanges uid calls, ∃ g, e.answer = .ok g ∧ g.issuedAt ≤ e.now ∧
      e.now ≤ g.expiresAt ∧ g.expiresIn = record.period ∧
      g.expiresAt - g.issuedAt = record.period) ∧
    (∀ e ∈ ((a.run before).exchanges uid calls).head?,
      e.answer = .ok (e.renewal a.key uid record.period)) ∧
    ((a.run before).exchanges uid calls).IsChain (Exchange.Follows a.key uid record.period) ∧
    ((a.run before).exchanges uid calls).Pairwise Exchange.Converges := by
  have key : (a.run before).key = a.key :=
    List.foldlRecOn before Authority.perform (motive := fun b => b.key = a.key) rfl
      fun b same call _ => ((edits_perform b call).key).trans same
  have holds : (a.run before).Holds uid secret record.period .none :=
    ⟨⟨record, known, allowed, registered, rfl, none⟩, nofun, nofun⟩
  obtain ⟨first, chain, fits⟩ := answers_exchanges (named_run built before) holds listed
  rw [key] at first chain
  obtain ⟨all, converge⟩ := served_of_head? good first chain ordered fits
  refine ⟨fun e made => ?_, first, chain, converge⟩
  obtain ⟨claims, served⟩ := all e made
  exact ⟨_, served.answer, served.started, served.unexpired, served.lasts, served.lasts⟩

/-- Requests of a device at the start, in the last second of its token, and after it, while tokens
of new records are to be good for a minute only, and others come and go. -/
def deviceRequests : List Call :=
  [.requestToken 0 deviceHeader "t", .setExpiry { device := 60 },
    .addIdentity ⟨"other", .device, none⟩, .requestToken 3600 deviceHeader "u", .revoke "other",
    .requestToken 3601 deviceHeader "v"]

/-- Of the `deviceRequests`, the second is answered with the token of the first, and the third with
a token that is good for an hour again. -/
theorem refreshes_converge_device : ∃ e f g,
    enrolled.exchanges "device" deviceRequests = [e, f, g] ∧ f.answer = e.answer ∧
      g.answer = .ok (g.renewal "key" "device" 3600) := by
  have built : withDevice.registry = .ofConfig deviceConfig := rfl
  have known : enrolled.registry.get? "device" = some enrolledRecord := by decide +kernel
  have names : Header.names "device" deviceHeader = true := Header.names_eq_true basic_deviceHeader
  obtain ⟨e, f, g, requests, atStart, inTime, late⟩ : ∃ e f g : Exchange,
      enrolled.exchanges "device" deviceRequests = [e, f, g] ∧ e.now = 0 ∧ f.now = 3600 ∧
        g.now = 3601 := by
    simp only [deviceRequests, exchanges, exchange?, names, if_true, Option.toList]
    exact ⟨_, _, _, rfl, rfl, rfl, rfl⟩
  have asks (now : Int) (id : String) (fits : Fits now) (fitsEnd : Fits (now + 3600)) :
      Call.Asks "device" "s" 3600 (.requestToken now deviceHeader id) :=
    ⟨now, deviceHeader, id, rfl, basic_deviceHeader, fits, fitsEnd⟩
  have listed : ∀ call ∈ deviceRequests,
      call.Apart "device" ∨ call.Asks "device" "s" enrolledRecord.period := by
    simp only [deviceRequests, List.forall_mem_cons]
    exact ⟨.inr (asks 0 "t" (by decide) (by decide)), .inl trivial,
      .inl (by simp [Call.Apart]), .inr (asks 3600 "u" (by decide) (by decide)),
      .inl (by simp [Call.Apart]), .inr (asks 3601 "v" (by decide) (by decide)), nofun⟩
  obtain ⟨-, first, chain, -⟩ := refreshes_converge built [.register "device" "s"] known rfl
    (by decide +kernel) rfl (by decide) listed
    (by rw [show withDevice.run [.register "device" "s"] = enrolled from rfl, requests]
        simp [atStart, inTime, late])
  rw [show withDevice.run [.register "device" "s"] = enrolled from rfl, requests] at first chain
  have answer := first e rfl
  obtain ⟨second, chain⟩ := List.isChain_cons_cons.1 chain
  obtain ⟨third, -⟩ := List.isChain_cons_cons.1 chain
  have ends : (e.renewal withDevice.key "device" enrolledRecord.period).expiresAt = 3600 := by
    change e.now + 3600 = 3600
    omega
  have same := second _ answer
  rw [ends, inTime, if_pos (by decide), ← answer] at same
  have renewed := third _ (same.trans answer)
  rw [ends, late, if_neg (by decide)] at renewed
  exact ⟨e, f, g, requests, same, renewed⟩

end Authority

end GraphBroker
