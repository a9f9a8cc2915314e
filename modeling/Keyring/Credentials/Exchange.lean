import Keyring.Accounts.Attempts
import Keyring.Credentials.Delegation

/-!
# What an exchange rests on

The history of an exchange that has returned: the authority it was shown, the
account it read, and the two instants from which the minted token and its
reported expiry are computed.
-/

set_option autoImplicit false

namespace Keyring

open Interleave Relational

variable {env : Env} {es : List (Event (machine env))}

/-! ## Whole seconds -/

theorem withoutMicroseconds_eq (instant : Int) :
    withoutMicroseconds instant = seconds (instant / 1000000) := by
  have split : instant - instant % 1000000 = instant / 1000000 * 1000000 := by omega
  exact split

/-! ## The history of an exchange -/

/-- The authority that was shown, as the exchange has found it: whom it names and
until when. -/
inductive Shown (env : Env) (service audience : String) (userToken grantId : Option String)
    (accountId : String) (deadline : Instant) : List (Event (machine env)) → Prop where
  | token {token : String} {claims : TokenClaims} {i : Nat} {now : Instant} {s s' : World}
      (sent : userToken = some token) (decoded : env.jwt.decode token = some claims)
      (issuer : claims.iss = env.settings.issuer) (aud : claims.aud = service)
      (unexpired : now < seconds claims.exp) (subject : accountId = claims.sub)
      (ends : deadline = seconds claims.exp) :
      Shown env service audience userToken grantId accountId deadline [⟨i, .now, now, s, s'⟩]
  | grant {held : String} {grant : OfflineGrant} {i : Nat} {s s' : World}
      (unsent : userToken = none) (sent : grantId = some held)
      (unrevoked : grant.revokedAt = none) (listed : audience ∈ grant.audiences)
      (subject : accountId = grant.accountId) (ends : deadline = grant.expiresAt) :
      Shown env service audience userToken grantId accountId deadline
        [⟨i, .delegations (.forExchange held service), .ok (some grant), s, s'⟩]

/-- What was minted, from the instant at which the lifetime was computed and the
one at which the token was issued. -/
structure MintedAt (env : Env) (audience accountId : String) (deadline : Instant)
    (ttlSeconds : Int) (now issued : Instant) (minted : ExchangedToken) : Prop where
  lifetime : minted.expiresIn =
    min (min ttlSeconds env.settings.accessTokenTtlSeconds) (wholeSeconds (deadline - now))
  positive : 0 < minted.expiresIn
  token : minted.token = env.jwt.encode {
    iss := env.settings.issuer
    sub := accountId
    aud := audience
    iat := wholeSeconds issued
    exp := wholeSeconds (issued + seconds minted.expiresIn) }
  expiresAt : minted.expiresAt = withoutMicroseconds (now + seconds minted.expiresIn)

theorem verifyAccess_bind_returned {α : Type} {token audience : String}
    {f : VerifiedAccessToken → Service env α} {b : α}
    (path : Path (TokenSigner.verifyAccess env token audience >>= f) es (.done (.ok b))) :
    ∃ claims i now s s' rest, es = ⟨i, .now, now, s, s'⟩ :: rest ∧
      env.jwt.decode token = some claims ∧ claims.iss = env.settings.issuer ∧
      claims.aud = audience ∧ now < seconds claims.exp ∧
      Path (f ⟨claims.sub, seconds claims.exp⟩) rest (.done (.ok b)) := by
  unfold TokenSigner.verifyAccess at path
  split at path
  · exact (throw_returned path).elim
  · rename_i claims decoded
    rw [bind_assoc] at path
    obtain ⟨accepted, verified⟩ := refuseIf_bind_returned path
    rw [bind_assoc] at verified
    obtain ⟨i, now, s, s', rest, rfl, reading⟩ := ask_bind_returned verified
    rw [bind_assoc] at reading
    obtain ⟨unexpired, dating⟩ := refuseIf_bind_returned reading
    rw [bind_assoc] at dating
    obtain ⟨expiresAt, dated, final⟩ := ofExcept_bind_returned dating
    rw [fromTimestamp_ok dated] at final
    simp only [not_or, not_not] at accepted
    exact ⟨claims, i, now, s, s', rest, rfl, decoded, accepted.1, accepted.2,
      lt_of_timestamp_lt (not_le.mp unexpired), final⟩

theorem delegationStore_bind_returned {α : Type} {o : DelegationOp} {f : o.Ans → Service env α}
    {b : α} (path : Path (delegationStore o >>= f) es (.done (.ok b))) :
    ∃ i v s s' rest, es = ⟨i, .delegations o, .ok v, s, s'⟩ :: rest ∧
      Path (f v) rest (.done (.ok b)) := by
  obtain ⟨i, a, v, s, s', rest, split, rfl, final⟩ := store_bind_returned path
  exact ⟨i, v, s, s', rest, split, final⟩

/-- A step of an audit record. -/
def Op.records : Op → Prop
  | .draw | .now | .audit _ => True
  | _ => False

namespace DelegationService

theorem record_uses (action : AuditAction) (actorId : String) (targetId : Option String)
    (detail : String) : (record env action actorId targetId detail).Uses Op.records := by
  refine Prog.Uses.bind (ask_uses trivial) fun entryId => ?_
  exact Prog.Uses.bind (ask_uses trivial) fun now => auditLog_uses trivial

theorem allow_ok {service : String} {audiences : List String} (ok : allow env service audiences = .ok ())
    {audience : String} (member : audience ∈ audiences) :
    ∃ allowed, env.settings.exchangeAudiences.lookup service = some allowed ∧ audience ∈ allowed := by
  unfold allow at ok
  dsimp only at ok
  split at ok
  · cases ok
  · rename_i within
    simp only [Bool.or_eq_true, Bool.not_eq_true', not_or, Bool.not_eq_false, List.all_eq_true,
      List.contains_iff_mem] at within
    have inside := within.2 audience member
    cases found : env.settings.exchangeAudiences.lookup service with
    | none =>
        rw [found] at inside
        cases inside
    | some allowed =>
        rw [found] at inside
        exact ⟨allowed, rfl, inside⟩

theorem authority_bind_returned {α : Type} {service audience : String}
    {userToken grantId : Option String} (one : ¬(userToken.isNone = grantId.isNone))
    {f : String × Instant → Service env α} {b : α}
    (path : Path (authority env service audience userToken grantId >>= f) es (.done (.ok b))) :
    ∃ accountId deadline shown rest, es = shown ++ rest ∧
      Shown env service audience userToken grantId accountId deadline shown ∧
      Path (f (accountId, deadline)) rest (.done (.ok b)) := by
  unfold authority at path
  cases userToken with
  | some token =>
      dsimp only at path
      rw [bind_assoc] at path
      obtain ⟨claims, i, now, s, s', rest, rfl, decoded, issuer, aud, unexpired, final⟩ :=
        verifyAccess_bind_returned path
      exact ⟨_, _, [_], rest, rfl, .token rfl decoded issuer aud unexpired rfl rfl, final⟩
  | none =>
      cases grantId with
      | none => exact absurd rfl one
      | some held =>
          dsimp only at path
          rw [bind_assoc] at path
          obtain ⟨i, found, s, s', rest, rfl, loaded⟩ := delegationStore_bind_returned path
          cases found with
          | none => exact (throw_returned loaded).elim
          | some grant =>
              dsimp only at loaded
              rw [bind_assoc] at loaded
              obtain ⟨accepted, final⟩ := refuseIf_bind_returned loaded
              simp only [not_or, not_not, Bool.not_eq_true, Option.isSome_eq_false_iff,
                Option.isNone_iff_eq_none] at accepted
              exact ⟨_, _, [_], rest, rfl, .grant rfl rfl accepted.1 accepted.2 rfl rfl, final⟩

theorem mint_returned {service audience accountId : String} {deadline : Instant} {ttlSeconds : Int}
    {grantId : Option String} {minted : ExchangedToken}
    (path : Path (mint env service audience accountId deadline ttlSeconds grantId) es
      (.done (.ok minted))) :
    ∃ i now s s' j issued t t' rest,
      es = ⟨i, .now, now, s, s'⟩ :: ⟨j, .now, issued, t, t'⟩ :: rest ∧
      (∀ e ∈ rest, e.op.records) ∧
      MintedAt env audience accountId deadline ttlSeconds now issued minted := by
  obtain ⟨i, now, s, s', rest, rfl, read⟩ := ask_bind_returned path
  obtain ⟨positive, signing⟩ := refuseIf_bind_returned read
  unfold TokenSigner.issue at signing
  rw [bind_assoc] at signing
  obtain ⟨j, issued, t, t', rest', rfl, recording⟩ := ask_bind_returned signing
  rw [bind_assoc] at recording
  obtain ⟨expires, added, recording⟩ := ofExcept_bind_returned recording
  obtain ⟨-, rfl⟩ := datetimeAdd_eq_ok.mp added
  rw [Prog.pure_eq, Prog.bind_ok] at recording
  obtain ⟨_, recorded, ended, rfl, record, reporting⟩ := recording.bind_returned
  obtain ⟨reported, added', final⟩ := ofExcept_bind_returned reporting
  obtain ⟨-, rfl⟩ := datetimeAdd_eq_ok.mp added'
  obtain ⟨rfl, rfl⟩ := pure_returned final
  rw [List.append_nil]
  exact ⟨i, now, s, s', j, issued, t, t', recorded, rfl, (record.uses (record_uses _ _ _ _)).1,
    rfl, not_le.mp positive, rfl, rfl⟩

theorem exchange_returned {service audience : String} {ttlSeconds : Int}
    {userToken grantId : Option String} {minted : ExchangedToken}
    (path : Path (exchange env service audience ttlSeconds userToken grantId) es
      (.done (.ok minted))) :
    ∃ accountId deadline shown account i s s' j now t t' k issued u u' rest,
      es = shown ++ ⟨i, .accounts (.get accountId), .ok (some account), s, s'⟩ ::
        ⟨j, .now, now, t, t'⟩ :: ⟨k, .now, issued, u, u'⟩ :: rest ∧
      (∀ e ∈ rest, e.op.records) ∧
      ¬(userToken.isNone = grantId.isNone) ∧
      allow env service [audience] = .ok () ∧
      Shown env service audience userToken grantId accountId deadline shown ∧
      account.status = .active ∧
      MintedAt env audience accountId deadline ttlSeconds now issued minted := by
  obtain ⟨one, admitted⟩ := refuseIf_bind_returned path
  obtain ⟨_, allowed, showing⟩ := ofExcept_bind_returned admitted
  obtain ⟨accountId, deadline, shown, rest, rfl, authority, loading⟩ :=
    authority_bind_returned one showing
  obtain ⟨i, found, s, s', rest', rfl, loaded⟩ := accountStore_bind_returned loading
  cases found with
  | none => exact (throw_returned loaded).elim
  | some account =>
      obtain ⟨active, minting⟩ := refuseIf_bind_returned loaded
      obtain ⟨j, now, t, t', k, issued, u, u', rest, rfl, records, minted⟩ := mint_returned minting
      exact ⟨accountId, deadline, shown, account, i, s, s', j, now, t, t', k, issued, u, u', rest,
        rfl, records, one, allowed, authority, not_not.mp active, minted⟩

end DelegationService

end Keyring
