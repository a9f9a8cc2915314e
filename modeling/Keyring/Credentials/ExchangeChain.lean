import Keyring.Credentials.Exchange
import Keyring.Runs
import Keyring.Scenario

/-!
# Chains of exchanges

A token that was minted can be presented for the next one.  However long this
goes on, and whatever lifetimes are asked for, the last token ends no later than
the authority that the first one was minted from.
-/

set_option autoImplicit false

namespace Keyring

open Interleave Relational

variable {env : Env}

/-- The request `i` is an exchange that has returned `minted`, and the clock has
shown it one instant throughout. -/
structure ExchangedAt (calls : List Call) (tr : List (Event (machine env)))
    (d : Config (machine env) Error Answer) (i : Nat) (instant : Instant)
    (userToken grantId : Option String) (minted : ExchangedToken) : Prop where
  asked : ∃ service audience ttlSeconds,
    calls[i]? = some (.exchange service audience ttlSeconds userToken grantId)
  returned : d.pool[i]? = some (.done (.ok (.exchanged minted)))
  instant : ∀ e ∈ ofThread i tr, ∀ now, Op.shown e.op e.ans = some now → now = instant

/-- Exchanges of a run, the last one first: each presents the token that the one
before it has minted, and the first an authority that ends at `expiry`. -/
inductive Chain (calls : List Call) (tr : List (Event (machine env)))
    (d : Config (machine env) Error Answer) (expiry : Instant) :
    List (Instant × ExchangedToken) → Prop where
  | token {i : Nat} {instant : Instant} {token : String} {claims : TokenClaims}
      {minted : ExchangedToken} (decoded : env.jwt.decode token = some claims)
      (ends : expiry = seconds claims.exp)
      (exchanged : ExchangedAt calls tr d i instant (some token) none minted) :
      Chain calls tr d expiry [(instant, minted)]
  | grant {i : Nat} {instant : Instant} {held service : String} {grant : OfflineGrant}
      {minted : ExchangedToken} {s s' : World}
      (read : ⟨i, .delegations (.forExchange held service), .ok (some grant), s, s'⟩ ∈ tr)
      (ends : expiry = grant.expiresAt)
      (exchanged : ExchangedAt calls tr d i instant none (some held) minted) :
      Chain calls tr d expiry [(instant, minted)]
  | next {i : Nat} {instant earlier : Instant} {minted presented : ExchangedToken}
      {links : List (Instant × ExchangedToken)}
      (before : Chain calls tr d expiry ((earlier, presented) :: links))
      (exchanged : ExchangedAt calls tr d i instant (some presented.token) none minted) :
      Chain calls tr d expiry ((instant, minted) :: (earlier, presented) :: links)

/-- A minted token lives no longer than `expiry` and the server's limit, and
longer than the second it was minted in; its expiry is the one reported. -/
structure Within (env : Env) (expiry instant : Instant) (minted : ExchangedToken) (exp : Int) :
    Prop where
  authority : seconds exp ≤ expiry
  server : seconds exp ≤ instant + seconds env.settings.accessTokenTtlSeconds
  later : withoutMicroseconds instant < seconds exp
  reported : minted.expiresAt = seconds exp

theorem MintedAt.within {audience accountId : String} {deadline instant : Int} {ttlSeconds : Int}
    {minted : ExchangedToken} (epoch : 0 ≤ instant)
    (dense : instant + seconds minted.expiresIn < seconds (2 ^ 34))
    (minting : MintedAt env audience accountId deadline ttlSeconds instant instant minted) :
    ∃ claims, minted.token = env.jwt.encode claims ∧
      Within env deadline instant minted claims.exp := by
  have positive := minting.positive
  have lifetime := minting.lifetime
  have dense : instant + minted.expiresIn * 1000000 < 2 ^ 34 * 1000000 := dense
  have bounded : minted.expiresIn * 1000000 ≤ deadline - instant :=
    seconds_le_of_le_wholeSeconds positive (by omega) (by omega)
  have exp : wholeSeconds (instant + seconds minted.expiresIn) =
      instant / 1000000 + minted.expiresIn := by
    have late : 0 ≤ instant + minted.expiresIn * 1000000 := by omega
    have floor : (instant + minted.expiresIn * 1000000) / 1000000 =
        instant / 1000000 + minted.expiresIn := by omega
    rw [← floor]
    exact wholeSeconds_eq late dense
  refine ⟨_, minting.token, ?_⟩
  dsimp only
  rw [exp]
  constructor
  · have ends : (instant / 1000000 + minted.expiresIn) * 1000000 ≤ deadline := by omega
    exact ends
  · have ends : (instant / 1000000 + minted.expiresIn) * 1000000 ≤
        instant + env.settings.accessTokenTtlSeconds * 1000000 := by omega
    exact ends
  · rw [withoutMicroseconds_eq]
    have ends : instant / 1000000 * 1000000 < (instant / 1000000 + minted.expiresIn) * 1000000 := by
      omega
    exact ends
  · rw [minting.expiresAt]
    have floor : (instant + minted.expiresIn * 1000000) / 1000000 =
        instant / 1000000 + minted.expiresIn := by omega
    rw [← floor]
    exact withoutMicroseconds_eq _

section Runs

variable {w : World} {calls : List Call} {d : Config (machine env) Error Answer}
  {tr : List (Event (machine env))}

theorem ExchangedAt.minting {i : Nat} {instant : Instant} {userToken grantId : Option String}
    {minted : ExchangedToken} (run : Run (start env w calls) tr d)
    (exchanged : ExchangedAt calls tr d i instant userToken grantId minted) :
    ∃ service audience ttlSeconds accountId deadline shown,
      calls[i]? = some (.exchange service audience ttlSeconds userToken grantId) ∧
      (∀ e ∈ ofThread i tr, ∀ o, e.op = .delegations o → e ∈ shown) ∧
      Shown env service audience userToken grantId accountId deadline shown ∧
      MintedAt env audience accountId deadline ttlSeconds instant instant minted := by
  obtain ⟨service, audience, ttlSeconds, asked⟩ := exchanged.asked
  obtain ⟨q, here, path⟩ := path_of_run run i _ asked
  rw [exchanged.returned] at here
  cases here
  obtain ⟨p', inside, ended⟩ := returning_inv path
  obtain ⟨r, rfl, same⟩ := returning_done ended.symm
  cases r with
  | error e => cases same
  | ok minted' =>
      cases same
      obtain ⟨accountId, deadline, shown, account, _, _, _, j, now, t, t', k, issued, u, u',
        rest, history, records, -, -, authority, -, minting⟩ :=
          DelegationService.exchange_returned inside
      have only : ∀ e ∈ ofThread i tr, ∀ o, e.op = .delegations o → e ∈ shown := by
        intro e member o same
        rw [history] at member
        simp only [List.mem_append, List.mem_cons] at member
        rcases member with first | rfl | rfl | rfl | later
        · exact first
        · cases same
        · cases same
        · cases same
        · have recorded := records e later
          rw [same] at recorded
          exact recorded.elim
      have at_now : now = instant := by
        refine exchanged.instant ⟨j, .now, now, t, t'⟩ ?_ now rfl
        rw [history]
        simp
      have at_issued : issued = instant := by
        refine exchanged.instant ⟨k, .now, issued, u, u'⟩ ?_ issued rfl
        rw [history]
        simp
      subst at_now at_issued
      exact ⟨service, audience, ttlSeconds, accountId, deadline, shown, asked, only, authority,
        minting⟩

/-- In every chain of exchanges, each made at one instant from the epoch on, and for a
lifetime that ends within `2 ^ 34` seconds of it, no token outlives the authority that
the chain began with. -/
theorem chain_within (codec : ∀ claims read, env.jwt.decode (env.jwt.encode claims) = some read →
      read = claims) (run : Run (start env w calls) tr d) {expiry : Instant}
    {links : List (Instant × ExchangedToken)} (chain : Chain calls tr d expiry links)
    (dates : ∀ link ∈ links,
      0 ≤ link.1 ∧ link.1 + seconds link.2.expiresIn < seconds (2 ^ 34)) :
    ∀ link ∈ links, ∃ claims, link.2.token = env.jwt.encode claims ∧
      Within env expiry link.1 link.2 claims.exp := by
  induction chain with
  | token decoded ends exchanged =>
      obtain ⟨_, _, _, _, _, shown, asked, -, authority, minting⟩ := exchanged.minting run
      intro link member
      rw [List.mem_singleton.mp member]
      cases authority with
      | token sent decoded' _ _ _ _ ends' =>
          cases sent
          rw [decoded] at decoded'
          cases decoded'
          subst ends ends'
          exact minting.within (dates _ (by simp)).1 (dates _ (by simp)).2
      | grant unsent _ _ _ _ _ => cases unsent
  | grant read ends exchanged =>
      obtain ⟨_, _, _, _, _, shown, asked, only, authority, minting⟩ := exchanged.minting run
      intro link member
      rw [List.mem_singleton.mp member]
      have here := only _ (mem_ofThread.mpr ⟨read, rfl⟩) _ rfl
      cases authority with
      | token sent _ _ _ _ _ _ => cases sent
      | grant _ sent _ _ _ ends' =>
          cases List.mem_singleton.mp here
          subst ends ends'
          exact minting.within (dates _ (by simp)).1 (dates _ (by simp)).2
  | @next i instant earlier minted presented links before exchanged ih =>
      have each := ih fun link member => dates link (List.mem_cons_of_mem _ member)
      have dated := dates (instant, minted) (by simp)
      obtain ⟨_, _, _, _, deadline, shown, asked, -, authority, minting⟩ := exchanged.minting run
      intro link member
      rcases List.mem_cons.mp member with rfl | rest
      · obtain ⟨claims, same, within⟩ := each (earlier, presented) (by simp)
        obtain ⟨claims', minted', within'⟩ := minting.within dated.1 dated.2
        refine ⟨claims', minted', ⟨?_, within'.server, within'.later, within'.reported⟩⟩
        -- what was presented is the token minted before, so it ends no later
        have shorter : deadline ≤ expiry := by
          cases authority with
          | token sent decoded _ _ _ _ ends' =>
              cases sent
              rw [same] at decoded
              rw [ends', codec claims _ decoded]
              exact within.authority
          | grant unsent _ _ _ _ _ => cases unsent
        exact within'.authority.trans shorter
      · exact each link rest

end Runs

/-! ## Two exchanges -/

/-- The token that an exchange has returned. -/
def exchanged? {env : Env} : Option (Service env Answer) → Option ExchangedToken
  | some (.done (.ok (.exchanged minted))) => some minted
  | _ => none

theorem exchanged?_eq_some {env : Env} {found : Option (Service env Answer)} {minted : ExchangedToken}
    (returned : exchanged? found = some minted) :
    found = some (.done (.ok (.exchanged minted))) := by
  unfold exchanged? at returned
  split at returned
  · cases returned
    rfl
  · cases returned

/-- An exchange whose outcome and readings of the clock have been computed. -/
theorem exchangedAt_of_played {env : Env} {calls : List Call} {tr : List (Event (machine env))}
    {d : Config (machine env) Error Answer} {i : Nat} {instant : Instant}
    {userToken grantId : Option String} {minted : ExchangedToken}
    (asked : ∃ service audience ttlSeconds,
      calls[i]? = some (.exchange service audience ttlSeconds userToken grantId))
    (returned : exchanged? d.pool[i]? = some minted)
    (readings : ∀ e ∈ ofThread i tr, (Op.shown e.op e.ans).all (· = instant)) :
    ExchangedAt calls tr d i instant userToken grantId minted := by
  refine ⟨asked, exchanged?_eq_some returned, fun e member now shown => ?_⟩
  have here := readings e member
  rw [shown] at here
  simpa using here

namespace Scenario

/-- Bob's tokens, for a service to present until `exp`. -/
def bobToken (audience : String) (iat exp : Int) : String :=
  encodeClaims ⟨settings.issuer, "bob", audience, iat, exp⟩

theorem bobToken_decoded (audience : String) (iat exp : Int) :
    deployment.jwt.decode (bobToken audience iat exp) =
      some ⟨settings.issuer, "bob", audience, iat, exp⟩ := by
  rw [bobToken, deployment_decode]

def exchanges : List Call :=
  [.exchange "lucy-api" "user.home" 60 (some (bobToken "lucy-api" 0 100)) none,
    .exchange "user.home" "user.mail" 3600 (some (bobToken "user.home" 5 65)) none]

def exchangesRun : Config (machine deployment) Error Answer × List (Event (machine deployment)) :=
  (start deployment office exchanges).play
    (List.replicate 7 (0, given 5250000 "a") ++ List.replicate 7 (1, given 6750000 "b"))

def earlyExchange : List Call :=
  [.exchange "lucy-api" "user.home" 1 (some (bobToken "lucy-api" 0 100)) none]

/-- The clock stands one and a half seconds before the epoch. -/
def earlyRun : Config (machine deployment) Error Answer × List (Event (machine deployment)) :=
  (start deployment office earlyExchange).play (List.replicate 7 (0, given (-1500000) "a"))

def lateExchange : List Call :=
  [.exchange "lucy-api" "user.home" 60 (some (bobToken "lucy-api" 0 20000000000)) none]

/-- The clock stands a microsecond before a second of the year 2600. -/
def lateRun : Config (machine deployment) Error Answer × List (Event (machine deployment)) :=
  (start deployment office lateExchange).play
    (List.replicate 7 (0, given 19880899200999999 "a"))

def homeToken : ExchangedToken := ⟨bobToken "user.home" 5 65, 60, seconds 65⟩
def mailToken : ExchangedToken := ⟨bobToken "user.mail" 6 64, 58, seconds 64⟩
def earlyToken : ExchangedToken := ⟨bobToken "user.home" (-1) 0, 1, seconds (-1)⟩
def lateToken : ExchangedToken :=
  ⟨bobToken "user.home" 19880899201 19880899261, 60, seconds 19880899260⟩

theorem exchanges_chain : Chain exchanges exchangesRun.2 exchangesRun.1 (seconds 100)
    [(6750000, mailToken), (5250000, homeToken)] := by
  refine .next (i := 1) (.token (i := 0) (bobToken_decoded "lucy-api" 0 100) rfl ?_) ?_
  · exact exchangedAt_of_played ⟨_, _, _, rfl⟩ (by decide +kernel) (by decide +kernel)
  · exact exchangedAt_of_played ⟨_, _, _, rfl⟩ (by decide +kernel) (by decide +kernel)

end Scenario

open Scenario in
theorem chain_within_exchanges :
    Run (start deployment office exchanges) exchangesRun.2 exchangesRun.1 ∧
      ∀ link ∈ [((6750000 : Instant), mailToken), (5250000, homeToken)],
        ∃ claims, link.2.token = deployment.jwt.encode claims ∧
          Within deployment (seconds 100) link.1 link.2 claims.exp := by
  have run : Run (start deployment office exchanges) exchangesRun.2 exchangesRun.1 :=
    Config.play_run _ _
  refine ⟨run, chain_within (fun claims read same => ?_) run exchanges_chain (by decide)⟩
  rw [deployment_encode, deployment_decode] at same
  exact (Option.some.inj same).symm

namespace Scenario

/-- The run has a chain with a token that is not within what the first authority and the
server's limit leave it. -/
def Overstays (calls : List Call)
    (run : Config (machine deployment) Error Answer × List (Event (machine deployment)))
    (expiry : Instant) : Prop :=
  Run (start deployment office calls) run.2 run.1 ∧
    ∃ links, Chain calls run.2 run.1 expiry links ∧
      ∃ link ∈ links, ¬ ∃ claims, link.2.token = deployment.jwt.encode claims ∧
        Within deployment expiry link.1 link.2 claims.exp

theorem overstays {calls : List Call}
    {run : Config (machine deployment) Error Answer × List (Event (machine deployment))}
    {token audience : String} {iat exp : Int} {instant : Instant} {minted : ExchangedToken}
    {claims : TokenClaims} (ran : Run (start deployment office calls) run.2 run.1)
    (decoded : deployment.jwt.decode token = some claims)
    (exchanged : ExchangedAt calls run.2 run.1 0 instant (some token) none minted)
    (written : minted.token = bobToken audience iat exp) (other : minted.expiresAt ≠ seconds exp) :
    Overstays calls run (seconds claims.exp) := by
  refine ⟨ran, [(instant, minted)], .token decoded rfl exchanged, _, List.mem_singleton.mpr rfl, ?_⟩
  rintro ⟨claims', same, within⟩
  have read := congrArg deployment.jwt.decode same
  rw [deployment_encode, deployment_decode, written, bobToken_decoded] at read
  cases read
  exact other within.reported

/-- Before the epoch, the seconds of the token and of the reported expiry are
rounded differently; and centuries after it, where the float is the next second. -/
theorem chain_overstays : Overstays earlyExchange earlyRun (seconds 100) ∧
    Overstays lateExchange lateRun (seconds 20000000000) := by
  have early : ExchangedAt earlyExchange earlyRun.2 earlyRun.1 0 (-1500000)
      (some (bobToken "lucy-api" 0 100)) none earlyToken :=
    exchangedAt_of_played ⟨_, _, _, rfl⟩ (by decide +kernel) (by decide +kernel)
  have late : ExchangedAt lateExchange lateRun.2 lateRun.1 0 19880899200999999
      (some (bobToken "lucy-api" 0 20000000000)) none lateToken :=
    exchangedAt_of_played ⟨_, _, _, rfl⟩ (by decide +kernel) (by decide +kernel)
  exact ⟨overstays (Config.play_run _ _) (bobToken_decoded "lucy-api" 0 100) early rfl (by decide),
    overstays (Config.play_run _ _) (bobToken_decoded "lucy-api" 0 20000000000) late rfl
      (by decide)⟩

end Scenario

end Keyring
