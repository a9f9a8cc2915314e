import Keyring.Accounts.Signing
import Keyring.StoreCalls
import Keyring.Tokens.Client

/-!
# The signer and the two verifiers

`TokenSigner` over the library's own decoding, and how far it agrees with the
client's verifier on the tokens it issues.  The signer leaves the library's check
of `iat` on, so that a second clock, the wall clock, has a say in its answer.
-/

set_option autoImplicit false

namespace Keyring

open Interleave

/-! ## The signer -/

def TokenClaims.payload (claims : TokenClaims) : Secret :=
  [("iss", .str claims.iss), ("sub", .str claims.sub), ("aud", .str claims.aud),
    ("iat", .int claims.iat), ("exp", .int claims.exp)]

/-- The service's signing key, as its parts are used; the id is a thumbprint of
sixteen digits. -/
structure Signer (Key : Type) where
  issuer : String
  keyId : String
  publicKey : Key
  keyId_ne : keyId ≠ ""

section Signer

variable {Key : Type} (library : Jws Key) (numerals : Numerals) (signer : Signer Key)

def Signer.claims (now : Instant) (accountId audience : String) (expires : Instant) :
    TokenClaims where
  iss := signer.issuer
  sub := accountId
  aud := audience
  iat := wholeSeconds now
  exp := wholeSeconds expires

def Signer.issue (now : Instant) (accountId audience : String) (ttl : Instant) :
    Except Error String := do
  let expires ← datetimeAdd now ttl
  .ok (library.encode (signer.claims now accountId audience expires).payload signer.keyId)

/-- `now.timestamp() >= float(exp)` refuses; else the instant that `exp` names. -/
def unexpired (now : Instant) : Json → Except VerifyError Instant
  | .int n => whole n
  | .bool b => whole b.toNat
  | .float written => float written
  | .str s => match numerals.floatOfStr s with
      | some written => float written
      | none => .error (.raised .valueError)
  | .null | .arr _ | .obj _ => .error (.raised .typeError)
where
  whole (n : Int) : Except VerifyError Instant :=
    if timestamp now ≥ toFloat n then .error (.authentication badToken)
    else if seconds n > maxInstant then .error (.raised (numerals.outOfRange n))
    else .ok (seconds n)
  float (written : String) : Except VerifyError Instant :=
    if numerals.reached written now then .error (.authentication badToken)
    else match numerals.fromTimestamp written with
      | .ok instant => .ok instant
      | .error e => .error (.raised e)

/-- `wall` is what the library reads, `now` what the injected clock shows.  The
library has refused a token without a subject that is a string. -/
def Signer.verifyAccess (wall now : Instant) (token audience : String) :
    Except VerifyError VerifiedAccessToken := do
  let claims ← refuseInvalid badToken (library.decode
    { require := requiredClaims, verifyExp := false, strictAud := true }
    wall signer.publicKey token audience signer.issuer)
  let expiresAt ← unexpired numerals now ((claims.get "exp").getD .null)
  .ok ⟨((claims.get "sub").bind Json.asStr).getD "", expiresAt⟩

end Signer

/-! ## What an issued token decodes to -/

section Issued

variable {Key : Type} {library : Jws Key} {numerals : Numerals} {signer : Signer Key}
  {verifier : TokenVerifier Key} {claims : TokenClaims} {token requested : String}
  {wall now : Instant} {policy : AudiencePolicy}

@[simp] theorem TokenClaims.get_sub : claims.payload.get "sub" = some (.str claims.sub) := rfl
@[simp] theorem TokenClaims.get_aud : claims.payload.get "aud" = some (.str claims.aud) := rfl
@[simp] theorem TokenClaims.get_exp : claims.payload.get "exp" = some (.int claims.exp) := rfl

/-- What the library documents of a text that it wrote under the signer's key: the parts
read back; and where it is decoded for its issuer, with all its claims required and the
check of `exp` off, a token from the future of the wall clock is refused unless the check
of `iat` is off too, one for somebody else is refused, and any other is accepted. -/
structure Jws.Signed (library : Jws Key) (signer : Signer Key) (claims : TokenClaims)
    (token : String) : Prop where
  header : ∃ header, library.unverifiedHeader token = some header ∧
    header.get "kid" = some (.str signer.keyId)
  read : library.unverifiedPayload token = some claims.payload
  immature : ∀ strict wall requested, ¬ Passed wall claims.iat →
    ∃ e : JwtError, e.isInvalidToken = true ∧ library.decode
        { require := requiredClaims, verifyExp := false, strictAud := strict }
        wall signer.publicKey token requested claims.iss = .error e
  foreign : ∀ iatChecked strict wall requested, requested ≠ claims.aud →
    ∃ e : JwtError, e.isInvalidToken = true ∧ library.decode
        { require := requiredClaims, verifyExp := false, verifyIat := iatChecked,
          strictAud := strict }
        wall signer.publicKey token requested claims.iss = .error e
  accepted : ∀ iatChecked strict wall, claims.aud ≠ "" →
    (iatChecked = true → Passed wall claims.iat) → library.decode
        { require := requiredClaims, verifyExp := false, verifyIat := iatChecked,
          strictAud := strict }
        wall signer.publicKey token claims.aud claims.iss = .ok claims.payload

theorem refuseInvalid_error {α : Type} {message : String} {e : JwtError}
    (invalid : e.isInvalidToken = true) :
    (refuseInvalid message (.error e) : Except VerifyError α) = .error (.authentication message) := by
  rw [refuseInvalid, if_pos invalid]

theorem verifyAccess_issued (signed : library.Signed signer claims token)
    (issuer : claims.iss = signer.issuer) (named : claims.aud ≠ "") :
    signer.verifyAccess library numerals wall now token requested =
      if Passed wall claims.iat ∧ requested = claims.aud then
        (unexpired.whole numerals now claims.exp).map fun expiresAt => ⟨claims.sub, expiresAt⟩
      else .error (.authentication badToken) := by
  unfold Signer.verifyAccess
  rw [← issuer]
  by_cases ready : Passed wall claims.iat
  · by_cases same : requested = claims.aud
    · subst same
      rw [if_pos ⟨ready, rfl⟩, signed.accepted true true wall named fun _ => ready]
      simp only [refuseInvalid, bind, Except.bind, TokenClaims.get_exp, TokenClaims.get_sub,
        Option.getD_some, unexpired]
      cases unexpired.whole numerals now claims.exp <;> rfl
    · obtain ⟨e, invalid, refused⟩ := signed.foreign true true wall requested same
      rw [if_neg fun both => same both.2, refused, refuseInvalid_error invalid]
      rfl
  · obtain ⟨e, invalid, refused⟩ := signed.immature true wall requested ready
    rw [if_neg fun both => ready both.1, refused, refuseInvalid_error invalid]
    rfl

theorem verify_issued (signed : library.Signed signer claims token)
    (issuer : claims.iss = verifier.issuer) (named : claims.aud ≠ "") (account : claims.sub ≠ "")
    (published : verifier.keyFor signer.keyId = .ok signer.publicKey) :
    verifier.verify library numerals wall now token policy =
      if policy.accepts claims.aud = true ∧ ¬ Passed now claims.exp then
        .ok ⟨claims.sub, claims.aud⟩
      else TokenVerifier.refuse := by
  have decoded := signed.accepted false false wall named fun checked => absurd checked (by decide)
  have kid : TokenVerifier.kidOf library token = .ok signer.keyId := by
    obtain ⟨header, read, names⟩ := signed.header
    simp [TokenVerifier.kidOf, read, names, signer.keyId_ne]
  have asserted : TokenVerifier.audienceOf library token = .ok claims.aud := by
    simp [TokenVerifier.audienceOf, signed.read]
  simp only [TokenVerifier.verify, kid, published, asserted, ← issuer, bind, Except.bind]
  rw [decoded]
  by_cases beyond : Passed now claims.exp
  · simp [beyond, refuseInvalid, TokenVerifier.checkExpiry, TokenVerifier.refuse]
  · by_cases accepted : policy.accepts claims.aud = true <;>
      simp [beyond, accepted, account, refuseInvalid, TokenVerifier.checkExpiry]

end Issued

/-! ## Agreement -/

def Accepted {α : Type} (answer : Except VerifyError α) : Prop := ∃ a, answer = .ok a

section Accepting

variable {Key : Type} {library : Jws Key} {numerals : Numerals} {signer : Signer Key}
  {verifier : TokenVerifier Key} {claims : TokenClaims} {token requested : String}
  {wall now : Instant} {policy : AudiencePolicy}

theorem accepted_whole {n : Int} : Accepted (unexpired.whole numerals now n) ↔
    timestamp now < toFloat n ∧ seconds n ≤ maxInstant := by
  rw [unexpired.whole]
  by_cases reached : timestamp now ≥ toFloat n
  · rw [if_pos reached]
    exact iff_of_false (fun ⟨_, same⟩ => by cases same) fun both => not_lt.mpr reached both.1
  · rw [if_neg reached]
    by_cases late : seconds n > maxInstant
    · rw [if_pos late]
      exact iff_of_false (fun ⟨_, same⟩ => by cases same) fun both => not_le.mpr late both.2
    · rw [if_neg late]
      exact iff_of_true ⟨_, rfl⟩ ⟨not_le.mp reached, not_lt.mp late⟩

theorem accepted_verifyAccess (signed : library.Signed signer claims token)
    (issuer : claims.iss = signer.issuer) (named : claims.aud ≠ "") :
    Accepted (signer.verifyAccess library numerals wall now token requested) ↔
      (Passed wall claims.iat ∧ requested = claims.aud) ∧
        timestamp now < toFloat claims.exp ∧ seconds claims.exp ≤ maxInstant := by
  rw [verifyAccess_issued signed issuer named, ← @accepted_whole numerals now claims.exp]
  split
  · next both =>
      rw [and_iff_right both]
      cases unexpired.whole numerals now claims.exp with
      | error e => exact iff_of_false (fun ⟨_, same⟩ => by cases same) fun ⟨_, same⟩ => by cases same
      | ok expiresAt => exact iff_of_true ⟨_, rfl⟩ ⟨_, rfl⟩
  · next refused => exact iff_of_false (fun ⟨_, same⟩ => by cases same) fun all => refused all.1

theorem accepted_verify (signed : library.Signed signer claims token)
    (issuer : claims.iss = verifier.issuer) (named : claims.aud ≠ "") (account : claims.sub ≠ "")
    (published : verifier.keyFor signer.keyId = .ok signer.publicKey) :
    Accepted (verifier.verify library numerals wall now token policy) ↔
      policy.accepts claims.aud = true ∧ ¬ Passed now claims.exp := by
  rw [verify_issued signed issuer named account published]
  split
  · next both => exact iff_of_true ⟨_, rfl⟩ both
  · next refused => exact iff_of_false (fun ⟨_, same⟩ => by cases same) refused

theorem verifyAccess_subject (signed : library.Signed signer claims token)
    (issuer : claims.iss = signer.issuer) (named : claims.aud ≠ "") {access : VerifiedAccessToken}
    (accepted : signer.verifyAccess library numerals wall now token requested = .ok access) :
    access.accountId = claims.sub := by
  rw [verifyAccess_issued signed issuer named] at accepted
  split at accepted
  · cases found : unexpired.whole numerals now claims.exp with
    | error e =>
        rw [found] at accepted
        cases accepted
    | ok expiresAt =>
        rw [found] at accepted
        cases accepted
        rfl
  · cases accepted

theorem verify_subject (signed : library.Signed signer claims token)
    (issuer : claims.iss = verifier.issuer) (named : claims.aud ≠ "") (account : claims.sub ≠ "")
    (published : verifier.keyFor signer.keyId = .ok signer.publicKey) {identity : VerifiedToken}
    (accepted : verifier.verify library numerals wall now token policy = .ok identity) :
    identity.accountId = claims.sub := by
  rw [verify_issued signed issuer named account published] at accepted
  split at accepted
  · cases accepted
    rfl
  · cases accepted

end Accepting

/-- From its issue on, and with this reading of the wall clock where the signer
verifies, a token is accepted by both sides exactly before its expiry and for its
audience, and both name the account it was issued for. -/
structure VerifiersAgree {Key : Type} (library : Jws Key) (numerals : Numerals)
    (signer : Signer Key) (verifier : TokenVerifier Key) (issuedAt wall : Instant)
    (claims : TokenClaims) (token : String) : Prop where
  server : ∀ now ≥ issuedAt, ∀ requested,
    Accepted (signer.verifyAccess library numerals wall now token requested) ↔
      now < seconds claims.exp ∧ requested = claims.aud
  client : ∀ now ≥ issuedAt, ∀ clientWall policy,
    Accepted (verifier.verify library numerals clientWall now token policy) ↔
      now < seconds claims.exp ∧ policy.accepts claims.aud = true
  subject : ∀ now clientNow clientWall requested policy access identity,
    signer.verifyAccess library numerals wall now token requested = .ok access →
    verifier.verify library numerals clientWall clientNow token policy = .ok identity →
      access.accountId = claims.sub ∧ identity.accountId = claims.sub

section Agreement

variable {Key : Type} {library : Jws Key} {numerals : Numerals} {signer : Signer Key}
  {verifier : TokenVerifier Key} {accountId audience token : String}
  {issuedAt ttl wall : Instant}

theorem signer_verifiers_agree_iff (account : accountId ≠ "") (named : audience ≠ "")
    (issued : signer.issue library issuedAt accountId audience ttl = .ok token)
    (signed : library.Signed signer (signer.claims issuedAt accountId audience (issuedAt + ttl))
      token)
    (published : verifier.keyFor signer.keyId = .ok signer.publicKey)
    (sameIssuer : verifier.issuer = signer.issuer) :
    VerifiersAgree library numerals signer verifier issuedAt wall
        (signer.claims issuedAt accountId audience (issuedAt + ttl)) token ↔
      seconds (wholeSeconds (issuedAt + ttl)) ≤ issuedAt ∨
        Passed wall (wholeSeconds issuedAt) ∧ -2 ^ 34 < wholeSeconds (issuedAt + ttl) ∧
          wholeSeconds (issuedAt + ttl) ≤ 2 ^ 34 := by
  have dated : Representable (issuedAt + ttl) := by
    by_contra outside
    simp [Signer.issue, datetimeAdd, outside, bind, Except.bind] at issued
  have small := wholeSeconds_small dated
  have server : ∀ now requested,
      Accepted (signer.verifyAccess library numerals wall now token requested) ↔ _ := fun _ _ =>
    accepted_verifyAccess signed rfl named
  have client : ∀ clientWall now policy,
      Accepted (verifier.verify library numerals clientWall now token policy) ↔ _ := fun _ _ _ =>
    accepted_verify signed sameIssuer.symm named account published
  simp only [Signer.claims, not_passed_iff small.le] at server client
  constructor
  · intro agree
    by_contra refused
    rw [not_or, not_le] at refused
    -- as soon as it is issued, a token that can be used at all has to be accepted
    have ready := (server _ _).mp ((agree.server issuedAt le_rfl audience).mpr ⟨refused.1, rfl⟩)
    -- and to its last microsecond, which the floats may take for its end
    have sparse : wholeSeconds (issuedAt + ttl) ≤ -17179869184 ∨
        17179869184 < wholeSeconds (issuedAt + ttl) := by
      by_contra dense
      exact refused.2 ⟨ready.1.1, by omega⟩
    have last : issuedAt ≤ seconds (wholeSeconds (issuedAt + ttl)) - 1 :=
      Int.le_sub_one_of_lt refused.1
    have still := (server _ _).mp ((agree.server _ last audience).mpr ⟨sub_one_lt _, rfl⟩)
    exact absurd still.2.1 (not_lt.mpr (toFloat_le_timestamp sparse small))
  · intro ready
    have usable : ∀ now ≥ issuedAt, now < seconds (wholeSeconds (issuedAt + ttl)) →
        Passed wall (wholeSeconds issuedAt) ∧ -17179869184 < wholeSeconds (issuedAt + ttl) ∧
          wholeSeconds (issuedAt + ttl) ≤ 17179869184 := by
      intro now later before
      rcases ready with spent | ⟨passed, dense⟩
      · exact absurd (spent.trans later) (not_le.mpr before)
      · exact ⟨passed, by omega⟩
    refine ⟨fun now later requested => ?_, fun now later clientWall policy => ?_, ?_⟩
    · rw [server]
      constructor
      · rintro ⟨⟨-, same⟩, before, -⟩
        exact ⟨lt_of_timestamp_lt before, same⟩
      · rintro ⟨before, rfl⟩
        obtain ⟨passed, dense⟩ := usable now later before
        have inside : wholeSeconds (issuedAt + ttl) * 1000000 ≤ 253402300799999999 := by omega
        exact ⟨⟨passed, rfl⟩, (timestamp_lt_iff dense).mpr before, inside⟩
    · rw [client]
      constructor
      · rintro ⟨accepts, before⟩
        exact ⟨lt_of_timestamp_lt before, accepts⟩
      · rintro ⟨before, accepts⟩
        exact ⟨accepts, (timestamp_lt_iff (usable now later before).2).mpr before⟩
    · intro now clientNow clientWall requested policy access identity first second
      exact ⟨verifyAccess_subject signed rfl named first,
        verify_subject signed sameIssuer.symm named account published second⟩

end Agreement

/-! ## A token issued ahead of the wall clock -/

namespace Scenario

def tokenText : String := "aGVhZGVy.cGF5bG9hZA.c2lnbmF0dXJl"

def tokenSigner : Signer Unit := ⟨"https://keyring.test", "00112233445566aa", (), by decide⟩

/-- Noon of a day in 2040, by the injected clock. -/
def issuedAhead : Instant := seconds 2224065600

def aheadClaims : TokenClaims :=
  tokenSigner.claims issuedAhead "acct_1" "user.home" (issuedAhead + seconds 900)

/-- The library on one token: it writes it, reads it back and finds it signed. -/
def oneTokenLibrary : Jws Unit where
  encode _ _ := tokenText
  unverifiedHeader token :=
    if token = tokenText then
      some [("alg", .str "RS256"), ("kid", .str tokenSigner.keyId), ("typ", .str "JWT")]
    else none
  unverifiedPayload token := if token = tokenText then some aheadClaims.payload else none
  decode options wall _ token audience issuer :=
    if token ≠ tokenText then .error .decode
    else if options.verifyIat && !decide (Passed wall aheadClaims.iat) then
      .error .immatureSignature
    else if issuer ≠ aheadClaims.iss then .error .invalidIssuer
    else if audience ≠ aheadClaims.aud then .error .invalidAudience
    else .ok aheadClaims.payload

def plainNumerals : Numerals where
  floatOfStr _ := none
  reached _ _ := false
  fromTimestamp _ := .error .valueError
  outOfRange _ := .valueError

def tokenVerifier : TokenVerifier Unit where
  issuer := tokenSigner.issuer
  keyFor kid :=
    if kid = tokenSigner.keyId then .ok () else .error (.authentication TokenVerifier.badToken)

theorem ahead_signed : oneTokenLibrary.Signed tokenSigner aheadClaims tokenText where
  header := ⟨_, rfl, rfl⟩
  read := rfl
  immature strict wall requested early := ⟨.immatureSignature, rfl, by simp [oneTokenLibrary, early]⟩
  foreign iatChecked strict wall requested other := by
    by_cases early : iatChecked = true ∧ ¬ Passed wall aheadClaims.iat
    · exact ⟨.immatureSignature, rfl, by simp [oneTokenLibrary, early]⟩
    · exact ⟨.invalidAudience, rfl, by simp_all [oneTokenLibrary]⟩
  accepted iatChecked strict wall named ready := by simp_all [oneTokenLibrary]

theorem agree_once_wall_clock_passes :
    VerifiersAgree oneTokenLibrary plainNumerals tokenSigner tokenVerifier issuedAhead issuedAhead
      aheadClaims tokenText ↔
        seconds (wholeSeconds (issuedAhead + seconds 900)) ≤ issuedAhead ∨
          Passed issuedAhead (wholeSeconds issuedAhead) ∧
            -2 ^ 34 < wholeSeconds (issuedAhead + seconds 900) ∧
              wholeSeconds (issuedAhead + seconds 900) ≤ 2 ^ 34 :=
  signer_verifiers_agree_iff (by decide) (by decide) rfl ahead_signed rfl rfl

def userAudiences : AudienceFamily := ⟨⟨"user", by decide⟩⟩

/-- The wall clock stands in 2026: at the instant of its issue the signer refuses
its own token, which the client accepts. -/
theorem ahead_of_wall_clock_refused :
    tokenSigner.verifyAccess oneTokenLibrary plainNumerals (seconds 1767225600) issuedAhead
        tokenText "user.home" = .error (.authentication badToken) ∧
      tokenVerifier.verify oneTokenLibrary plainNumerals (seconds 1767225600) issuedAhead
        tokenText userAudiences.policy = .ok ⟨"acct_1", "user.home"⟩ ∧
      ¬ VerifiersAgree oneTokenLibrary plainNumerals tokenSigner tokenVerifier issuedAhead
        (seconds 1767225600) aheadClaims tokenText := by
  have refused : tokenSigner.verifyAccess oneTokenLibrary plainNumerals (seconds 1767225600)
      issuedAhead tokenText "user.home" = .error (.authentication badToken) := by
    rw [verifyAccess_issued ahead_signed rfl (by decide), if_neg (by decide +kernel)]
  refine ⟨refused, ?_, ?_⟩
  · rw [verify_issued ahead_signed rfl (by decide) (by decide) rfl, if_pos (by decide +kernel)]
    rfl
  · intro agree
    obtain ⟨answer, accepted⟩ :=
      (agree.server issuedAhead le_rfl "user.home").mpr ⟨by decide +kernel, rfl⟩
    rw [refused] at accepted
    cases accepted

end Scenario

end Keyring
