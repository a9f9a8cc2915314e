import Mathlib.Data.List.Pairwise
import Keyring.Scenario
import Keyring.Credentials.RenewalSteps

/-!
# Renewing a credential once

Callers that hold the same expiring credential take turns.  One that has waited
renews only when the vault still has the access token that it holds; when the
vault has nothing it renews all the same.
-/

set_option autoImplicit false

namespace Keyring

open Interleave Relational

variable {env : Env}

/-! ## Runs -/

def Op.acquires (triple : Triple) : Op → Prop
  | .acquire key => key = triple
  | _ => False

def Op.releases (triple : Triple) : Op → Prop
  | .release key => key = triple
  | _ => False

def Op.readsSecret (triple : Triple) : Op → Prop
  | .secrets (.get accountId profile service) => (accountId, profile, service) = triple
  | _ => False

def secretAt (env : Env) (triple : Triple) (w : World) : Option Secret := do
  let master ← env.master
  let envelope ← envelopeAt triple w
  (openEnvelope envelope master).toOption

/-- Neither the access token nor the refresh token is repeated. -/
def Apart (g g' : String × Option String) : Prop := g.1 ≠ g'.1 ∧ (g.2 = none ∨ g.2 ≠ g'.2)

theorem Apart.symm {g g' : String × Option String} (apart : Apart g g') : Apart g' g := by
  refine ⟨apart.1.symm, ?_⟩
  rcases apart.2 with none | other
  · rw [none]
    cases g'.2 with
    | none => exact Or.inl rfl
    | some token => exact Or.inr (Option.some_ne_none token)
  · exact Or.inr other.symm

/-- The provider answers with tokens that it has not answered with before and that
the vault did not have at the start, and a refresh with a refresh token. -/
structure Rotating (env : Env) (triple : Triple) (w : World) (tr : List (Event (machine env))) :
    Prop where
  rotates : ∀ e ∈ tr, e.op.sends ≠ none → ∀ g ∈ granted e, g.2 ≠ none
  distinct : tr.Pairwise fun e e' => ∀ g ∈ granted e, ∀ g' ∈ granted e', Apart g g'
  unseen : ∀ e ∈ tr, ∀ g ∈ granted e, ∀ secret ∈ secretAt env triple w,
    secret.tokens.1 ≠ some g.1 ∧ (g.2 = none ∨ secret.tokens.2 ≠ g.2)

/-- Whoever looks under the lock finds a secret in the vault. -/
def NeverEmptied (triple : Triple) (tr : List (Event (machine env))) : Prop :=
  tr.Pairwise fun a e => a.thread = e.thread → a.op.acquires triple → e.op.readsSecret triple →
    envelopeAt triple e.before ≠ none

/-- Whoever gives the lock back after a refresh leaves another refresh token in the
vault than the one it has sent, or nothing. -/
def SpentGone (triple : Triple) (tr : List (Event (machine env))) : Prop :=
  tr.Pairwise fun m e => m.thread = e.thread → e.op.releases triple → granted m ≠ none →
    m.op.sends ≠ none → ∀ secret ∈ secretAt env triple e.before, secret.tokens.2 ≠ m.op.sends

/-- The caller has waited for its turn to renew this credential. -/
def HasWaited (triple : Triple) (i : Nat) (tr : List (Event (machine env))) : Prop :=
  ∃ a ∈ ofThread i tr, a.op.acquires triple

/-- A refresh token that was sent with success is not sent again. -/
def UsedOnce (triple : Triple) (tr : List (Event (machine env))) : Prop :=
  ∀ early e mid e' late refreshToken, tr = early ++ e :: (mid ++ e' :: late) →
    HasWaited triple e.thread early → HasWaited triple e'.thread (early ++ e :: mid) →
      e.op.sends = some refreshToken → granted e ≠ none → e'.op.sends ≠ some refreshToken

theorem Opens.unique {envelope : Envelope} {secret secret' : Secret}
    (opens : Opens env envelope secret) (opens' : Opens env envelope secret') : secret = secret' := by
  obtain ⟨master, configured, opened⟩ := opens
  obtain ⟨master', configured', opened'⟩ := opens'
  rw [configured] at configured'
  cases configured'
  rw [opened] at opened'
  cases opened'
  rfl

theorem Opens.secretAt {triple : Triple} {w : World} {envelope : Envelope} {secret : Secret}
    (opens : Opens env envelope secret) (here : envelopeAt triple w = some envelope) :
    secretAt env triple w = some secret := by
  obtain ⟨master, configured, opened⟩ := opens
  simp [Keyring.secretAt, configured, here, opened, Except.toOption]

theorem PutsEnvelope.stores {triple : Triple} {envelope : Envelope} {o : Op}
    (puts : PutsEnvelope triple envelope o) : ¬ o.sparesSecrets := by
  cases o with
  | secrets o =>
      cases o with
      | put accountId profile service sealed now => exact id
      | _ => exact puts.elim
  | _ => exact puts.elim

theorem PutsEnvelope.envelope_eq {triple triple' : Triple} {envelope envelope' : Envelope} {o : Op}
    (puts : PutsEnvelope triple envelope o) (puts' : PutsEnvelope triple' envelope' o) :
    envelope = envelope' := by
  cases o with
  | secrets o =>
      cases o with
      | put accountId profile service sealed now => exact puts.2.symm.trans puts'.2
      | _ => exact puts.elim
  | _ => exact puts.elim

section Runs

variable {w : World} {calls : List Call} {d : Config (machine env) Error Answer}
  {tr : List (Event (machine env))} {triple : Triple}

theorem ReadsSecret.found {secret : Secret} {e : Event (machine env)}
    (read : ReadsSecret triple secret e)
    (real : ∃ x, exec env e.op x e.before = some (e.ans, e.after)) :
    ∃ envelope, envelopeAt triple e.before = some envelope ∧ Opens env envelope secret := by
  obtain ⟨x, done⟩ := real
  cases read with
  | @read i accountId profile service envelope secret s s' opens =>
      have done : exec env (.secrets (.get accountId profile service)) x s =
        some (.ok (some envelope), s') := done
      have committed := transact_ok.mp (onDb_eq.mp done).1
      exact ⟨envelope, (SecretOp.get_ok committed).1.symm, opens⟩

theorem ReadsNothing.found {e : Event (machine env)} (read : ReadsNothing triple e)
    (real : ∃ x, exec env e.op x e.before = some (e.ans, e.after)) :
    envelopeAt triple e.before = none := by
  obtain ⟨x, done⟩ := real
  cases read with
  | @read i accountId profile service s s' =>
      have done : exec env (.secrets (.get accountId profile service)) x s =
        some (.ok none, s') := done
      have committed := transact_ok.mp (onDb_eq.mp done).1
      exact (SecretOp.get_ok committed).1.symm

/-- What is in the vault was there at the start, or was sealed on the way. -/
theorem envelopeAt_from {c : Config (machine env) Error Answer} (run : Run c tr d)
    {envelope : Envelope} (here : envelopeAt triple d.state = some envelope) :
    envelopeAt triple c.state = some envelope ∨
      ∃ before p after, tr = before ++ p :: after ∧ PutsEnvelope triple envelope p.op := by
  have each : ∀ e ∈ tr, envelopeAt triple e.after = some envelope →
      (envelopeAt triple e.before = some envelope ∧ True) ∨ PutsEnvelope triple envelope e.op := by
    intro e member after
    obtain ⟨x, done⟩ := run.exec_eq e member
    rcases exec_envelopeAt done after with before | puts
    · exact Or.inl ⟨before, trivial⟩
    · exact Or.inr puts
  rcases run.last_of (P := fun w : World => envelopeAt triple w = some envelope)
      (T := fun _ => True) each here with ⟨start, -⟩ | ⟨before, p, after, split, puts, -⟩
  · exact Or.inl start
  · exact Or.inr ⟨before, p, after, split, puts⟩

variable (shares : ∀ c ∈ calls, c.shares)
include shares

theorem run_careful {early late : List (Event (machine env))} {e : Event (machine env)}
    (run : Run (start env w calls) (early ++ e :: late) d) :
    Careful env (ofThread e.thread early) e.op := by
  have inside : e.thread < calls.length := by
    simpa [start] using run.thread_lt e (by simp)
  obtain ⟨next, path⟩ := run.at_event
    (show (start env w calls).pool[e.thread]? = some (calls[e.thread].prog env) by
      simp [start, inside])
  refine Call.careful (shares _ (List.getElem_mem inside)) (fun e' member => ?_) path
  exact run.exec_eq e' (List.mem_append_left _ (mem_ofThread.mp member).1)

theorem sealed_granted {early late : List (Event (machine env))} {p : Event (machine env)}
    (run : Run (start env w calls) (early ++ p :: late) d)
    (rotates : ∀ e ∈ early ++ p :: late, e.op.sends ≠ none → ∀ g ∈ granted e, g.2 ≠ none)
    {envelope : Envelope} {secret : Secret} (puts : PutsEnvelope triple envelope p.op)
    (opens : Opens env envelope secret) :
    (∀ m ∈ ofThread p.thread early, m.op.sparesSecrets) ∧
      ∃ e ∈ ofThread p.thread early, ∃ access, granted e = some (access, secret.tokens.2) ∧
        secret.tokens.1 = some access := by
  obtain ⟨triple', envelope', puts', spared, e, member, access, refresh, secret', tokens, opens',
    first, second⟩ := (run_careful shares run).sealing puts.stores
  rw [← puts.envelope_eq puts'] at opens'
  cases opens.unique opens'
  refine ⟨spared, e, member, access, ?_, first⟩
  rcases second with same | ⟨none, sends⟩
  · rw [same]
    exact tokens
  · subst none
    exact absurd rfl (rotates e (List.mem_append_left _ (mem_ofThread.mp member).1) sends _ tokens)

theorem known_tokens {early late : List (Event (machine env))} {m : Config (machine env) Error Answer}
    (run : Run (start env w calls) (early ++ late) d) (first : Run (start env w calls) early m)
    (rotates : ∀ e ∈ early ++ late, e.op.sends ≠ none → ∀ g ∈ granted e, g.2 ≠ none)
    {envelope : Envelope} {secret : Secret} (here : envelopeAt triple m.state = some envelope)
    (opens : Opens env envelope secret) :
    envelopeAt triple w = some envelope ∨
      ∃ before p after, early = before ++ p :: after ∧ PutsEnvelope triple envelope p.op ∧
        ∃ e ∈ ofThread p.thread before, ∃ access, granted e = some (access, secret.tokens.2) ∧
          secret.tokens.1 = some access := by
  rcases envelopeAt_from first here with initial | ⟨before, p, after, rfl, puts⟩
  · exact Or.inl initial
  · right
    have split : before ++ p :: after ++ late = before ++ p :: (after ++ late) := by simp
    rw [split] at run rotates
    exact ⟨before, p, after, rfl, puts, (sealed_granted shares run rotates puts opens).2⟩

omit shares in
theorem Rotating.apart (rotating : Rotating env triple w tr) {e e' : Event (machine env)}
    (member : e ∈ tr) (member' : e' ∈ tr) (other : e ≠ e') {g g' : String × Option String}
    (tokens : granted e = some g) (tokens' : granted e' = some g') : Apart g g' := by
  have symmetric : Std.Symm fun e e' : Event (machine env) =>
      ∀ g ∈ granted e, ∀ g' ∈ granted e', Apart g g' :=
    ⟨fun e e' apart g tokens g' tokens' => (apart g' tokens' g tokens).symm⟩
  exact rotating.distinct.forall member member' other g tokens g' tokens'

section Tokens

variable (run : Run (start env w calls) tr d) (rotating : Rotating env triple w tr)
include run rotating

theorem refresh_determined {first second late late' : List (Event (machine env))}
    {m n : Config (machine env) Error Answer} (split : tr = first ++ late)
    (split' : tr = second ++ late') (here : Run (start env w calls) first m)
    (there : Run (start env w calls) second n) {envelope envelope' : Envelope}
    {secret secret' : Secret} (found : envelopeAt triple m.state = some envelope)
    (opens : Opens env envelope secret) (found' : envelopeAt triple n.state = some envelope')
    (opens' : Opens env envelope' secret') (same : secret.tokens.1 = secret'.tokens.1) :
    secret.tokens.2 = secret'.tokens.2 := by
  have granting := known_tokens shares (split ▸ run) here (split ▸ rotating.rotates) found opens
  have granting' := known_tokens shares (split' ▸ run) there (split' ▸ rotating.rotates) found' opens'
  rcases granting with initial | ⟨before, p, after, rfl, -, e, own, access, tokens, access_eq⟩ <;>
    rcases granting' with initial' | ⟨before', p', after', rfl, -, e', own', access', tokens', access_eq'⟩
  · rw [initial] at initial'
    cases initial'
    rw [opens.unique opens']
  · have member : e' ∈ tr := by rw [split']; simp [(mem_ofThread.mp own').1]
    have unseen := (rotating.unseen e' member _ tokens' secret (opens.secretAt initial)).1
    exact absurd (same.trans access_eq') unseen
  · have member : e ∈ tr := by rw [split]; simp [(mem_ofThread.mp own).1]
    have unseen := (rotating.unseen e member _ tokens secret' (opens'.secretAt initial')).1
    exact absurd (same.symm.trans access_eq) unseen
  · have member : e ∈ tr := by rw [split]; simp [(mem_ofThread.mp own).1]
    have member' : e' ∈ tr := by rw [split']; simp [(mem_ofThread.mp own').1]
    by_cases one : e = e'
    · subst one
      rw [tokens, Option.some.injEq, Prod.mk.injEq] at tokens'
      exact tokens'.2
    · have apart := rotating.apart member member' one tokens tokens'
      rw [access_eq, access_eq'] at same
      exact absurd (Option.some.inj same) apart.1

theorem sealed_once {first mid late : List (Event (machine env))} {p : Event (machine env)}
    {m : Config (machine env) Error Answer} (split : tr = first ++ (mid ++ p :: late))
    (here : Run (start env w calls) first m) {envelope envelope' : Envelope}
    {secret secret' : Secret} {refreshToken : String}
    (found : envelopeAt triple m.state = some envelope) (opens : Opens env envelope secret)
    (held : secret.tokens.2 = some refreshToken) (puts : PutsEnvelope triple envelope' p.op)
    (opens' : Opens env envelope' secret') : secret'.tokens.2 ≠ some refreshToken := by
  intro held'
  subst split
  have split : first ++ (mid ++ p :: late) = (first ++ mid) ++ p :: late := by simp
  have granting := known_tokens shares run here rotating.rotates found opens
  obtain ⟨spared, e', own', access', tokens', -⟩ :=
    sealed_granted shares (split ▸ run) (split ▸ rotating.rotates) puts opens'
  have member' : e' ∈ first ++ (mid ++ p :: late) := by
    rw [split]
    exact List.mem_append_left _ (mem_ofThread.mp own').1
  rw [held'] at tokens'
  rcases granting with initial | ⟨before, q, after, rfl, puts', e, own, access, tokens, -⟩
  · have unseen := (rotating.unseen e' member' _ tokens' secret (opens.secretAt initial)).2
    rcases unseen with impossible | other
    · cases impossible
    · exact other held
  · rw [held] at tokens
    by_cases one : e = e'
    · subst one
      have same : q.thread = p.thread :=
        (mem_ofThread.mp own).2.symm.trans (mem_ofThread.mp own').2
      exact puts'.stores (spared q (mem_ofThread.mpr ⟨by simp, same⟩))
    · have member : e ∈ before ++ q :: after ++ (mid ++ p :: late) := by
        simp [(mem_ofThread.mp own).1]
      rcases (rotating.apart member member' one tokens tokens').2 with impossible | other
      · cases impossible
      · exact other rfl

end Tokens

omit shares in
theorem Stale.op {secret : Secret} {e : Event (machine env)} (stale : Stale triple secret e) :
    e.op.readsSecret triple := by
  rcases stale with nothing | ⟨stored, read, -⟩
  · cases nothing
    rfl
  · cases read
    rfl

omit shares in
theorem Op.readsSecret.locks_not {o : Op} (reads : o.readsSecret triple) : ¬ o.locks := by
  cases o with
  | acquire key => exact absurd reads id
  | release key => exact absurd reads id
  | _ => exact id

/-- Of two callers that are about to send a token of one credential, the one that is
first has given the lock back before the other took it and looked into the vault. -/
theorem taken_in_turn (run : Run (start env w calls) tr d)
    {early mid late es es' : List (Event (machine env))} {e e' g g' : Event (machine env)}
    {secret secret' : Secret} (split : tr = early ++ e :: (mid ++ e' :: late))
    (apart : e.thread ≠ e'.thread) (unlocked : ¬ e.op.locks)
    (own : ofThread e.thread early = es ++ [g]) (waited : Waited triple secret es)
    (stale : Stale triple secret g)
    (own' : ofThread e'.thread (early ++ e :: mid) = es' ++ [g']) (waited' : Waited triple secret' es')
    (stale' : Stale triple secret' g') :
    ∃ n₁ r n₂ a n₃ n₄, mid = n₁ ++ r :: (n₂ ++ a :: (n₃ ++ g' :: n₄)) ∧
      r.thread = e.thread ∧ r.op = .release triple ∧ a.thread = e'.thread ∧
      a.op = .acquire triple := by
  subst split
  have disciplined : ∀ before m after, early ++ e :: (mid ++ e' :: late) = before ++ m :: after →
      (renewalLock env triple).Disciplined (ofThread m.thread before) m.op :=
    fun before m after split => (run_careful shares (split ▸ run)).disciplined triple
  have keeps : ∀ m ∈ ofThread e'.thread (early ++ e :: mid), m.op ≠ .release triple := by
    rw [own']
    intro m member
    rcases List.mem_append.mp member with before | last
    · exact waited'.releases_not m before triple
    · rw [List.mem_singleton.mp last]
      exact fun same => stale'.op.locks_not (by rw [same]; trivial)
  have holds : (renewalLock env triple).Holds (ofThread e.thread early) := by
    rw [own]
    obtain ⟨⟨m, member, acquired⟩, -⟩ := waited.acquires
    refine ⟨⟨m, List.mem_append_left _ member, acquired⟩, fun m member => ?_⟩
    rcases List.mem_append.mp member with before | last
    · exact waited.releases_not m before triple
    · rw [List.mem_singleton.mp last]
      exact fun same => stale.op.locks_not (by rw [show g.op = .release triple from same]; trivial)
  have mine : ofThread e'.thread (early ++ e :: mid) =
      ofThread e'.thread early ++ ofThread e'.thread mid := by
    simp [ofThread, apart]
  have later : ∀ m ∈ ofThread e'.thread early, m.op ≠ .acquire triple := by
    intro m member acquired
    obtain ⟨n, first, -⟩ := run.split
    refine apart ((Lock.exclusive first fun before m after split =>
      disciplined before m (after ++ e :: (mid ++ e' :: late)) (by simp [split])).1 _ _ holds
        ⟨⟨m, member, acquired⟩, fun m member => keeps m ?_⟩)
    rw [mine]
    exact List.mem_append_left _ member
  obtain ⟨⟨a, member, acquired⟩, -⟩ := waited'.acquires
  have inside : a ∈ ofThread e'.thread mid := by
    have whole : a ∈ ofThread e'.thread (early ++ e :: mid) := by
      rw [own']
      exact List.mem_append_left _ member
    rw [mine] at whole
    rcases List.mem_append.mp whole with before | after
    · exact absurd acquired (later a before)
    · exact after
  obtain ⟨inMid, named⟩ := mem_ofThread.mp inside
  obtain ⟨m₁, m₂, rfl⟩ := List.append_of_mem inMid
  have last : g' ∈ m₂ := by
    have whole : ofThread e'.thread (early ++ e :: m₁) ++ a :: ofThread e'.thread m₂ = es' ++ [g'] := by
      rw [← own']
      simp [ofThread, named, apart]
    rcases List.eq_nil_or_concat (ofThread e'.thread m₂) with none | ⟨front, z, some⟩
    · rw [none] at whole
      have same := List.singleton_inj.mp (List.append_inj' whole rfl).2
      rw [← same] at stale'
      exact absurd (show a.op.locks by rw [acquired]; trivial) stale'.op.locks_not
    · rw [some, List.concat_eq_append, ← List.cons_append, ← List.append_assoc] at whole
      have same := (List.append_inj' whole rfl).2
      cases same
      have member : g' ∈ ofThread e'.thread m₂ := by simp [some]
      exact (mem_ofThread.mp member).1
  obtain ⟨n₃, n₄, rfl⟩ := List.append_of_mem last
  have split : early ++ e :: (m₁ ++ a :: (n₃ ++ g' :: n₄) ++ e' :: late) =
      (early ++ e :: m₁) ++ a :: ((n₃ ++ g' :: n₄) ++ e' :: late) := by simp
  rw [split] at run
  obtain ⟨r, returned, gives⟩ := Lock.given_back run
    (fun before m after same => disciplined before m after (split.trans same)) acquired
    (i := e.thread) (by
      obtain ⟨m, taken, takes⟩ := holds.1
      exact ⟨m, by rw [ofThread_append]; exact List.mem_append_left _ taken, takes⟩)
  obtain ⟨somewhere, byFirst⟩ := mem_ofThread.mp returned
  have released : r ∈ m₁ := by
    rcases List.mem_append.mp somewhere with before | after
    · exact absurd gives (holds.2 r (mem_ofThread.mpr ⟨before, byFirst⟩))
    · rcases List.mem_cons.mp after with rfl | after
      · exact absurd (show r.op.locks by rw [show r.op = .release triple from gives]; trivial) unlocked
      · exact after
  obtain ⟨n₁, n₂, rfl⟩ := List.append_of_mem released
  exact ⟨n₁, r, n₂, a, n₃, n₄, by simp, byFirst, gives, named, acquired⟩

omit shares in
theorem Op.readsSecret.sends_none {o : Op} (reads : o.readsSecret triple) : o.sends = none := by
  cases o with
  | post service form => exact absurd reads id
  | _ => rfl

theorem sending_of_waited {early late : List (Event (machine env))} {e : Event (machine env)}
    {refreshToken : String} (run : Run (start env w calls) (early ++ e :: late) d)
    (waited : HasWaited triple e.thread early) (sends : e.op.sends = some refreshToken) :
    Sending refreshToken triple (ofThread e.thread early) := by
  obtain ⟨triple', sending⟩ := (run_careful shares run).sending refreshToken sends
  obtain ⟨a, member, acquires⟩ := waited
  generalize ofThread e.thread early = es at sending member
  have acquired : a.op = .acquire triple := by
    generalize a.op = o at acquires
    cases o with
    | acquire key => exact congrArg Op.acquire acquires
    | _ => exact acquires.elim
  cases sending with
  | @found before secret g holding stale held =>
      have same : triple = triple' := by
        rcases List.mem_append.mp member with inside | last
        · exact holding.acquires.2 a inside triple acquired
        · rw [List.mem_singleton.mp last] at acquired
          exact absurd (show g.op.locks by rw [acquired]; trivial) stale.op.locks_not
      subst same
      exact .found holding stale held

/-- In every run of requests that share credentials, with a provider that rotates
its tokens: when no caller finds the vault empty under the lock, and none gives the
lock back with the token that it has spent still in the vault, a refresh token that
was sent with success is not sent again. -/
theorem refresh_token_used_once (run : Run (start env w calls) tr d)
    (rotating : Rotating env triple w tr) (emptied : NeverEmptied triple tr)
    (gone : SpentGone triple tr) : UsedOnce triple tr := by
  intro early e mid e' late refreshToken split waited waited' sends ok sends'
  have sending : Sending refreshToken triple (ofThread e.thread early) :=
    sending_of_waited shares (split ▸ run) waited sends
  have sending' : Sending refreshToken triple (ofThread e'.thread (early ++ e :: mid)) := by
    have split' : tr = (early ++ e :: mid) ++ e' :: late := by simp [split]
    exact sending_of_waited shares (split' ▸ run) waited' sends'
  have real : ∀ e ∈ tr, ∃ x, exec env e.op x e.before = some (e.ans, e.after) := run.exec_eq
  generalize own : ofThread e.thread early = es at sending
  generalize own' : ofThread e'.thread (early ++ e :: mid) = es' at sending'
  cases sending with
  | @found es secret g holding stale held =>
  cases sending' with
  | @found es' secret' g' holding' stale' held' =>
  have apart : e.thread ≠ e'.thread := by
    intro same
    have member : e ∈ es' ++ [g'] := by
      rw [← own']
      exact mem_ofThread.mpr ⟨by simp, same⟩
    have silent : e.op.sends = none := by
      rcases List.mem_append.mp member with before | last
      · exact holding'.sends_none e before
      · rw [List.mem_singleton.mp last]
        exact stale'.op.sends_none
    rw [sends] at silent
    cases silent
  have unlocked : ¬ e.op.locks := by
    intro locks
    generalize e.op = o at sends locks
    cases o <;> first | exact locks | cases sends
  obtain ⟨n₁, r, n₂, a, n₃, n₄, rfl, byFirst, gives, bySecond, takes⟩ :=
    taken_in_turn shares run split apart unlocked own holding stale own' holding' stale'
  -- the one that was first leaves another token in the vault than the one it has sent
  have spent : ∀ stored ∈ secretAt env triple r.before, stored.tokens.2 ≠ some refreshToken := by
    rw [split, SpentGone, List.pairwise_append] at gone
    have after := (List.pairwise_cons.mp gone.2.1).1 r (by simp) byFirst.symm
      (by rw [gives]; rfl) ok (by rw [sends]; exact Option.some_ne_none _)
    rwa [sends] at after
  -- the other finds the token that it has loaded itself
  have looks : tr = (early ++ e :: (n₁ ++ r :: n₂) ++ a :: n₃) ++ g' :: (n₄ ++ e' :: late) := by
    simp [split]
  have present : envelopeAt triple g'.before ≠ none := by
    have order : tr = (early ++ e :: (n₁ ++ r :: n₂)) ++ a :: (n₃ ++ g' :: (n₄ ++ e' :: late)) := by
      simp [split]
    rw [order, NeverEmptied, List.pairwise_append] at emptied
    refine (List.pairwise_cons.mp emptied.2.1).1 g' (by simp) ?_ (by rw [takes]; rfl) stale'.op
    have member : g' ∈ ofThread e'.thread (early ++ e :: (n₁ ++ r :: (n₂ ++ a :: (n₃ ++ g' :: n₄)))) := by
      rw [own']
      simp
    exact bySecond.trans (mem_ofThread.mp member).2.symm
  rcases stale' with nothing | ⟨stored, read, same⟩
  · exact present (nothing.found (real g' (by rw [looks]; simp)))
  obtain ⟨sealed, there, opens⟩ := read.found (real g' (by rw [looks]; simp))
  obtain ⟨m, upto, here⟩ := (looks ▸ run).before_of_split
  have token : stored.tokens.2 = some refreshToken := by
    obtain ⟨l, member, loaded⟩ := holding'.loads
    have inside : l ∈ tr := by
      have whole : l ∈ ofThread e'.thread (early ++ e :: (n₁ ++ r :: (n₂ ++ a :: (n₃ ++ g' :: n₄)))) := by
        rw [own']
        exact List.mem_append_left _ member
      have first := (mem_ofThread.mp whole).1
      rw [split]
      simp only [List.mem_append, List.mem_cons] at first ⊢
      grind
    obtain ⟨envelope, found, opened⟩ := loaded.found (real l inside)
    obtain ⟨x, y, order⟩ := List.append_of_mem inside
    obtain ⟨n, before, loading⟩ := (order ▸ run).before_of_split
    rw [← loading] at found
    rw [← here] at there
    rw [refresh_determined shares run rotating looks order upto before there opens found opened same]
    exact held'
  -- so that somebody sealed it in between, who cannot have
  have gives_back : tr = (early ++ e :: n₁) ++ (r :: (n₂ ++ a :: n₃) ++ g' :: (n₄ ++ e' :: late)) := by
    simp [split]
  obtain ⟨n, first, rest⟩ := (gives_back ▸ run).split
  obtain ⟨n', step, -⟩ := rest.cons_inv
  obtain ⟨m', between, here'⟩ := rest.before_of_split
  rcases envelopeAt_from between (here' ▸ there) with before | ⟨before, p, after, order, puts⟩
  · rw [← step.before_eq] at before
    exact spent stored (opens.secretAt before) token
  · obtain ⟨l, member, loaded⟩ := holding.loads
    have inside : l ∈ early := by
      have own_l : l ∈ ofThread e.thread early := by
        rw [own]
        exact List.mem_append_left _ member
      exact (mem_ofThread.mp own_l).1
    obtain ⟨x, y, rfl⟩ := List.append_of_mem inside
    obtain ⟨envelope, found, opened⟩ := loaded.found (real l (by rw [split]; simp))
    have whole : tr = x ++ ((l :: y ++ e :: n₁ ++ before) ++ p :: (after ++ g' :: (n₄ ++ e' :: late))) := by
      rw [gives_back, order]
      simp
    have loads : tr = x ++ l :: (y ++ e :: (n₁ ++ r :: (n₂ ++ a :: (n₃ ++ g' :: n₄)) ++ e' :: late)) := by
      simp [split]
    obtain ⟨k, upto', loading⟩ := (loads ▸ run).before_of_split
    rw [← loading] at found
    exact sealed_once shares run rotating whole upto' found opened held puts opens token

end Runs

/-! ## A revocation between two callers -/

namespace Scenario

def resolveSpotify : Call := .credential (.resolveHeaders "bob" "home" "spotify")

def revokeSpotify : Call := .credential (.revokeConnection "bob" "home" "spotify")

def bobTriple : Triple := ("bob", "home", "spotify")

/-- The access token is about to expire, and the provider rotates. -/
def renewingInput (access refreshToken drawn : String) : Input :=
  { given (seconds 3600) drawn with
    response := .answered 200 (some (.obj (tokenPair access refreshToken))) }

/-- Two callers load the credential; one renews it, and the other takes its turn. -/
def renewedRun : Config (machine deployment) Error Answer × List (Event (machine deployment)) :=
  (start deployment connectedOffice [resolveSpotify, resolveSpotify]).play
    (List.replicate 3 (0, renewingInput "access1" "refresh1" "a") ++
      List.replicate 3 (1, renewingInput "access2" "refresh2" "b") ++
      List.replicate 10 (0, renewingInput "access1" "refresh1" "a") ++
      List.replicate 3 (1, renewingInput "access2" "refresh2" "b"))

/-- The connection is revoked after the first of them is done. -/
def revokedRun : Config (machine deployment) Error Answer × List (Event (machine deployment)) :=
  (start deployment connectedOffice [resolveSpotify, resolveSpotify, revokeSpotify]).play
    (List.replicate 3 (0, renewingInput "access1" "refresh1" "a") ++
      List.replicate 3 (1, renewingInput "access2" "refresh2" "b") ++
      List.replicate 10 (0, renewingInput "access1" "refresh1" "a") ++
      List.replicate 4 (2, given (seconds 3600) "c") ++
      List.replicate 3 (1, { given (seconds 3600) "b" with response := .unreachable }))

instance (triple : Triple) : DecidablePred (Op.acquires triple) := fun o => by
  unfold Op.acquires
  split <;> infer_instance

instance (triple : Triple) : DecidablePred (Op.releases triple) := fun o => by
  unfold Op.releases
  split <;> infer_instance

instance (triple : Triple) : DecidablePred (Op.readsSecret triple) := fun o => by
  unfold Op.readsSecret
  split <;> infer_instance

instance (g g' : String × Option String) : Decidable (Apart g g') := by
  unfold Apart
  infer_instance

instance (triple : Triple) (tr : List (Event (machine deployment))) :
    Decidable (NeverEmptied triple tr) := by
  unfold NeverEmptied
  infer_instance

instance (triple : Triple) (tr : List (Event (machine deployment))) :
    Decidable (SpentGone triple tr) := by
  unfold SpentGone
  infer_instance

theorem revokedRun_long : 8 + 1 + 13 < revokedRun.2.length := by decide +kernel

end Scenario

open Scenario in
theorem refresh_token_used_once_renewed :
    Run (start deployment connectedOffice [resolveSpotify, resolveSpotify]) renewedRun.2 renewedRun.1 ∧
      UsedOnce bobTriple renewedRun.2 := by
  have run : Run (start deployment connectedOffice [resolveSpotify, resolveSpotify]) renewedRun.2
      renewedRun.1 := Config.play_run _ _
  refine ⟨run, refresh_token_used_once (by simp [resolveSpotify, Call.shares, CredentialCall.shares])
    run ⟨?_, ?_, ?_⟩ ?_ ?_⟩
  · decide +kernel
  · decide +kernel
  · decide +kernel
  · decide +kernel
  · decide +kernel

open Scenario in
/-- One caller has renewed the credential with its refresh token; the other, which
finds nothing in the vault after the revocation, sends the same token again. -/
theorem refresh_token_used_twice :
    Run (start deployment connectedOffice [resolveSpotify, resolveSpotify, revokeSpotify])
        revokedRun.2 revokedRun.1 ∧
      Rotating deployment bobTriple connectedOffice revokedRun.2 ∧
      (∃ answer, revokedRun.1.pool[0]? = some (.done (.ok answer))) ∧
      (∃ answer, revokedRun.1.pool[2]? = some (.done (.ok answer))) ∧
      ¬ UsedOnce bobTriple revokedRun.2 := by
  refine ⟨Config.play_run _ _, ⟨by decide +kernel, by decide +kernel, by decide +kernel⟩,
    returned_some (by decide +kernel), returned_some (by decide +kernel), fun once => ?_⟩
  refine once _ _ _ _ _ "refresh0" (split_two revokedRun.2 revokedRun_long) ?_ ?_ ?_ ?_ ?_
  · show ∃ a ∈ _, _
    decide +kernel
  · show ∃ a ∈ _, _
    decide +kernel
  · decide +kernel
  · decide +kernel
  · decide +kernel

end Keyring
