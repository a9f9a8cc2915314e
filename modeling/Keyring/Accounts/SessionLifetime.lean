import Keyring.Accounts.SessionSteps
import Keyring.Scenario

/-!
# How long a session lives

A session is touched by a lookup, a check of its account and a later save, in
three steps.  The save writes the ceiling that the lookup has read; since an id
is given to one session only, that is the ceiling of the row it writes to, and a
row that was removed in between stays removed.
-/

set_option autoImplicit false

namespace Keyring

open Interleave Relational

variable {env : Env}

/-! ## A session is opened once -/

/-- The operations that open a session of this kind. -/
def opening (opened : Session → Bool) : Op → Bool
  | .sessions (.addWithinCap session _) => opened session
  | _ => false

section Openings

variable {drawn : String → Bool} {opened : Session → Bool}
  (named : ∀ (session : Session) token hex, session.sessionId = sessionIdPrefix ++ hex →
    session.tokenHash = env.hashToken token → opened session = true →
      drawn token = true ∨ drawn hex = true)
include named

theorem AccountService.openSession_minds (account : Account) (now : Instant) (held : Nat) :
    (openSession env account now).Minds (drawing env drawn (opening opened)).purse held := by
  apply Prog.Minds.bind (Tickets.minds_of_uses (preferencesFor_uses rfl) held)
  intro preferences held
  apply draw_minds rfl
  intro token
  apply draw_minds rfl
  intro hex
  apply Prog.Minds.ofExcept_bind
  intro expiresAt
  apply Prog.Minds.ofExcept_bind
  intro absoluteExpiresAt
  constructor
  · intro opens
    rcases named _ token hex rfl rfl opens with kind | kind <;> simp [kind]
  · intro answered
    cases answered <;> trivial

theorem AccountService.login_minds (email password caller : String) (held : Nat) :
    (login env email password caller).Minds (drawing env drawn (opening opened)).purse held := by
  have quiet : ∀ o : Op, o.quiet → opening opened o = false := by
    intro o quiet
    unfold opening
    split
    · exact quiet.elim
    · rfl
  have reading : (clockNow : Service env Instant).Uses
    fun (o : Op) => opening opened o = false := ask_uses rfl
  apply Prog.Minds.bind (Tickets.minds_of_uses
    (checkLimit_uses (fun o limits => quiet o limits.quiet) _ _ _ _) held)
  intro _ held
  apply Prog.Minds.bind (Tickets.minds_of_uses (findForLogin_writes (modest_of_quiet quiet) email) held)
  intro found held
  cases found with
  | none => trivial
  | some account =>
      apply Prog.Minds.bind (Tickets.minds_of_uses reading held)
      intro now held
      apply Prog.Minds.bind (Tickets.minds_of_uses (refuseIf_uses _ _) held)
      intro _ held
      split
      · apply Prog.Minds.bind
          (Tickets.minds_of_uses (acceptLogin_writes (modest_of_quiet quiet) (fun _ _ => rfl) password now) held)
        intro copy held
        have resetting : (resetLimit scopeLogin caller : Service env Unit).Uses
          fun (o : Op) => opening opened o = false := ask_uses rfl
        apply Prog.Minds.bind (Tickets.minds_of_uses resetting held)
        intro _ held
        exact openSession_minds named copy now held
      · exact Tickets.minds_of_uses (rejectPassword_uses (fun _ _ => rfl) now) held

theorem Call.minds_opening (c : Call) :
    (c.prog env).Minds (drawing env drawn (opening opened)).purse 0 := by
  by_cases login : ∃ email password caller, c = .account (.login email password caller)
  · obtain ⟨email, password, caller, rfl⟩ := login
    exact Prog.Minds.bind (AccountService.login_minds named email password caller 0)
      fun _ _ => trivial
  · apply Tickets.minds_of_uses
    refine c.prog_uses ?_ ?_ fun _ _ _ => rfl
    · intro o quiet
      change opening opened o = false
      unfold opening
      split
      · exact quiet.elim
      · rfl
    · intro o writes _
      change opening opened o = false
      unfold opening
      split
      · exact absurd (Call.writes_opens writes) login
      · rfl

end Openings

section Issued

variable {w : World} {calls : List Call} {tr : List (Event (machine env))}
  {d : Config (machine env) Error Answer}

/-- A session of the first state, or one that a step of the run opens. -/
def Session.Issued (first : Session) (w : World) (tr : List (Event (machine env))) : Prop :=
  first ∈ w.db.sessions ∨ ∃ e ∈ tr, ∃ cap, e.op = .sessions (.addWithinCap first cap)

/-- No string that the run draws is in a session of the first state. -/
def SessionsUndrawn (env : Env) (db : Db) (tr : List (Event (machine env))) : Prop :=
  ∀ x ∈ drawnStrings tr, ∀ row ∈ db.sessions,
    row.sessionId ≠ sessionIdPrefix ++ x ∧ row.tokenHash ≠ env.hashToken x

theorem start_minds_opening {drawn : String → Bool} {opened : Session → Bool} (w : World)
    (calls : List Call)
    (named : ∀ (session : Session) token hex, session.sessionId = sessionIdPrefix ++ hex →
      session.tokenHash = env.hashToken token → opened session = true →
        drawn token = true ∨ drawn hex = true) :
    ∀ p ∈ (start env w calls).pool, p.Minds (drawing env drawn (opening opened)).purse 0 := by
  intro p member
  obtain ⟨c, -, rfl⟩ := List.mem_map.mp member
  exact c.minds_opening named

theorem Session.Issued.of_kind {drawn : String → Bool} {opened : Session → Bool}
    (run : Run (start env w calls) tr d) (apart : DrawnApart env tr)
    (named : ∀ (session : Session) token hex, session.sessionId = sessionIdPrefix ++ hex →
      session.tokenHash = env.hashToken token → opened session = true →
        drawn token = true ∨ drawn hex = true)
    (single : ∀ x y, drawn x = true → drawn y = true → env.hashToken x = env.hashToken y)
    (undrawn : ∀ x ∈ drawnStrings tr, drawn x = true → ∀ row ∈ w.db.sessions, opened row = false)
    {first second : Session}
    (stored : first ∈ w.db.sessions → second ∈ w.db.sessions → first = second)
    (one : first.Issued w tr) (two : second.Issued w tr) (kind : opened first = true)
    (kind' : opened second = true) : first = second := by
  have each := start_minds_opening w calls named
  have strange : ∀ {row session : Session} {e : Event (machine env)} {cap : Nat},
      row ∈ w.db.sessions → opened row = true → e ∈ tr →
        e.op = .sessions (.addWithinCap session cap) → opened session = true → False := by
    intro row session e cap stored old member opens kind
    obtain ⟨x, inside, made⟩ := drawn_of_given run each member (by rw [opens]; exact kind)
    have other := undrawn x inside made row stored
    rw [old] at other
    cases other
  rcases one with inside | ⟨e, member, cap, opens⟩
  · rcases two with inside' | ⟨e', member', cap', opens'⟩
    · exact stored inside inside'
    · exact (strange inside kind member' opens' kind').elim
  · rcases two with inside' | ⟨e', member', cap', opens'⟩
    · exact (strange inside' kind' member opens kind).elim
    · have once := apart.given_once run each single member (by rw [opens]; exact kind)
        member' (by rw [opens']; exact kind')
      rw [once, opens] at opens'
      injection opens' with same
      injection same

theorem Session.Issued.of_id (run : Run (start env w calls) tr d) (apart : DrawnApart env tr)
    (undrawn : SessionsUndrawn env w.db tr) {first second : Session} (one : first.Issued w tr)
    (two : second.Issued w tr) (same : first.sessionId = second.sessionId) : first = second := by
  apply @Session.Issued.of_kind _ _ _ _ _ (fun x => sessionIdPrefix ++ x = second.sessionId)
    (fun session => session.sessionId = second.sessionId) run apart
  · intro session token hex id _ kind
    rw [id] at kind
    exact Or.inr kind
  · intro x y left right
    have both := (of_decide_eq_true left).trans (of_decide_eq_true right).symm
    rw [String.append_right_inj] at both
    rw [both]
  · intro x inside made row stored
    have other := (undrawn x inside row stored).1
    rw [of_decide_eq_true made] at other
    exact decide_eq_false other
  · intro stored stored'
    exact List.inj_on_of_nodup_map w.db.sessions.nodup stored stored' same
  · exact one
  · exact two
  · exact decide_eq_true same
  · exact decide_eq_true rfl

theorem Session.Issued.of_token (run : Run (start env w calls) tr d) (apart : DrawnApart env tr)
    (undrawn : SessionsUndrawn env w.db tr)
    (unique : ∀ row ∈ w.db.sessions, ∀ row' ∈ w.db.sessions, row.tokenHash = row'.tokenHash →
      row = row')
    {first second : Session} (one : first.Issued w tr) (two : second.Issued w tr)
    (same : first.tokenHash = second.tokenHash) : first = second := by
  apply @Session.Issued.of_kind _ _ _ _ _ (fun x => env.hashToken x = second.tokenHash)
    (fun session => session.tokenHash = second.tokenHash) run apart
  · intro session token hex _ hash kind
    rw [hash] at kind
    exact Or.inl kind
  · intro x y left right
    exact (of_decide_eq_true left).trans (of_decide_eq_true right).symm
  · intro x inside made row stored
    have other := (undrawn x inside row stored).2
    rw [of_decide_eq_true made] at other
    exact decide_eq_false other
  · intro stored stored'
    exact unique first stored second stored' same
  · exact one
  · exact two
  · exact decide_eq_true same
  · exact decide_eq_true rfl

theorem Session.Issued.mono {first : Session} (issued : first.Issued w tr)
    {later : List (Event (machine env))} (more : tr ⊆ later) : first.Issued w later := by
  rcases issued with stored | ⟨e, member, opens⟩
  · exact Or.inl stored
  · exact Or.inr ⟨e, more member, opens⟩

theorem Session.Issued.token_ne {early late : List (Event (machine env))}
    {e : Event (machine env)} (run : Run (start env w calls) (early ++ e :: late) d)
    (apart : DrawnApart env (early ++ e :: late))
    (undrawn : SessionsUndrawn env w.db (early ++ e :: late)) {session first : Session} {cap : Nat}
    (opens : e.op = .sessions (.addWithinCap session cap)) (issued : first.Issued w early) :
    first.tokenHash ≠ session.tokenHash := by
  let drawn : String → Bool := fun x => env.hashToken x = session.tokenHash
  let opened : Session → Bool := fun other => other.tokenHash = session.tokenHash
  have each : ∀ p ∈ (start env w calls).pool,
      p.Minds (drawing env drawn (opening opened)).purse 0 := by
    apply start_minds_opening
    intro other token hex _ hash kind
    simp only [opened, hash] at kind
    exact Or.inl kind
  have spends : opening opened e.op = true := by
    rw [opens]
    exact decide_eq_true rfl
  intro same
  rcases issued with stored | ⟨e', earlier, cap', opens'⟩
  · obtain ⟨x, inside, made⟩ := drawn_of_given run each (by simp) spends
    apply (undrawn x inside first stored).2
    rw [same]
    exact (of_decide_eq_true made).symm
  · have single : ∀ x y, drawn x = true → drawn y = true → env.hashToken x = env.hashToken y := by
      intro x y left right
      exact (of_decide_eq_true left).trans (of_decide_eq_true right).symm
    have others := Tickets.spent_once run each (apart.once (opening opened) single) spends
    have unspent := others e' (by simp [earlier])
    change opening opened e'.op = false at unspent
    rw [opens'] at unspent
    exact of_decide_eq_false unspent same

end Issued

/-! ## The ceiling of a session -/

/-- A session inside the lifetimes of the deployment. -/
structure Session.Bounded (session : Session) (settings : Settings) : Prop where
  expires : session.expiresAt ≤ session.absoluteExpiresAt
  ceiling : session.absoluteExpiresAt ≤
    session.createdAt + seconds settings.sessionAbsoluteTtlSeconds

/-- The same session, whatever its last use. -/
structure Session.Same (row first : Session) : Prop where
  sessionId : row.sessionId = first.sessionId
  tokenHash : row.tokenHash = first.tokenHash
  createdAt : row.createdAt = first.createdAt
  ceiling : row.absoluteExpiresAt = first.absoluteExpiresAt

/-- A row whose session was issued, and that ends in time. -/
def Session.Kept (row : Session) (settings : Settings) (w : World)
    (tr : List (Event (machine env))) : Prop :=
  row.Bounded settings ∧ ∃ first : Session, first.Issued w tr ∧ row.Same first

theorem seconds_mono {n m : Int} (le : n ≤ m) : seconds n ≤ seconds m :=
  Int.mul_le_mul_of_nonneg_right le (by decide)

theorem Session.Opened.bounded {session : Session} {preferences : Preferences} {settings : Settings}
    (opened : session.Opened preferences) (within : preferences.Within settings) :
    session.Bounded settings := by
  constructor
  · rw [opened.expires, opened.ends]
    apply Int.add_le_add_left
    exact seconds_mono within.idle_le
  · rw [opened.ends]
    apply Int.add_le_add_left
    exact seconds_mono within.absolute_le

/-- What a touch writes is below the ceiling that it has read. -/
theorem Session.touched_expires {session copy : Session} {now : Instant} {idle : Int}
    (touched : session.touched now idle none = .ok copy) :
    copy.expiresAt ≤ session.absoluteExpiresAt := by
  obtain ⟨-, rfl⟩ := touched_eq_ok.mp touched
  exact min_le_right _ _

theorem LooksUp.stored {e : Event (machine env)} {session : Session} {now : Instant} {x : Input}
    (looks : LooksUp session now e) (done : exec env e.op x e.before = some (e.ans, e.after)) :
    session ∈ e.before.db.sessions ∧ now < session.absoluteExpiresAt ∧
      ∃ tokenHash, e.op = .sessions (.getByTokenHash tokenHash now) ∧
        session.tokenHash = tokenHash := by
  obtain ⟨⟩ := looks
  rename_i i tokenHash s s'
  have done : exec env (.sessions (.getByTokenHash tokenHash now)) x s =
    some (.ok (some session), s') := done
  rcases onDb_cases done with ⟨v, same, committed⟩ | ⟨⟨_, impossible⟩, -⟩
  · cases same
    have answered := congrArg Prod.fst (Except.ok.inj committed)
    have stored := List.mem_of_find?_eq_some answered
    have fits := List.find?_some answered
    simp only [Session.live, Bool.and_eq_true, decide_eq_true_eq] at fits
    exact ⟨stored, fits.2.2, tokenHash, rfl, fits.1⟩
  · cases impossible

theorem AccountService.resolveSession_found {token : String} {es : List (Event (machine env))}
    {session : Session} (path : Path (resolveSession env token) es (.done (.ok session)))
    {e : Event (machine env)} (member : e ∈ es) {tokenHash : String} {now : Instant}
    (asks : e.op = .sessions (.getByTokenHash tokenHash now)) :
    ∃ found, LooksUp found now e := by
  obtain ⟨i, start, s, s', rest, rfl, looking⟩ := ask_bind_returned path
  obtain ⟨j, _, found, t, t', rest', rfl, rfl, path₁⟩ := store_bind_returned looking
  cases found with
  | none => exact (throw_returned path₁).elim
  | some stored =>
      obtain ⟨k, _, present, u, u', rest'', rfl, rfl, path₂⟩ := store_bind_returned path₁
      cases present with
      | none => exact (throw_returned path₂).elim
      | some account =>
          obtain ⟨-, path₃⟩ := refuseIf_bind_returned path₂
          obtain ⟨l, instant, v, v', rest₃, rfl, touching⟩ := ask_bind_returned path₃
          obtain ⟨refreshed, -, saving⟩ := ofExcept_bind_returned touching
          obtain ⟨n, _, _, x, x', rest₄, rfl, rfl, final⟩ := store_bind_returned saving
          obtain ⟨rfl, -⟩ := pure_returned final
          simp only [List.mem_cons, List.not_mem_nil, or_false] at member
          rcases member with rfl | rfl | rfl | rfl | rfl
          · cases asks
          · cases asks
            exact ⟨stored, .found⟩
          · cases asks
          · cases asks
          · cases asks

section Runs

variable {w : World} {calls : List Call} {tr : List (Event (machine env))}
  {d : Config (machine env) Error Answer}

/-- The lifetimes that a login reads are choices that a source may answer. -/
def PreferencesChosen (env : Env) (tr : List (Event (machine env))) : Prop :=
  ∀ preferences, ∀ e ∈ tr, ReadsPreferences preferences e → Chosen env.settings (.ok preferences)

/-- Every row of every state keeps the ceiling of the session that was issued. -/
theorem sessions_kept (run : Run (start env w calls) tr d) (apart : DrawnApart env tr)
    (undrawn : SessionsUndrawn env w.db tr) (chosen : PreferencesChosen env tr)
    (bounded : ∀ row ∈ w.db.sessions, row.Bounded env.settings) :
    ∀ s ∈ states w tr, ∀ row ∈ s.db.sessions, row.Kept env.settings w tr := by
  apply run.always (fun s : World => ∀ row ∈ s.db.sessions, row.Kept env.settings w tr)
  · intro row stored
    exact ⟨bounded row stored, row, Or.inl stored, ⟨rfl, rfl, rfl, rfl⟩⟩
  · intro early e late split before row stored
    obtain ⟨x, done⟩ := run.exec_eq e (by simp [split])
    have capped : e.op.capped env.settings := capped_of_run run (by simp [split])
    have stems := exec_sessions done capped stored
    generalize operation : e.op = o at stems
    cases stems with
    | kept inside => exact before e (by simp) row inside
    | @saved copy old inside same written =>
        rw [split] at run
        obtain ⟨session, now, instant, idle, ⟨e', earlier, looks⟩, touched⟩ :=
          saved_of_run run operation
        obtain ⟨y, read⟩ := run.exec_eq e' (by simp [earlier])
        obtain ⟨oldBounded, first, issued, origin⟩ := before e (by simp) old inside
        obtain ⟨-, first', issued', origin'⟩ :=
          before e' (by simp [earlier]) session (looks.stored read).1
        rw [← split] at run
        -- the session that was read has the id of the row that is written
        have one : first = first' := by
          apply issued.of_id run apart undrawn issued'
          rw [← origin.sessionId, ← origin'.sessionId, same,
            (touched_eq_ok.mp touched).2]
        subst one
        have ceiling : session.absoluteExpiresAt = old.absoluteExpiresAt :=
          origin'.ceiling.trans origin.ceiling.symm
        rw [written]
        have expires := Session.touched_expires touched
        obtain ⟨-, rfl⟩ := touched_eq_ok.mp touched
        refine ⟨⟨?_, ?_⟩, first, issued, origin.sessionId, origin.tokenHash, origin.createdAt, ?_⟩
        · exact expires
        · exact ceiling.le.trans oldBounded.ceiling
        · exact origin'.ceiling
    | @opened cap unused =>
        rw [split] at run
        obtain ⟨preferences, ⟨e', earlier, read⟩, opened, -⟩ := opened_of_run run operation
        have within := (chosen preferences e' (by simp [split, earlier]) read).within
        refine ⟨opened.bounded within, row, Or.inr ⟨e, by simp [split], cap, operation⟩, ?_⟩
        exact ⟨rfl, rfl, rfl, rfl⟩

theorem token_gone {early late : List (Event (machine env))} {e : Event (machine env)}
    (run : Run (start env w calls) (early ++ e :: late) d)
    (apart : DrawnApart env (early ++ e :: late))
    (undrawn : SessionsUndrawn env w.db (early ++ e :: late)) {row : Session}
    (issued : ∃ first : Session, first.Issued w early ∧ row.tokenHash = first.tokenHash)
    (gone : ∀ other ∈ e.after.db.sessions, other.tokenHash ≠ row.tokenHash) :
    ∀ e' ∈ late, ∀ other ∈ e'.before.db.sessions, other.tokenHash ≠ row.tokenHash := by
  have whole := run
  rw [show early ++ e :: late = (early ++ [e]) ++ late by simp] at run
  obtain ⟨m, first, rest⟩ := run.split
  obtain ⟨n, -, last⟩ := first.snoc_inv
  apply rest.preserves_before fun s : World => ∀ other ∈ s.db.sessions, other.tokenHash ≠ row.tokenHash
  · intro e' member before other stored
    obtain ⟨x, done⟩ := rest.exec_eq e' member
    have capped : e'.op.capped env.settings := capped_of_run whole (by simp [member])
    have stems := exec_sessions done capped stored
    generalize operation : e'.op = o at stems
    cases stems with
    | kept inside => exact before other inside
    | @saved copy old inside same written =>
        rw [written]
        exact before old inside
    | @opened cap unused =>
        obtain ⟨mid, after, rfl⟩ := List.append_of_mem member
        have split : early ++ e :: (mid ++ e' :: after) = (early ++ e :: mid) ++ e' :: after := by
          simp
        rw [split] at whole apart undrawn
        obtain ⟨origin, before', hash⟩ := issued
        intro same
        apply Session.Issued.token_ne whole apart undrawn operation
          (before'.mono fun _ inside => List.mem_append_left _ inside)
        rw [← hash, same]
  · rw [← last.after_eq]
    exact gone

/-- In every run, whatever the clock does: a session ends at its ceiling at the latest
and the ceiling inside the deployment's absolute lifetime; a ceiling never changes; a
request whose lookup reads the clock at or after the ceiling fails; and a session
whose row was removed is never looked up again. -/
theorem session_lifetime (run : Run (start env w calls) tr d) (apart : DrawnApart env tr)
    (undrawn : SessionsUndrawn env w.db tr) (chosen : PreferencesChosen env tr)
    (bounded : ∀ row ∈ w.db.sessions, row.Bounded env.settings)
    (unique : ∀ row ∈ w.db.sessions, ∀ row' ∈ w.db.sessions, row.tokenHash = row'.tokenHash →
      row = row') :
    (∀ s ∈ states w tr, ∀ row ∈ s.db.sessions, row.Bounded env.settings) ∧
      (∀ s ∈ states w tr, ∀ s' ∈ states w tr, ∀ row ∈ s.db.sessions, ∀ row' ∈ s'.db.sessions,
        row.sessionId = row'.sessionId →
          row.absoluteExpiresAt = row'.absoluteExpiresAt ∧ row.createdAt = row'.createdAt) ∧
      (∀ i token, calls[i]? = some (.account (.resolveSession token)) →
        ∀ e ∈ tr, e.thread = i → ∀ tokenHash now, e.op = .sessions (.getByTokenHash tokenHash now) →
          (∃ s ∈ states w tr, ∃ row ∈ s.db.sessions,
            row.tokenHash = tokenHash ∧ row.absoluteExpiresAt ≤ now) →
          ∀ answer, d.pool[i]? ≠ some (.done (.ok answer))) ∧
      ∀ early e late, tr = early ++ e :: late → ∀ row ∈ e.before.db.sessions,
        (∀ other ∈ e.after.db.sessions, other.sessionId ≠ row.sessionId) →
          ∀ e' ∈ late, ∀ found now, LooksUp found now e' → found.tokenHash ≠ row.tokenHash := by
  have kept := sessions_kept run apart undrawn chosen bounded
  -- two rows of one token, in any two states, are rows of one session
  have token_same : ∀ s ∈ states w tr, ∀ s' ∈ states w tr, ∀ row ∈ s.db.sessions,
      ∀ row' ∈ s'.db.sessions, row.tokenHash = row'.tokenHash →
        row.sessionId = row'.sessionId ∧ row.absoluteExpiresAt = row'.absoluteExpiresAt := by
    intro s inside s' inside' row stored row' stored' same
    obtain ⟨-, first, issued, origin⟩ := kept s inside row stored
    obtain ⟨-, first', issued', origin'⟩ := kept s' inside' row' stored'
    have one : first = first' := by
      apply issued.of_token run apart undrawn unique issued'
      rw [← origin.tokenHash, ← origin'.tokenHash, same]
    subst one
    exact ⟨origin.sessionId.trans origin'.sessionId.symm, origin.ceiling.trans origin'.ceiling.symm⟩
  refine ⟨fun s inside row stored => (kept s inside row stored).1, ?_, ?_, ?_⟩
  · intro s inside s' inside' row stored row' stored' same
    obtain ⟨-, first, issued, origin⟩ := kept s inside row stored
    obtain ⟨-, first', issued', origin'⟩ := kept s' inside' row' stored'
    have one : first = first' := by
      apply issued.of_id run apart undrawn issued'
      rw [← origin.sessionId, ← origin'.sessionId, same]
    subst one
    exact ⟨origin.ceiling.trans origin'.ceiling.symm, origin.createdAt.trans origin'.createdAt.symm⟩
  · rintro i token found e member mine tokenHash now asks ⟨s, inside, row, stored, hash, ended⟩
      answer finished
    have here : (start env w calls).pool[i]? =
        some (Call.prog env (.account (.resolveSession token))) := by simp [start, found]
    obtain ⟨q, last, path⟩ := run.path i _ here
    rw [finished] at last
    cases last
    obtain ⟨session, resolving⟩ := returning_returned path
    obtain ⟨looked, looks⟩ :=
      AccountService.resolveSession_found resolving (mem_ofThread.mpr ⟨member, mine⟩) asks
    obtain ⟨x, done⟩ := run.exec_eq e member
    obtain ⟨stored', alive, tokenHash', asks', hash'⟩ := looks.stored done
    rw [asks] at asks'
    cases asks'
    have before := run.before_mem_states member
    have ceiling := (token_same s inside e.before before row stored looked stored'
      (hash.trans hash'.symm)).2
    rw [ceiling] at ended
    exact absurd alive (not_lt.mpr ended)
  · rintro early e late rfl row stored gone e' member found now looks same
    have before := run.before_mem_states (show e ∈ early ++ e :: late by simp)
    have after := Run.after_mem_states w (show e ∈ early ++ e :: late by simp)
    have hashes : ∀ other ∈ e.after.db.sessions, other.tokenHash ≠ row.tokenHash := by
      intro other stored' hash
      exact gone other stored' (token_same _ after _ before other stored' row stored hash).1
    obtain ⟨m, first, here⟩ := run.before_of_split
    have undrawn' : SessionsUndrawn env w.db early := by
      intro x inside
      exact undrawn x (by simp [drawnStrings_append, inside])
    have chosen' : PreferencesChosen env early := fun preferences e' inside =>
      chosen preferences e' (List.mem_append_left _ inside)
    have final := first.state_mem_states
    rw [here] at final
    obtain ⟨-, origin, issued, same'⟩ :=
      sessions_kept first apart.early undrawn' chosen' bounded _ final row stored
    obtain ⟨x, done⟩ := run.exec_eq e' (by simp [member])
    exact token_gone run apart undrawn ⟨origin, issued, same'.tokenHash⟩ hashes e' member found (looks.stored done).1 same

end Runs

/-! ## A session that is touched while it ends -/

namespace Scenario

def lifetimeCalls : List Call :=
  [.account (.login "bob@mail.org" "battery staple" "here"), .account (.resolveSession "d7"),
    .account (.logout "sess_d8"), .account (.resolveSession "d7")]

/-- The logout falls between the lookup of a touch and its save. -/
def lifetimeRun : Config (machine deployment) Error Answer × List (Event (machine deployment)) :=
  (start deployment office lifetimeCalls).play
    (["d0", "d1", "d2", "d3", "d4", "d5", "d6", "d7", "d8", "d9"].map (0, given 1 ·) ++
      List.replicate 4 (1, given 2 "") ++ [(2, given 3 ""), (1, given 3 "")] ++
      List.replicate 2 (3, given 4 ""))

def preferencesRead : Event (machine deployment) → Option Preferences
  | ⟨_, .preferences _, .ok preferences, _, _⟩ => some preferences
  | _ => none

end Scenario

open Scenario in
theorem session_lifetime_logout :
    Run (start deployment office lifetimeCalls) lifetimeRun.2 lifetimeRun.1 ∧
      (∃ answer, lifetimeRun.1.pool[1]? = some (.done (.ok answer))) ∧
      ∀ s ∈ states office lifetimeRun.2, ∀ row ∈ s.db.sessions, row.Bounded deployment.settings := by
  have run : Run (start deployment office lifetimeCalls) lifetimeRun.2 lifetimeRun.1 :=
    Config.play_run _ _
  have apart : DrawnApart deployment lifetimeRun.2 := by
    unfold DrawnApart
    decide +kernel
  have empty : ∀ row ∈ office.db.sessions, False := fun _ stored => List.not_mem_nil stored
  have chosen : PreferencesChosen deployment lifetimeRun.2 := by
    have read : ∀ preferences ∈ lifetimeRun.2.filterMap preferencesRead,
        preferences = deploymentPreferences deployment.settings := by decide +kernel
    intro preferences e member reads
    cases reads
    rw [read preferences (List.mem_filterMap.mpr ⟨_, member, rfl⟩)]
    exact Or.inl rfl
  refine ⟨run, returned_some (by decide +kernel), (session_lifetime run apart ?_ chosen ?_ ?_).1⟩
  · intro x _ row stored
    exact (empty row stored).elim
  · intro row stored
    exact (empty row stored).elim
  · intro row stored
    exact (empty row stored).elim

end Keyring
