import Keyring.Accounts.Attempts
import Keyring.Scenario

/-!
# The lockout under concurrent guesses

A rejected password saves the copy that was read with one more failure.  As long
as each of these saves raises the count that is stored, every rejection counts,
the row a guess saves over is the one it has read, and a lock only moves later.
-/

set_option autoImplicit false

namespace Keyring

open Interleave Relational AccountService

variable {env : Env} {accountId : String}

/-- What an attempt on the account presents is not its password. -/
def Attempt.wrongFor (env : Env) (row : AccountRow) : Attempt → Prop
  | .login email password _ => normalizeEmail env.text email = .ok row.email →
      env.hasher.verify row.passwordHash password = false
  | .confirm accountId password => row.accountId = accountId →
      env.hasher.verify row.passwordHash password = false

instance (env : Env) (row : AccountRow) (attempt : Attempt) : Decidable (attempt.wrongFor env row) :=
  match attempt with
  | .login _ _ _ => inferInstanceAs (Decidable (_ → _))
  | .confirm _ _ => inferInstanceAs (Decidable (_ → _))

def failedAttempts (accountId : String) (w : World) : Nat :=
  ((w.db.accounts.find? accountId).map (·.failedAttempts)).getD 0

def lockedUntil (accountId : String) (w : World) : Option Instant :=
  (w.db.accounts.find? accountId).bind (·.lockedUntil)

/-- A save of the account writes a higher count than the one that is stored. -/
def RaisesFailures (accountId : String) (o : Op) (a : o.Ans) (w : World) : Prop :=
  ∀ copy, o.saved a = some copy → copy.accountId = accountId →
    failedAttempts accountId w < copy.failedAttempts

instance (accountId : String) (o : Op) (a : o.Ans) (w : World) :
    Decidable (RaisesFailures accountId o a w) :=
  decidable_of_iff
    ((o.saved a).all fun copy =>
      copy.accountId ≠ accountId || failedAttempts accountId w < copy.failedAttempts) (by
    rw [RaisesFailures]
    cases o.saved a <;> simp [or_iff_not_imp_left])

/-! ## What guesses do to the row -/

/-- What a row becomes by failures that count. -/
structure Counted (threshold : Nat) (row row' : AccountRow) : Prop where
  accountId : row'.accountId = row.accountId
  email : row'.email = row.email
  passwordHash : row'.passwordHash = row.passwordHash
  counted : row.failedAttempts ≤ row'.failedAttempts
  same : row'.failedAttempts = row.failedAttempts → row' = row
  locked : threshold ≤ row.failedAttempts → ∀ lock, row.lockedUntil = some lock →
    ∃ later, row'.lockedUntil = some later ∧ lock ≤ later

theorem Counted.refl (threshold : Nat) (row : AccountRow) : Counted threshold row row :=
  ⟨rfl, rfl, rfl, le_rfl, fun _ => rfl, fun _ lock known => ⟨lock, known, le_rfl⟩⟩

theorem Counted.trans {threshold : Nat} {row mid row' : AccountRow}
    (first : Counted threshold row mid) (second : Counted threshold mid row') :
    Counted threshold row row' := by
  refine ⟨second.accountId.trans first.accountId, second.email.trans first.email,
    second.passwordHash.trans first.passwordHash, first.counted.trans second.counted,
    fun same => ?_, fun reached lock known => ?_⟩
  · have between := first.counted
    have after := second.counted
    rw [second.same (by omega), first.same (by omega)]
  · obtain ⟨lock', known', le⟩ := first.locked reached lock known
    obtain ⟨lock'', known'', le'⟩ := second.locked (reached.trans first.counted) lock' known'
    exact ⟨lock'', known'', le.trans le'⟩

def Counts (env : Env) (accountId : String) (w w' : World) : Prop :=
  ∀ row, w.db.accounts.find? accountId = some row →
    ∃ row', w'.db.accounts.find? accountId = some row' ∧
      Counted env.settings.lockoutThreshold row row'

theorem Counts.of_row {w w' : World}
    (row : w'.db.accounts.find? accountId = w.db.accounts.find? accountId) :
    Counts env accountId w w' := fun r found => ⟨r, by rw [row, found], .refl _ r⟩

theorem Counts.refl (w : World) : Counts env accountId w w := .of_row rfl

theorem Counts.trans {w m w' : World} (first : Counts env accountId w m)
    (second : Counts env accountId m w') : Counts env accountId w w' := by
  intro row found
  obtain ⟨mid, found', counted⟩ := first row found
  obtain ⟨row', found'', counted'⟩ := second mid found'
  exact ⟨row', found'', counted.trans counted'⟩

/-- A guess that was let in and counts leaves a later lock. -/
theorem Counted.failure {account copy : Account} {row : AccountRow} {now : Instant}
    (since : Counted env.settings.lockoutThreshold account.toAccountRow row)
    (recorded : failed env account now = .ok copy)
    (raises : row.failedAttempts < account.failedAttempts + 1)
    (opened : notAuthenticable account now = false) :
    Counted env.settings.lockoutThreshold row (row.overwrite copy) := by
  obtain ⟨-, rfl⟩ := withFailure_eq_ok.mp recorded
  have counted := since.counted
  have same : row = account.toAccountRow := since.same (by omega)
  subst same
  refine ⟨rfl, rfl, rfl, Nat.le_succ _, fun impossible => ?_, fun reached lock known => ?_⟩
  · exact absurd impossible (Nat.succ_ne_self _)
  · have expired : lock ≤ now := by
      simp only [notAuthenticable, Account.isLocked, known, Bool.or_eq_false_iff] at opened
      simpa using opened.1
    refine ⟨now + env.settings.lockoutSeconds, ?_, ?_⟩
    · exact if_pos (Nat.le_succ_of_le reached)
    · exact expired.trans (Int.le_add_of_nonneg_right env.settings.lockout_pos.2)

/-! ## One guess, under interference -/

def keeps (env : Env) (accountId : String) : (machine env).Effect :=
  fun _ _ w w' => Counts env accountId w w'

def raises (env : Env) (accountId : String) : (machine env).Effect :=
  fun o a w _ => RaisesFailures accountId o a w

theorem elsewhere_keeps {o : Op} (elsewhere : o.elsewhere accountId) (w : World) (x : Input)
    (a : o.Ans) (w' : World) (done : exec env o x w = some (a, w')) :
    keeps env accountId o a w w' ∧ Counts env accountId w w' :=
  have row := (exec_elsewhere done elsewhere).1
  ⟨.of_row row, .of_row row⟩

/-- A guess at another account. -/
theorem guarded_sat_elsewhere {attempt : Attempt} {account : Account}
    (other : account.accountId ≠ accountId) (w : World) :
    (guarded env account attempt.password (attempt.accept env account)).Sat
      (raises env accountId) (Counts env accountId) (keeps env accountId) (fun _ _ => True) w := by
  refine Prog.Sat.of_uses (P := fun _ => True) (attempt.guarded_elsewhere other)
    (fun _ _ _ _ => trivial) ?_ (fun _ _ _ => trivial) trivial
  intro o elsewhere w x a w' _ done _
  exact ⟨(elsewhere_keeps elsewhere w x a w' done).1, trivial⟩

theorem guarded_sat {α : Type} {account : Account} {password : String}
    {accept : Instant → Service env α} {w : World}
    (stored : w.db.accounts.find? account.accountId = some account.toAccountRow)
    (wrong : env.hasher.verify account.passwordHash password = false) :
    (guarded env account password accept).Sat (raises env account.accountId)
      (Counts env account.accountId) (keeps env account.accountId) (fun _ _ => True) w := by
  intro w₁ others x now w₂ read _
  have advanced : exec env .now x w₁ = some (now, w₂) := read
  have kept : Counts env account.accountId w₁ w₂ := .of_row (exec_elsewhere advanced trivial).1
  refine ⟨kept, ?_⟩
  change (refuseIf _ _ >>= fun _ => _).Sat _ _ _ _ w₂
  rw [refuseIf_bind]
  split
  · trivial
  · rename_i opened
    rw [if_neg (by simp [wrong]), rejectPassword]
    cases recorded : failed env account now with
    | error e => trivial
    | ok copy =>
    intro w₃ others' x' r w₄ done raised
    have written : exec env (.accounts (.save copy)) x' w₃ = some (r, w₄) := done
    have same := withFailure_accountId recorded
    refine ⟨fun row found => ?_, by cases r <;> trivial⟩
    obtain ⟨row', found', since⟩ := ((others.trans kept).trans others') _ stored
    rw [found] at found'
    cases found'
    cases exec_written written trivial account.accountId with
    | saved copy saved _ row_after _ =>
        cases Op.saved_eq_some saved
        have counts := raised _ saved same
        rw [failedAttempts, found, withFailure_failedAttempts recorded] at counts
        exact ⟨_, by rw [row_after, found]; rfl,
          since.failure recorded counts (by simpa using opened)⟩
    | assigned names now' _ assigned _ _ => cases assigned
    | kept _ _ row_after _ => exact ⟨row, by rw [row_after, found], .refl _ row⟩

theorem Attempt.wrong_of_lookup {attempt : Attempt} {row : AccountRow} {account : Account}
    {threshold : Nat} {db : Db} (wrong : attempt.wrongFor env row)
    (found : attempt.lookup env db = some account)
    (since : Counted threshold row account.toAccountRow) :
    env.hasher.verify account.passwordHash attempt.password = false := by
  rw [show account.passwordHash = row.passwordHash from since.passwordHash]
  cases attempt with
  | login email password caller =>
      simp only [Attempt.lookup] at found
      split at found
      · rename_i address normal
        exact wrong (by rw [normal, ← (readAccountByEmail_some found).2, ← since.email])
      · cases found
  | confirm accountId password =>
      obtain ⟨_, _, _, keyed, _⟩ := readAccount_some found
      exact wrong (since.accountId.symm.trans keyed)

theorem Attempt.sat {attempt : Attempt} {w : World} {row : AccountRow}
    (stored : w.db.accounts.find? accountId = some row) (wrong : attempt.wrongFor env row) :
    (attempt.call.prog env).Sat (raises env accountId) (Counts env accountId)
      (keeps env accountId) (fun _ _ => True) w := by
  rw [attempt.prog_eq]
  refine Prog.Sat.bind (Attempt.find_sat Counts.refl (fun _ _ _ => Counts.trans) (fun _ _ => id)
    (fun o finding w x a w' done _ =>
      elsewhere_keeps (Attempt.finding_plain finding).elsewhere w x a w' done)
    attempt w) (fun found w' read => ?_) (fun _ _ _ => trivial)
  obtain ⟨others, looked⟩ := read
  cases found with
  | none => trivial
  | some account =>
      have found := (looked _ rfl).symm
      have read := Attempt.lookup_some found
      by_cases mine : account.accountId = accountId
      · subst mine
        obtain ⟨row', found', since⟩ := others row stored
        rw [readAccount_row read] at found'
        cases found'
        exact guarded_sat (readAccount_row read) (Attempt.wrong_of_lookup wrong found since)
      · exact guarded_sat_elsewhere mine w'

/-! ## Every run -/

section Runs

variable {attempts : List Attempt} {w : World} {row : AccountRow}
  {d : Config (machine env) Error Answer} {tr : List (Event (machine env))}

theorem run_counts (stored : w.db.accounts.find? accountId = some row)
    (wrong : ∀ attempt ∈ attempts, attempt.wrongFor env row)
    (run : Run (start env w (attempts.map Attempt.call)) tr d)
    (raised : ∀ e ∈ tr, RaisesFailures accountId e.op e.ans e.before) :
    ∀ e ∈ tr, Counts env accountId e.before e.after := by
  refine (run.sat (E := raises env accountId) (Q := fun _ _ _ => True)
    (T := fun _ => True) Counts.refl (fun _ _ _ => Counts.trans) (fun _ _ _ _ _ guar => guar)
    (fun _ _ _ _ _ _ => trivial) (fun _ _ => trivial) raised ?_).1
  intro i _ p found
  simp only [start, List.map_map, List.getElem?_map, Option.map_eq_some_iff] at found
  obtain ⟨attempt, member, rfl⟩ := found
  exact Attempt.sat stored (wrong attempt (List.mem_of_getElem? member))

def SavesAccount (accountId : String) (e : Event (machine env)) : Bool :=
  (Op.saved e.op e.ans).any (·.accountId = accountId)

theorem savesAccount_iff {e : Event (machine env)} :
    SavesAccount accountId e ↔ ∃ copy, Op.saved e.op e.ans = some copy ∧ copy.accountId = accountId := by
  rw [SavesAccount]
  cases Op.saved e.op e.ans <;> simp

theorem failedAttempts_saved {o : Op} {a : o.Ans} {w w' : World} {copy : Account}
    (written : Written accountId o a w.db w'.db) (saved : o.saved a = some copy)
    (mine : copy.accountId = accountId) (present : (w.db.accounts.find? accountId).isSome) :
    failedAttempts accountId w' = copy.failedAttempts := by
  obtain ⟨row, found⟩ := Option.isSome_iff_exists.mp present
  cases written with
  | saved copy' saved' _ after _ =>
      rw [saved] at saved'
      cases saved'
      rw [failedAttempts, after, found]
      rfl
  | assigned _ _ unsaved _ _ _ => rw [unsaved] at saved; cases saved
  | kept unsaved _ _ _ => exact absurd mine (unsaved copy saved)

theorem saves_le_failures (stored : w.db.accounts.find? accountId = some row)
    (wrong : ∀ attempt ∈ attempts, attempt.wrongFor env row)
    (run : Run (start env w (attempts.map Attempt.call)) tr d)
    (raised : ∀ e ∈ tr, RaisesFailures accountId e.op e.ans e.before) :
    (d.state.db.accounts.find? accountId).isSome ∧
      row.failedAttempts + tr.countP (SavesAccount accountId) ≤ failedAttempts accountId d.state := by
  have counts := run_counts stored wrong run raised
  induction run with
  | refl =>
      change (w.db.accounts.find? accountId).isSome ∧ _ + _ ≤ failedAttempts accountId w
      simp [failedAttempts, stored]
  | @snoc tr m d e init last ih =>
      obtain ⟨present, earlier⟩ := ih (fun e' member => raised e' (List.mem_append_left _ member))
        fun e' member => counts e' (List.mem_append_left _ member)
      obtain ⟨before, found⟩ := Option.isSome_iff_exists.mp present
      obtain ⟨after, found', counted⟩ :=
        counts e (by simp) before (by rw [last.before_eq]; exact found)
      rw [last.after_eq] at found'
      refine ⟨by simp [found'], ?_⟩
      have recorded := counted.counted
      simp only [failedAttempts, found, found', Option.map_some, Option.getD_some,
        List.countP_append, List.countP_singleton] at earlier ⊢
      split
      · rename_i saves
        obtain ⟨x, done⟩ := last.exec_eq
        obtain ⟨copy, saved, mine⟩ := savesAccount_iff.mp saves
        have raises := raised e (by simp) copy saved mine
        have spares : e.op.sparesAccounts := by rw [Op.saved_eq_some saved]; trivial
        have written := failedAttempts_saved (exec_written done spares accountId) saved mine
        rw [last.before_eq] at raises written
        simp only [last.after_eq, failedAttempts, found, found', Option.map_some,
          Option.getD_some, Option.isSome_some, true_implies] at raises written
        omega
      · omega

/-- Request `i` has ended, having rejected the password it was sent as wrong. -/
def rejectedWrong (accountId : String) (attempts : List Attempt)
    (d : Config (machine env) Error Answer) (tr : List (Event (machine env))) (i : Nat) : Bool :=
  match attempts[i]?, foundIn (ofThread i tr), shownIn (ofThread i tr) with
  | some attempt, some account, some now =>
      account.accountId = accountId && !notAuthenticable account now &&
        !env.hasher.verify account.passwordHash attempt.password &&
        (d.pool[i]?).bind Prog.raised? = some (.authentication badCredentials)
  | _, _, _ => false

/-- How many requests have rejected a wrong password. -/
def rejections (accountId : String) (attempts : List Attempt)
    (d : Config (machine env) Error Answer) (tr : List (Event (machine env))) : Nat :=
  (List.range attempts.length).countP (rejectedWrong accountId attempts d tr)

theorem save_not_authentication {copy : Account} {x : Input} {w w' : World} {e : Error}
    (done : exec env (.accounts (.save copy)) x w = some (.error e, w')) :
    e ≠ .authentication badCredentials := by
  rcases onDb_eq.mp done with ⟨done, -⟩
  rcases AccountOp.save_error (transact_error.mp done).1 with rfl | rfl <;> exact Error.noConfusion

/-- What has not saved its failure yet has not refused the password. -/
theorem rejectPassword_unsaved {α : Type} (account : Account) (now : Instant) :
    (rejectPassword env account now : Service env α).raised? ≠
      some (.authentication badCredentials) := by
  intro refused
  rw [rejectPassword] at refused
  cases recorded : failed env account now with
  | error e =>
      obtain ⟨-, message, rfl⟩ := failed_error recorded
      rw [recorded] at refused
      cases refused
  | ok copy =>
      rw [recorded] at refused
      cases refused

theorem rejectedWrong_saves (run : Run (start env w (attempts.map Attempt.call)) tr d) {i : Nat}
    (rejected : rejectedWrong accountId attempts d tr i = true) :
    ∃ e ∈ tr, e.thread = i ∧ SavesAccount accountId e := by
  unfold rejectedWrong at rejected
  split at rejected
  case h_2 => cases rejected
  case h_1 attempt account now known found shown =>
    simp only [Bool.and_eq_true, decide_eq_true_eq, Bool.not_eq_true'] at rejected
    obtain ⟨⟨⟨mine, opened⟩, wrong⟩, raised⟩ := rejected
    obtain ⟨q, here, path⟩ := path_of_run run i attempt.call (by simp [known])
    rw [here, Option.bind_some] at raised
    rcases attempt.inv path with never | ⟨limits, e, account', rest, whole, quiet, found', path⟩
    · rw [never] at found
      cases found
    · rw [whole, Attempt.foundIn_of_found quiet found'] at found
      cases found
      rcases guarded_inv path with ⟨-, rfl⟩ | ⟨j, now', s, s', rest', rfl, outcome⟩
      · cases raised
      · rw [whole, Attempt.shownIn_of_shown quiet found' rfl] at shown
        cases shown
        rcases outcome with ⟨closed, -, -⟩ | ⟨-, path⟩
        · rw [closed] at opened
          cases opened
        · rw [if_neg (by simp [wrong])] at path
          rcases rejectPassword_inv path with ⟨-, rfl⟩ | ⟨copy, k, r, t, t', recorded, rfl, outcome⟩
          · exact absurd raised (rejectPassword_unsaved account now')
          · have member : (⟨k, .accounts (.save copy), r, t, t'⟩ : Event (machine env)) ∈
                ofThread i tr := by rw [whole]; simp
            obtain ⟨inside, mine_too⟩ := mem_ofThread.mp member
            obtain ⟨x, done⟩ := exec_of_run run inside
            rcases outcome with ⟨e, rfl, rfl⟩ | ⟨rfl, -⟩
            · cases raised
              exact absurd rfl (save_not_authentication done)
            · exact ⟨_, inside, mine_too,
                savesAccount_iff.mpr ⟨_, rfl, (withFailure_accountId recorded).trans mine⟩⟩

theorem rejections_le_saves (run : Run (start env w (attempts.map Attempt.call)) tr d) :
    rejections accountId attempts d tr ≤ tr.countP (SavesAccount accountId) := by
  rw [rejections, List.countP_eq_length_filter, List.countP_eq_length_filter,
    ← List.length_map (f := Event.thread)]
  refine ((List.nodup_range.filter _).subperm fun i member => ?_).length_le
  obtain ⟨-, rejected⟩ := List.mem_filter.mp member
  obtain ⟨e, inside, rfl, saves⟩ := rejectedWrong_saves run rejected
  exact List.mem_map_of_mem (List.mem_filter.mpr ⟨inside, saves⟩)

theorem closed_after (stored : w.db.accounts.find? accountId = some row)
    (wrong : ∀ attempt ∈ attempts, attempt.wrongFor env row) {early late : List (Event (machine env))}
    (run : Run (start env w (attempts.map Attempt.call)) (early ++ late) d)
    (raised : ∀ e ∈ early ++ late, RaisesFailures accountId e.op e.ans e.before)
    (reached : env.settings.lockoutThreshold ≤ failedAttempts accountId (finalState w early))
    {lock : Instant} (locked : lockedUntil accountId (finalState w early) = some lock)
    {e : Event (machine env)} (member : e ∈ late) {account : Account}
    (found : Op.found e.op e.ans = some account) (mine : account.accountId = accountId)
    {now : Instant} (within : now < lock) : notAuthenticable account now = true := by
  obtain ⟨before, there, until_lock⟩ := Option.bind_eq_some_iff.mp locked
  have counts := run.related_before (Counts env accountId) Counts.refl Counts.trans
    (run_counts stored wrong run raised) e member
  obtain ⟨after, there', counted⟩ := counts before there
  obtain ⟨x, done⟩ := exec_of_run run (List.mem_append_right _ member)
  have read := readAccount_row (exec_found done found).1
  rw [mine, there'] at read
  cases read
  rw [failedAttempts, there] at reached
  obtain ⟨later, known, le⟩ := counted.locked reached lock until_lock
  have closed : account.isLocked now = true := by
    rw [Account.isLocked, show account.lockedUntil = some later from known]
    exact decide_eq_true (lt_of_lt_of_le within le)
  simp [notAuthenticable, closed]

/-- In every run of guesses whose saves each raise the stored count, every
rejection is in the count, and once the threshold is reached a request that
finds the account then, and reads the clock before the lock ends, is answered
as it would be with any other password. -/
theorem lockout_counts (stored : w.db.accounts.find? accountId = some row)
    (wrong : ∀ attempt ∈ attempts, attempt.wrongFor env row)
    (run : Run (start env w (attempts.map Attempt.call)) tr d)
    (raised : ∀ e ∈ tr, RaisesFailures accountId e.op e.ans e.before) :
    row.failedAttempts + rejections accountId attempts d tr ≤ failedAttempts accountId d.state ∧
      ∀ early late, tr = early ++ late →
        env.settings.lockoutThreshold ≤ failedAttempts accountId (finalState w early) →
        ∀ lock, lockedUntil accountId (finalState w early) = some lock →
        ∀ i attempt r, attempts[i]? = some attempt → d.pool[i]? = some (.done r) →
          ofThread i early = [] →
          (∀ account, foundIn (ofThread i tr) = some account → account.accountId = accountId) →
          (∀ now, shownIn (ofThread i tr) = some now → now < lock) →
          ∀ password, Path ((attempt.sending password).call.prog env) (ofThread i tr) (.done r) := by
  refine ⟨(Nat.add_le_add_left (rejections_le_saves run) _).trans
    (saves_le_failures stored wrong run raised).2, ?_⟩
  rintro early late rfl reached lock locked i attempt r known ended begun mine before password
  obtain ⟨q, here, path⟩ := path_of_run run i attempt.call (by simp [known])
  rw [ended] at here
  cases here
  refine attempt.blind path (fun account now found shown => ?_) password
  rw [ofThread_append, begun, List.nil_append] at found
  obtain ⟨e, member, found'⟩ := List.exists_of_findSome?_eq_some found
  refine closed_after stored wrong run raised reached locked (mem_ofThread.mp member).1 found' ?_
    (before now shown)
  exact mine account (by rw [ofThread_append, begun, List.nil_append]; exact found)

end Runs

/-! ## Guesses that overlap -/

namespace Scenario

/-- Two wrong guesses at Bob's password. -/
def twoGuesses : List Attempt :=
  [.login "bob@mail.org" "guess one" "here", .confirm "bob" "guess two"]

/-- Both read the account before either saves its failure. -/
def overlapping : Config (machine deployment) Error Answer × List (Event (machine deployment)) :=
  (start deployment office (twoGuesses.map Attempt.call)).play
    (List.replicate 4 (0, given 5 "a") ++ List.replicate 3 (1, given 6 "b") ++ [(0, given 7 "c")])

/-- And a third. -/
def threeGuesses : List Attempt := twoGuesses ++ [.confirm "bob" "guess three"]

/-- One guess after the other. -/
def inTurn : Config (machine deployment) Error Answer × List (Event (machine deployment)) :=
  (start deployment office (threeGuesses.map Attempt.call)).play
    (List.replicate 5 (0, given 5 "a") ++ List.replicate 3 (1, given 6 "b") ++
      List.replicate 3 (2, given 7 "c"))

theorem inTurn_run :
    Run (start deployment office (threeGuesses.map Attempt.call)) inTurn.2 inTurn.1 :=
  Config.play_run _ _

theorem threeGuesses_wrong : ∀ attempt ∈ threeGuesses, attempt.wrongFor deployment bob := by
  intro attempt member
  simp only [threeGuesses, twoGuesses, List.cons_append, List.nil_append, List.mem_cons,
    List.not_mem_nil, or_false] at member
  rcases member with rfl | rfl | rfl <;> intro _ <;> decide +kernel

end Scenario

open Scenario in
/-- Two guesses were rejected, and one failure is stored. -/
theorem lockout_loses_a_guess :
    ¬ rejections "bob" twoGuesses overlapping.1 overlapping.2 ≤
      failedAttempts "bob" overlapping.1.state := by decide +kernel

open Scenario in
theorem lockout_counts_inTurn :
    (bob.failedAttempts + rejections "bob" threeGuesses inTurn.1 inTurn.2 ≤
        failedAttempts "bob" inTurn.1.state) ∧
      ∀ r, inTurn.1.pool[2]? = some (.done r) → ∀ password,
        Path ((Attempt.confirm "bob" password).call.prog deployment) (ofThread 2 inTurn.2)
          (.done r) := by
  have stored : office.db.accounts.find? "bob" = some bob := rfl
  have counts := lockout_counts stored threeGuesses_wrong inTurn_run (by decide +kernel)
  refine ⟨counts.1, fun r ended => ?_⟩
  have found : (foundIn (ofThread 2 inTurn.2)).all (·.accountId = "bob") := by decide +kernel
  have shown : shownIn (ofThread 2 inTurn.2) = some 7 := by decide +kernel
  refine counts.2 (inTurn.2.take 8) (inTurn.2.drop 8) (List.take_append_drop 8 _).symm
    (by decide +kernel) (6 + seconds 900) (by decide +kernel) 2 (.confirm "bob" "guess three") r rfl
    ended (List.isEmpty_iff.mp (by decide +kernel)) (fun account same => ?_) (fun now same => ?_)
  · rw [same] at found
    simpa using found
  · rw [shown] at same
    cases same
    decide

end Keyring
