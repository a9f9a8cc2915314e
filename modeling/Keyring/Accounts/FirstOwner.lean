import Keyring.Accounts.Deletion

/-!
# The first account and its owner

A redemption counts the accounts, hashes the password and then adds its account,
in steps of their own.  One that has counted none makes an owner, whoever has come
first in the meantime.
-/

set_option autoImplicit false

namespace Keyring

open Interleave Relational

variable {env : Env}

/-- One account is the owner and every other has the default role alone. -/
def OneOwner (db : Db) : Prop :=
  ∃ first ∈ db.accounts, rolesOf db first.accountId = [OWNER] ∧
    ∀ row ∈ db.accounts, row.accountId ≠ first.accountId →
      rolesOf db row.accountId = [defaultRole]

theorem OneOwner.unique {db : Db} (one : OneOwner db) {row row' : AccountRow}
    (stored : row ∈ db.accounts) (stored' : row' ∈ db.accounts)
    (owns : rolesOf db row.accountId = [OWNER]) (owns' : rolesOf db row'.accountId = [OWNER]) :
    row.accountId = row'.accountId := by
  obtain ⟨first, -, -, rest⟩ := one
  have owner : ∀ other ∈ db.accounts, rolesOf db other.accountId = [OWNER] →
      other.accountId = first.accountId := by
    intro other inside held
    by_contra distinct
    have role := rest other inside distinct
    rw [held] at role
    exact absurd role (by decide)
  rw [owner row stored owns, owner row' stored' owns']

def FirstOwner (w : World) : Prop := w.db.accounts.rows ≠ [] → OneOwner w.db

inductive CountsAccounts (n : Nat) : Event (machine env) → Prop where
  | answered {i : Nat} {s s' : World} : CountsAccounts n ⟨i, .accounts .count, .ok n, s, s'⟩

/-- A new account commits. -/
inductive Commits : Event (machine env) → Prop where
  | added {i : Nat} {account : Account} {s s' : World} :
      Commits ⟨i, .accounts (.add account), .ok (), s, s'⟩

/-! ## One redemption -/

def Op.tallies : Op → Prop
  | .accounts .count | .accounts (.add _) => True
  | _ => False

namespace AccountService

theorem redeemInvite_calling {token password caller : String} {es : List (Event (machine env))}
    {account : Account} {next : Except Error Unit → Service env Account}
    (path : Path (redeemInvite env token password caller) es
      (.call (.accounts (.add account)) next)) :
    ∃ n, (∃ e ∈ es, CountsAccounts n e) ∧ (∀ m, ∀ e ∈ es, CountsAccounts m e → m = n) ∧
      account.roles = if n = 0 then [OWNER] else [defaultRole] := by
  have other : ¬ ¬ Op.tallies (.accounts (.add account)) := fun n => n trivial
  have limits : (checkLimit scopeInvite caller env.settings.inviteAttempts
      env.settings.inviteWindowSeconds : Service env Unit).Uses fun (o : Op) => ¬ o.tallies := by
    apply checkLimit_uses
    intro o limits
    cases o with
    | accounts _ => exact limits.elim
    | _ => exact id
  have redeeming : (redeem env token .invite).Uses fun (o : Op) => ¬ o.tallies := by
    apply Prog.Uses.bind (show (clockNow : Service env Instant).Uses _ from ask_uses id)
    intro now
    apply Prog.Uses.bind (grantStore_uses id)
    intro redeemed
    cases redeemed with
    | none => trivial
    | some grant => exact Prog.Uses.bind (refuseIf_uses _ _) fun _ => trivial
  obtain ⟨_, es₁, es₂, rfl, limited, path₁⟩ := path.bind_beyond limits other
  obtain ⟨_, -, path₂⟩ := ofExcept_bind_calling path₁
  obtain ⟨grant, es₃, es₄, rfl, redeemed, path₃⟩ := path₂.bind_beyond redeeming other
  have before : ∀ m, ∀ e ∈ es₁ ++ es₃, ¬ CountsAccounts m e := by
    intro m e member counts
    have untallied : ¬ e.op.tallies := by
      rcases List.mem_append.mp member with inside | inside
      · exact (limited.uses limits).1 e inside
      · exact (redeemed.uses redeeming).1 e inside
    cases counts
    exact untallied trivial
  split at path₃
  · exact (done_calling path₃).elim
  · obtain ⟨i, now, s, s', _, rfl, path₄⟩ := ask_bind_calling path₃ (by simp)
    obtain ⟨j, answer, n, t, t', _, rfl, rfl, path₅⟩ := store_bind_calling path₄ (by simp)
    obtain ⟨k, hex, u, u', _, rfl, path₆⟩ := ask_bind_calling path₅ (by simp)
    obtain ⟨l, salt, v, v', rest, rfl, adding⟩ := ask_bind_calling path₆ (by simp)
    rcases adding.call_inv with ⟨rfl, here⟩ | ⟨_, _, _, _, _, -, added⟩
    · cases here
      refine ⟨n, ⟨⟨j, .accounts .count, .ok n, t, t'⟩, by simp, .answered⟩, ?_, ?_⟩
      · intro m e member counts
        simp only [List.mem_append, List.mem_cons, List.not_mem_nil, or_false] at member
        rcases member with inside | inside | rfl | rfl | rfl | rfl
        · exact (before m e (List.mem_append_left _ inside) counts).elim
        · exact (before m e (List.mem_append_right _ inside) counts).elim
        · cases counts
        · cases counts
          rfl
        · cases counts
        · cases counts
      · simp
    · rcases done_bind_inv added with ⟨_, -, -, impossible⟩ | ⟨_, -, final⟩
      · cases impossible
      · obtain ⟨_, _, _, _, _, -, ended⟩ := ask_bind_calling final (by simp)
        exact (done_calling ended).elim

end AccountService

/-! ## One step -/

section Steps

variable {o : Op} {a : o.Ans} {x : Input} {w w' : World} {token password caller : String}

def SameAccounts (w w' : World) : Prop :=
  w'.db.accounts = w.db.accounts ∧ w'.db.accountRoles = w.db.accountRoles

theorem exec_sameAccounts (done : exec env o x w = some (a, w'))
    (mine : o.idle ∨ AccountCall.writes (.redeemInvite token password caller) o)
    (adds : ∀ account, o = .accounts (.add account) → w'.db = w.db) : SameAccounts w w' := by
  cases o with
  | accounts o =>
      rcases onDb_cases done with ⟨v, -, committed⟩ | ⟨-, same⟩
      · cases o with
        | add account =>
            rw [SameAccounts, adds account rfl]
            exact ⟨rfl, rfl⟩
        | get _ | getByEmail _ | count | listAll | countHolding _ =>
            have same : w'.db = w.db := (Prod.mk.inj (Except.ok.inj committed)).2.symm
            rw [SameAccounts, same]
            exact ⟨rfl, rfl⟩
        | save _ | delete _ | setRoles _ _ _ => rcases mine with idle | writes <;> contradiction
      · rw [SameAccounts, same]
        exact ⟨rfl, rfl⟩
  | _ => exact (exec_touches done).accounts fun _ => Op.noConfusion

theorem SameAccounts.firstOwner_iff (same : SameAccounts w w') : FirstOwner w' ↔ FirstOwner w := by
  have roles : ∀ accountId, rolesOf w'.db accountId = rolesOf w.db accountId :=
    rolesOf_congr same.2
  simp only [FirstOwner, OneOwner, same.1, roles]

/-- What a committed `add` leaves behind. -/
structure AccountAdded (account : Account) (db db' : Db) : Prop where
  fresh : ∀ row ∈ db.accounts, row.accountId ≠ account.accountId
  member : ∀ row, row ∈ db'.accounts ↔ row ∈ db.accounts ∨ row = account.toAccountRow
  held : rolesOf db' account.accountId = dictFromKeys account.roles
  others : ∀ other, other ≠ account.accountId → rolesOf db' other = rolesOf db other

theorem exec_added {account : Account} {u : Unit}
    (done : exec env (.accounts (.add account)) x w = some (.ok u, w')) :
    AccountAdded account w.db w'.db := by
  rcases onDb_cases done with ⟨v, -, committed⟩ | ⟨⟨_, impossible⟩, -⟩
  · obtain ⟨-, accounts, inserted, written⟩ := AccountOp.add_ok committed
    have after : w'.db.accounts = accounts := congrArg Db.accounts written.frame
    constructor
    · exact Table.find?_eq_none.mp (Table.find?_of_insert? inserted)
    · intro row
      rw [after]
      exact Table.mem_insert? inserted
    · exact written.held
    · intro other distinct
      exact (written.others other distinct).trans (rolesOf_congr rfl other)
  · cases impossible

theorem AccountAdded.firstOwner_iff {account : Account} (added : AccountAdded account w.db w'.db)
    (before : FirstOwner w) (owner : account.roles = [OWNER] ∨
      (account.roles = [defaultRole] ∧ w.db.accounts.rows ≠ [])) :
    FirstOwner w' ↔ (account.roles = [OWNER] → w.db.accounts.rows = []) := by
  have distinct : ([OWNER] : List String) ≠ [defaultRole] := by decide
  have here : account.toAccountRow ∈ w'.db.accounts := (added.member _).mpr (Or.inr rfl)
  have some : w'.db.accounts.rows ≠ [] := List.ne_nil_of_mem here
  have kept : ∀ row ∈ w.db.accounts, rolesOf w'.db row.accountId = rolesOf w.db row.accountId :=
    fun row stored => added.others _ (added.fresh row stored)
  rcases owner with owns | ⟨follows, nonempty⟩
  · have held : rolesOf w'.db account.accountId = [OWNER] := by
      rw [added.held, owns]
      decide
    constructor
    · intro holds _
      by_contra nonempty
      obtain ⟨first, stored, owned, -⟩ := before nonempty
      rw [← kept first stored] at owned
      exact added.fresh first stored
        ((holds some).unique ((added.member first).mpr (Or.inl stored)) here owned held)
    · intro alone _
      refine ⟨account.toAccountRow, here, held, ?_⟩
      intro row stored other
      rcases (added.member row).mp stored with old | rfl
      · rw [Table.mem_def, alone owns] at old
        cases old
      · exact absurd rfl other
  · have held : rolesOf w'.db account.accountId = [defaultRole] := by
      rw [added.held, follows]
      decide
    constructor
    · intro _ owns
      rw [follows] at owns
      exact absurd owns.symm distinct
    · intro _ _
      obtain ⟨first, stored, owned, rest⟩ := before nonempty
      refine ⟨first, (added.member first).mpr (Or.inl stored), ?_, ?_⟩
      · rw [kept first stored]
        exact owned
      · intro row stored' other
        rcases (added.member row).mp stored' with old | rfl
        · rw [kept row old]
          exact rest row old other
        · exact held

end Steps

/-! ## Runs of redemptions -/

section Runs

variable {w : World} {calls : List Call} {d : Config (machine env) Error Answer}
  {tr early late : List (Event (machine env))} {e : Event (machine env)}

/-- Every request redeems an invitation. -/
def RedeemsInvites (calls : List Call) : Prop :=
  ∀ c ∈ calls, ∃ token password caller, c = .account (.redeemInvite token password caller)

theorem redeems_step (redeems : RedeemsInvites calls) (run : Run (start env w calls) tr d)
    (member : e ∈ tr) :
    (Commits e ∧ ∃ account, e.op = .accounts (.add account) ∧
      AccountAdded account e.before.db e.after.db) ∨
      (¬ Commits e ∧ SameAccounts e.before e.after) := by
  obtain ⟨c, found, mine⟩ := writes_of_run run member
  obtain ⟨token, password, caller, rfl⟩ := redeems c (List.mem_of_getElem? found)
  obtain ⟨x, done⟩ := run.exec_eq e member
  obtain ⟨i, o, a, s, s'⟩ := e
  by_cases adds : ∃ account, o = .accounts (.add account)
  · obtain ⟨account, rfl⟩ := adds
    cases a with
    | ok u =>
        have done : exec env (.accounts (.add account)) x s = some (.ok u, s') := done
        exact Or.inl ⟨.added, account, rfl, exec_added done⟩
    | error raised =>
        have done : exec env (.accounts (.add account)) x s = some (.error raised, s') := done
        right
        constructor
        · intro commits
          cases commits
        · have mine : Op.idle (.accounts (.add account)) ∨
              AccountCall.writes (.redeemInvite token password caller) (.accounts (.add account)) :=
            mine
          apply exec_sameAccounts done mine
          intro _ _
          rcases onDb_cases done with ⟨_, impossible, -⟩ | ⟨-, same⟩
          · cases impossible
          · exact same
  · right
    constructor
    · intro commits
      cases commits
      exact adds ⟨_, rfl⟩
    · exact exec_sameAccounts done mine fun account same => absurd ⟨account, same⟩ adds

theorem nonempty_kept (redeems : RedeemsInvites calls) (run : Run (start env w calls) tr d)
    (member : e ∈ tr) (some : e.before.db.accounts.rows ≠ []) : e.after.db.accounts.rows ≠ [] := by
  rcases redeems_step redeems run member with ⟨-, account, -, added⟩ | ⟨-, same⟩
  · exact List.ne_nil_of_mem ((added.member _).mpr (Or.inr rfl))
  · rw [same.1]
    exact some

theorem nonempty_later (redeems : RedeemsInvites calls)
    (run : Run (start env w calls) (early ++ e :: late) d) {c : Event (machine env)}
    (earlier : c ∈ early) (some : c.after.db.accounts.rows ≠ []) :
    e.before.db.accounts.rows ≠ [] := by
  have whole := run
  obtain ⟨first, between, rfl⟩ := List.append_of_mem earlier
  have split : (first ++ c :: between) ++ e :: late = (first ++ [c]) ++ (between ++ e :: late) := by
    simp
  rw [split] at run
  have later := run.related_before
    (fun s t : World => s.db.accounts.rows ≠ [] → t.db.accounts.rows ≠ []) (fun _ => id)
    (fun one two some => two (one some))
    (fun e' member => nonempty_kept redeems whole (by rw [split]; exact member)) e (by simp)
  rw [finalState_snoc] at later
  exact later some

theorem nonempty_iff (redeems : RedeemsInvites calls) (empty : w.db.accounts.rows = [])
    (run : Run (start env w calls) (early ++ e :: late) d) :
    e.before.db.accounts.rows ≠ [] ↔ ∃ c ∈ early, Commits c := by
  constructor
  · intro some
    obtain ⟨m, first, here⟩ := run.before_of_split
    have origin := first.last_of (P := fun s : World => s.db.accounts.rows ≠ []) (Q := Commits)
      (T := fun _ => True)
      (by
        intro c member after
        have inside : c ∈ early ++ e :: late := by simp [member]
        rcases redeems_step redeems run inside with ⟨commits, -⟩ | ⟨-, same⟩
        · exact Or.inr commits
        · left
          rw [same.1] at after
          exact ⟨after, trivial⟩)
      (by rwa [here])
    rcases origin with ⟨present, -⟩ | ⟨one, c, two, rfl, commits, -⟩
    · exact absurd empty present
    · exact ⟨c, by simp, commits⟩
  · rintro ⟨c, earlier, commits⟩
    apply nonempty_later redeems run earlier
    rcases redeems_step redeems run (e := c) (by simp [earlier]) with ⟨-, account, -, added⟩ | ⟨none, -⟩
    · exact List.ne_nil_of_mem ((added.member _).mpr (Or.inr rfl))
    · exact absurd commits none

theorem CountsAccounts.length {n : Nat} (counts : CountsAccounts n e) {x : Input}
    (done : exec env e.op x e.before = some (e.ans, e.after)) :
    n = e.before.db.accounts.rows.length := by
  obtain ⟨⟩ := counts
  rename_i i s s'
  have done : exec env (.accounts .count) x s = some (.ok n, s') := done
  rcases onDb_cases done with ⟨v, same, committed⟩ | ⟨⟨_, impossible⟩, -⟩
  · cases same
    exact (AccountOp.count_ok committed).1
  · cases impossible

theorem added_of_run (run : Run (start env w calls) (early ++ e :: late) d) {account : Account}
    (adds : e.op = .accounts (.add account)) :
    ∃ n, (∃ c ∈ early, c.thread = e.thread ∧ CountsAccounts n c) ∧
      (∀ m, ∀ c ∈ early, c.thread = e.thread → CountsAccounts m c → m = n) ∧
      account.roles = if n = 0 then [OWNER] else [defaultRole] := by
  obtain ⟨c, found, wrote⟩ := writes_of_run run (e := e) (by simp)
  have here : (start env w calls).pool[e.thread]? = some (c.prog env) := by simp [start, found]
  obtain ⟨next, path⟩ := run.at_event here
  obtain ⟨i, o, a, s, s'⟩ := e
  cases adds
  rcases wrote with idle | wrote
  · exact absurd idle id
  obtain ⟨token, password, caller, rfl⟩ := Call.writes_adds wrote
  obtain ⟨next', inside⟩ := returning_calling path
  obtain ⟨n, ⟨c, member, counts⟩, only, roles⟩ := AccountService.redeemInvite_calling inside
  refine ⟨n, ⟨c, (mem_ofThread.mp member).1, (mem_ofThread.mp member).2, counts⟩, ?_, roles⟩
  intro m c' earlier mine counts'
  exact only m c' (mem_ofThread.mpr ⟨earlier, mine⟩) counts'

/-- A redemption that counted no accounts commits its own. -/
def CommitsAsFirst (early : List (Event (machine env))) (e : Event (machine env)) : Prop :=
  Commits e ∧ ∃ c ∈ early, c.thread = e.thread ∧ CountsAccounts 0 c

/-- Starting with no accounts, in every state of a run of redemptions there is one
owner once there is an account, exactly when no redemption that counted none commits
its account after another's. -/
theorem first_owner_iff (redeems : RedeemsInvites calls) (run : Run (start env w calls) tr d)
    (empty : w.db.accounts.rows = []) :
    (∀ s ∈ states w tr, FirstOwner s) ↔
      ∀ early e late, tr = early ++ e :: late → CommitsAsFirst early e →
        ∀ c ∈ early, ¬ Commits c := by
  have each : ∀ e ∈ tr, FirstOwner e.before → (FirstOwner e.after ↔
      ∀ early late, tr = early ++ e :: late → CommitsAsFirst early e →
        e.before.db.accounts.rows = []) := by
    intro e member before
    rcases redeems_step redeems run member with ⟨commits, account, adds, added⟩ | ⟨none, same⟩
    · obtain ⟨early, late, split⟩ := List.append_of_mem member
      have here := run
      rw [split] at here
      obtain ⟨n, ⟨c, earlier, mine, counts⟩, -, roles⟩ := added_of_run here adds
      have owner : account.roles = [OWNER] ∨
          (account.roles = [defaultRole] ∧ e.before.db.accounts.rows ≠ []) := by
        by_cases none : n = 0
        · exact Or.inl (by rw [roles, if_pos none])
        · right
          refine ⟨by rw [roles, if_neg none], ?_⟩
          obtain ⟨x, done⟩ := here.exec_eq c (by simp [earlier])
          apply nonempty_later redeems here earlier
          apply nonempty_kept redeems here (by simp [earlier])
          intro nothing
          rw [counts.length done, nothing] at none
          exact none rfl
      rw [added.firstOwner_iff before owner]
      constructor
      · rintro free early' late' split' ⟨-, c', earlier', mine', counts'⟩
        rw [split'] at run
        obtain ⟨m, -, only, roles'⟩ := added_of_run run adds
        apply free
        rw [roles', ← only 0 c' earlier' mine' counts', if_pos rfl]
      · intro asFirst owns
        have none : n = 0 := by
          by_contra some
          rw [roles, if_neg some] at owns
          exact absurd owns (by decide)
        subst none
        exact asFirst early late split ⟨commits, c, earlier, mine, counts⟩
    · rw [same.firstOwner_iff]
      constructor
      · intro _ early late _ asFirst
        exact absurd asFirst.1 none
      · exact fun _ => before
  have start : FirstOwner (start env w calls).state := fun some => absurd empty some
  have always := run.always_iff FirstOwner (fun e => ∀ early late, tr = early ++ e :: late →
    CommitsAsFirst early e → e.before.db.accounts.rows = []) each start
  refine always.trans ⟨?_, ?_⟩
  · intro whole early e late split asFirst c earlier commits
    have free := whole e (by simp [split]) early late split asFirst
    rw [split] at run
    exact (nonempty_iff redeems empty run).mpr ⟨c, earlier, commits⟩ free
  · intro ordered e _ early late split asFirst
    by_contra some
    have none := ordered early e late split asFirst
    rw [split] at run
    obtain ⟨c, earlier, commits⟩ := (nonempty_iff redeems empty run).mp some
    exact none c earlier commits

end Runs

/-! ## Two redemptions on a fresh deployment -/

namespace Scenario

def invitation (grantId token email : String) : Grant where
  grantId := grantId
  purpose := .invite
  tokenHash := deployment.hashToken token
  createdAt := 0
  expiresAt := seconds 604800
  email := some email
  accountId := none
  redeemedAt := none
  revoked := false
  named := rfl

/-- No account and two invitations. -/
def unclaimed : World :=
  worldOf { Db.empty with
    roles := ⟨builtinRoles.map builtin, builtin_distinct⟩
    grants := ⟨[invitation "g0" "t0" "alice@mail.org", invitation "g1" "t1" "bob@mail.org"],
      by decide⟩ }

def twoRedemptions : List Call :=
  [.account (.redeemInvite "t0" "correct horse battery" "here"),
    .account (.redeemInvite "t1" "slide trombone solo" "there")]

theorem twoRedemptions_redeem : RedeemsInvites twoRedemptions := by
  intro c member
  simp only [twoRedemptions, List.mem_cons, List.not_mem_nil, or_false] at member
  rcases member with rfl | rfl
  · exact ⟨_, _, _, rfl⟩
  · exact ⟨_, _, _, rfl⟩

def queuedRun : Config (machine deployment) Error Answer × List (Event (machine deployment)) :=
  (start deployment unclaimed twoRedemptions).play
    (List.replicate 10 (0, given 1 "d0") ++ List.replicate 10 (1, given 2 "d1"))

/-- The second falls between the count of the first and its account. -/
def racedRun : Config (machine deployment) Error Answer × List (Event (machine deployment)) :=
  (start deployment unclaimed twoRedemptions).play
    (List.replicate 8 (0, given 1 "d0") ++ List.replicate 10 (1, given 2 "d1") ++
      List.replicate 2 (0, given 3 "d2"))

end Scenario

open Scenario in
theorem first_owner_iff_queued :
    (∀ s ∈ states unclaimed queuedRun.2, FirstOwner s) ↔
      ∀ early e late, queuedRun.2 = early ++ e :: late → CommitsAsFirst early e →
        ∀ c ∈ early, ¬ Commits c :=
  first_owner_iff twoRedemptions_redeem (Config.play_run _ _) rfl

open Scenario in
/-- Two redemptions that overlap both make an owner. -/
theorem first_owner_raced :
    Run (start deployment unclaimed twoRedemptions) racedRun.2 racedRun.1 ∧
      unclaimed.db.accounts.rows = [] ∧ RedeemsInvites twoRedemptions ∧
      (∃ answer, racedRun.1.pool[0]? = some (.done (.ok answer))) ∧
      (∃ answer, racedRun.1.pool[1]? = some (.done (.ok answer))) ∧
      ¬ FirstOwner racedRun.1.state := by
  refine ⟨Config.play_run _ _, rfl, twoRedemptions_redeem, returned_some (by decide +kernel),
    returned_some (by decide +kernel), ?_⟩
  have held : ∀ row ∈ racedRun.1.state.db.accounts,
      rolesOf racedRun.1.state.db row.accountId = [OWNER] := by decide +kernel
  have two : (∃ row ∈ racedRun.1.state.db.accounts, row.accountId = "acct_d1") ∧
      ∃ row ∈ racedRun.1.state.db.accounts, row.accountId = "acct_d0" := by decide +kernel
  obtain ⟨⟨row, stored, id⟩, row', stored', id'⟩ := two
  intro holds
  have one := (holds (List.ne_nil_of_mem stored)).unique stored stored' (held row stored)
    (held row' stored')
  rw [id, id'] at one
  exact absurd one (by decide)

end Keyring
