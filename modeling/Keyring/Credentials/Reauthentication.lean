import Keyring.Admin.Footprint
import Keyring.Credentials.Callbacks

/-!
# The password before a credential changes

A change that a person or a service asks for is admitted by the owner's setting
or by the owner's password.  Removing a profile that was read without
connections is not admitted by anything.
-/

set_option autoImplicit false

namespace Keyring

open Interleave Relational

variable {env : Env}

/-! ## Changes of the vault -/

/-- A connection or a credential is stored, replaced or removed. -/
def Alters (e : Event (machine env)) : Prop :=
  (∃ triple, Stores triple e) ∨ e.after.db.connections ≠ e.before.db.connections ∨
    e.after.db.secrets ≠ e.before.db.secrets

/-- A step that leaves the connections and the credentials alone. -/
def Op.sparesVault : Op → Prop
  | .accounts (.save _) => True
  | o => o.idle

theorem Op.quiet.sparesVault (o : Op) (quiet : o.quiet) : o.sparesVault := by
  have idle := quiet.idle
  cases o with
  | accounts o => cases o <;> trivial
  | _ => exact idle

theorem Op.sparesVault.storesNothing {o : Op} (spares : o.sparesVault) : ¬ o.stores := by
  cases o with
  | profiles o => cases o <;> first | exact id | exact spares.elim
  | secrets o => cases o <;> first | exact id | exact spares.elim
  | _ => exact id

/-- A step that stores nothing alters the vault when a table of it changes. -/
theorem alters_iff_of_not_stores {e : Event (machine env)} (nothing : ¬ e.op.stores) :
    Alters e ↔ ¬ (e.after.db.connections = e.before.db.connections ∧
      e.after.db.secrets = e.before.db.secrets) := by
  rw [Alters, not_and_or]
  constructor
  · rintro (⟨triple, stored⟩ | changed)
    · exact absurd stored.stores nothing
    · exact changed
  · exact Or.inr

theorem Op.sparesVault.not_alters {e : Event (machine env)} (spares : e.op.sparesVault)
    (real : ∃ x, exec env e.op x e.before = some (e.ans, e.after)) : ¬ Alters e := by
  rw [alters_iff_of_not_stores spares.storesNothing, not_not]
  obtain ⟨x, done⟩ := real
  by_cases idle : e.op.idle
  · rw [exec_idle done idle]
    exact ⟨rfl, rfl⟩
  · obtain ⟨i, o, a, s, s'⟩ := e
    cases o with
    | accounts o =>
        cases o with
        | save copy =>
            have touched : s'.db = { s.db with
              accounts := s'.db.accounts, accountRoles := s'.db.accountRoles } := exec_touches done
            have connections := congrArg Db.connections touched
            have secrets := congrArg Db.secrets touched
            exact ⟨connections, secrets⟩
        | _ => exact absurd spares idle
    | _ => exact absurd spares idle

/-! ## What admits a change -/

/-- The owner's setting was read. -/
inductive ReadsSetting (accountId : String) (required : Option Bool) : Event (machine env) → Prop where
  | read {i : Nat} {preferences : Preferences} {s s' : World}
      (same : preferences.requireReauthForCredentialChanges = required) :
      ReadsSetting accountId required ⟨i, .preferences accountId, .ok preferences, s, s'⟩

/-- Among these steps the setting was read as off, or the password that was sent
was confirmed. -/
def Permitted (accountId : String) (requester : Requester) (es : List (Event (machine env))) : Prop :=
  (∃ e ∈ es, ReadsSetting accountId (some false) e) ∨
    ∃ password before own after, requester.password = some password ∧ es = before ++ own ++ after ∧
      Path (AccountService.confirmPassword env accountId password) own (.done (.ok ()))

theorem Permitted.within {accountId : String} {requester : Requester}
    {es : List (Event (machine env))} (permitted : Permitted accountId requester es)
    (early late : List (Event (machine env))) :
    Permitted accountId requester (early ++ es ++ late) := by
  rcases permitted with ⟨e, member, off⟩ | ⟨password, before, own, after, sent, rfl, confirmed⟩
  · exact Or.inl ⟨e, by simp [member], off⟩
  · exact Or.inr ⟨password, early ++ before, own, after ++ late, sent, by simp, confirmed⟩

/-- A person or a service asks. -/
def Requester.guarded (requester : Requester) : Prop :=
  requester.origin = .person ∨ requester.origin = .service

theorem Requester.guarded.origin_ne {requester : Requester} (guarded : requester.guarded) :
    requester.origin ≠ .administrator := by
  intro administrator
  rcases guarded with same | same <;> rw [administrator] at same <;> cases same

/-- A step that asks for the owner's settings. -/
def Op.asks : Op → Prop
  | .preferences _ => True
  | _ => False

inductive FoundBare : List (Event (machine env)) → Prop where
  | read {i : Nat} {accountId name : String} {profile : Profile} {s s' : World}
      {rest : List (Event (machine env))} (bare : profile.connections = []) :
      FoundBare (⟨i, .profiles (.get accountId name), .ok (some profile), s, s'⟩ :: rest)

/-- A step that removes a profile, or its credentials, finds nothing stored there. -/
def FindsNothing (e : Event (machine env)) : Prop :=
  match e.op with
  | .profiles (.delete accountId name) =>
      (e.before.db.profiles.find? (accountId, name)).isSome →
        ∀ row ∈ e.before.db.connections, ¬ (row.accountId = accountId ∧ row.profileName = name)
  | .secrets (.deleteProfile accountId name) =>
      ∀ row ∈ e.before.db.secrets, ¬ (row.accountId = accountId ∧ row.profileName = name)
  | _ => True

theorem finds_nothing_of_quiet {e : Event (machine env)} (quiet : e.op.quiet) : FindsNothing e := by
  have idle := quiet.idle
  obtain ⟨i, o, a, s, s'⟩ := e
  cases o with
  | profiles o => cases o <;> trivial
  | secrets o => cases o <;> trivial
  | _ => trivial

section Programs

variable {es : List (Event (machine env))} {α : Type}

namespace CredentialChanges

variable {accountId : String} {requester : Requester}

/-- Who was admitted had read the setting as off, or sent the right password. -/
theorem admitted_returned {preferences : Preferences}
    (path : Path (admitted env accountId requester) es (.done (.ok preferences)))
    (guarded : requester.guarded) : Permitted accountId requester es := by
  unfold admitted preferencesFor at path
  rw [bind_assoc] at path
  obtain ⟨i, answered, s, s', rest, rfl, path₁⟩ := ask_bind_returned path
  cases answered with
  | error message => exact (throw_returned path₁).elim
  | ok preferences =>
      dsimp only at path₁
      rw [Prog.pure_eq, Prog.bind_ok, if_neg guarded.origin_ne] at path₁
      cases sent : requester.password with
      | some password =>
          simp only [sent] at path₁
          obtain ⟨u, own, ending, rfl, confirmed, ended⟩ := path₁.bind_returned
          obtain ⟨rfl, -⟩ := pure_returned ended
          exact Or.inr ⟨password, [⟨i, .preferences accountId, .ok preferences, s, s'⟩], own, [],
            sent, by simp, confirmed⟩
      | none =>
          simp only [sent] at path₁
          cases required : preferences.requireReauthForCredentialChanges with
          | none =>
              simp only [required] at path₁
              exact (throw_returned path₁).elim
          | some wanted =>
              simp only [required] at path₁
              cases wanted with
              | true => exact (throw_returned path₁).elim
              | false => exact Or.inl ⟨_, List.mem_cons_self .., .read required⟩

/-- Who was not admitted has changed nothing in the vault. -/
theorem alters_after_admitted {f : Preferences → Service env α} {q : Service env α}
    (real : ∀ e ∈ es, ∃ x, exec env e.op x e.before = some (e.ans, e.after))
    (path : Path (admitted env accountId requester >>= f) es q) (guarded : requester.guarded)
    {e : Event (machine env)} (member : e ∈ es) (alters : Alters e) :
    Permitted accountId requester es := by
  rcases path.bind_inv with ⟨p', inside, -⟩ | ⟨preferences, es₁, es₂, rfl, first, -⟩
  · have admitting : (admitted env accountId requester).Uses Op.sparesVault :=
      admitted_writes Op.quiet.sparesVault (fun _ _ => trivial) accountId
    exact absurd alters (((inside.uses admitting).1 e member).not_alters (real e member))
  · simpa using (admitted_returned first guarded).within [] es₂

/-- The end of a removal; it is announced when it was admitted. -/
def removeThen (env : Env) (accountId name : String) (preferences : Option Preferences) :
    Service env Bool := do
  let removed ← CredentialService.deleteProfile env accountId name
  let _ ← (match removed, preferences with
    | true, some preferences => announce env accountId preferences
    | _, _ => pure ())
  pure removed

theorem removeProfile_inv {name : String} {q : Service env Bool}
    (path : Path (removeProfile env accountId name requester) es q) :
    (∀ e ∈ es, e.op.quiet ∧ ¬ e.op.asks) ∨
      ∃ i normalized profile s s' rest,
        es = ⟨i, .profiles (.get accountId normalized), .ok (some profile), s, s'⟩ :: rest ∧
          ((profile.connections = [] ∧ Path (removeThen env accountId name none) rest q) ∨
            (profile.connections ≠ [] ∧ Path (admitted env accountId requester >>= fun preferences =>
              removeThen env accountId name (some preferences)) rest q)) := by
  unfold removeProfile CredentialService.getProfile at path
  cases checked : normalizeProfileName env.text name with
  | error e =>
      left
      rw [checked] at path
      cases e with
      | _ =>
          obtain ⟨rfl, -⟩ := path.done_inv
          simp
  | ok normalized =>
      rw [checked] at path
      rcases path.call_inv with ⟨rfl, -⟩ | ⟨i, a, s, s', rest, rfl, tail⟩
      · left
        simp
      · cases a with
        | error e =>
            left
            cases e with
            | _ =>
                obtain ⟨rfl, -⟩ := tail.done_inv
                simp [Op.quiet, Op.idle, Op.asks]
        | ok found =>
            cases found with
            | none =>
                left
                obtain ⟨rfl, -⟩ := tail.done_inv
                simp [Op.quiet, Op.idle, Op.asks]
            | some profile =>
                right
                refine ⟨i, normalized, profile, s, s', rest, rfl, ?_⟩
                change Path ((if profile.connections.isEmpty then pure none
                  else some <$> admitted env accountId requester) >>=
                    removeThen env accountId name) rest q at tail
                by_cases bare : profile.connections = []
                · left
                  rw [if_pos (List.isEmpty_iff.mpr bare)] at tail
                  exact ⟨bare, tail⟩
                · right
                  rw [if_neg (by simpa using bare), map_eq_pure_bind, bind_assoc] at tail
                  exact ⟨bare, tail⟩

/-- Nothing but the removal itself is done when it was not admitted. -/
theorem removeThen_bare_uses (name : String) :
    (removeThen env accountId name none).Uses (Op.discards accountId) := by
  refine Prog.Uses.bind ?_ fun removed => ?_
  · exact CredentialService.deleteProfile_uses (fun _ => rfl) (fun _ => rfl) name
  · cases removed <;> trivial

end CredentialChanges

/-! ### What a removal finds -/

theorem deleteProfile_connections_eq {db : Db} {accountId name : String} :
    (db.deleteProfiles fun row => row.accountId = accountId && row.name = name).connections =
        db.connections ↔
      ((db.profiles.find? (accountId, name)).isSome →
        ∀ row ∈ db.connections, ¬ (row.accountId = accountId ∧ row.profileName = name)) := by
  have gone : ∀ row : ConnectionRow, ((db.profiles.rows.filter fun profile =>
      profile.accountId = accountId && profile.name = name).map ProfileRow.key).contains
        (row.accountId, row.profileName) = true ↔
      (db.profiles.find? (accountId, name)).isSome ∧
        row.accountId = accountId ∧ row.profileName = name := by
    intro row
    rw [List.contains_iff_mem, List.mem_map, Table.isSome_find?, List.mem_map]
    constructor
    · rintro ⟨profile, member, keyed⟩
      obtain ⟨stored, named⟩ := List.mem_filter.mp member
      simp only [Bool.and_eq_true, decide_eq_true_eq] at named
      simp only [ProfileRow.key, named, Prod.mk.injEq] at keyed
      exact ⟨⟨profile, stored, by simp [ProfileRow.key, named]⟩, keyed.1.symm, keyed.2.symm⟩
    · rintro ⟨⟨profile, stored, keyed⟩, rfl, rfl⟩
      simp only [ProfileRow.key, Prod.mk.injEq] at keyed
      exact ⟨profile, List.mem_filter.mpr ⟨stored, by simp [keyed]⟩, by simp [ProfileRow.key, keyed]⟩
  rw [Db.deleteProfiles, Table.deleteWhere_eq_self]
  constructor
  · intro kept present row stored named
    have missed := kept row stored
    rw [(gone row).mpr ⟨present, named⟩] at missed
    cases missed
  · intro bare row stored
    rw [Bool.eq_false_iff, ne_eq, gone]
    rintro ⟨present, named⟩
    exact bare present row stored named

/-- A step of a removal changes the vault exactly when it finds something there. -/
theorem discards_alters_iff {accountId : String} {e : Event (machine env)}
    (discards : e.op.discards accountId)
    (real : ∃ x, exec env e.op x e.before = some (e.ans, e.after)) :
    Alters e ↔ ¬ FindsNothing e := by
  obtain ⟨x, done⟩ := real
  obtain ⟨i, o, a, s, s'⟩ := e
  cases o with
  | profiles o =>
      cases o with
      | delete owner name =>
          have done : exec env (.profiles (.delete owner name)) x s = some (a, s') := done
          cases done
          rw [alters_iff_of_not_stores id, not_iff_not]
          exact (and_iff_left rfl).trans deleteProfile_connections_eq
      | _ => exact discards.elim
  | secrets o =>
      cases o with
      | deleteProfile owner name =>
          have done : exec env (.secrets (.deleteProfile owner name)) x s = some (a, s') := done
          cases done
          rw [alters_iff_of_not_stores id, not_iff_not]
          refine (and_iff_right rfl).trans (Table.deleteWhere_eq_self.trans ?_)
          simp [FindsNothing]
      | _ => exact discards.elim
  | _ => exact discards.elim

/-! ### The setting is read once -/

theorem Op.calm.asks_not (o : Op) (calm : o.calm) : ¬ o.asks := by
  cases o with
  | preferences accountId => exact absurd calm id
  | _ => exact id

theorem removeThen_asks_not (accountId name : String) (preferences : Option Preferences) :
    (CredentialChanges.removeThen env accountId name preferences).Uses
      fun (o : Op) => ¬ o.asks := by
  refine Prog.Uses.bind ?_ fun removed => ?_
  · exact CredentialService.deleteProfile_uses (fun _ => id) (fun _ => id) name
  · refine Prog.Uses.bind ?_ fun _ => trivial
    split
    · exact CredentialChanges.announce_uses Op.calm.asks_not _ _
    · trivial

namespace CredentialChanges

variable {accountId : String} {requester : Requester}

theorem admitted_unknown {q : Service env Preferences}
    (path : Path (admitted env accountId requester) es q) (guarded : requester.guarded)
    (unsent : requester.password = none) {e : Event (machine env)} (member : e ∈ es)
    (unknown : ReadsSetting accountId none e) : ∃ refusal, q = .done (.error refusal) := by
  unfold admitted preferencesFor at path
  rw [bind_assoc] at path
  rcases ask_bind_inv path with ⟨rfl, -⟩ | ⟨i, answered, s, s', rest, rfl, path₁⟩
  · cases member
  · cases answered with
    | error message =>
        obtain ⟨rfl, rfl⟩ := path₁.done_inv
        exact ⟨_, rfl⟩
    | ok preferences =>
        dsimp only at path₁
        rw [Prog.pure_eq, Prog.bind_ok, if_neg guarded.origin_ne, unsent] at path₁
        cases required : preferences.requireReauthForCredentialChanges with
        | none =>
            simp only [required] at path₁
            obtain ⟨-, rfl⟩ := path₁.done_inv
            exact ⟨_, rfl⟩
        | some wanted =>
            have ended : rest = [] := by
              simp only [required] at path₁
              cases wanted with
              | true => exact path₁.done_inv.1
              | false => exact path₁.done_inv.1
            subst ended
            rw [List.mem_singleton] at member
            subst member
            cases unknown with
            | read same =>
                rw [required] at same
                cases same

theorem unknown_unchanged {f : Preferences → Service env α} {q : Service env α}
    (real : ∀ e ∈ es, ∃ x, exec env e.op x e.before = some (e.ans, e.after))
    (path : Path (admitted env accountId requester >>= f) es q) (guarded : requester.guarded)
    (unsent : requester.password = none)
    (once : ∀ preferences, (f preferences).Uses fun (o : Op) => ¬ o.asks)
    {e : Event (machine env)} (member : e ∈ es) (unknown : ReadsSetting accountId none e) :
    ∀ e' ∈ es, e'.after.db = e'.before.db := by
  rcases path.bind_inv with ⟨p', inside, -⟩ | ⟨preferences, es₁, es₂, rfl, first, rest⟩
  · have admitting : (admitted env accountId requester).Uses Op.idle :=
      admitted_writes (fun _ quiet => quiet.idle) (fun sent _ => absurd unsent sent) accountId
    intro e' inside'
    obtain ⟨x, done⟩ := real e' inside'
    exact exec_idle done ((inside.uses admitting).1 e' inside')
  · rcases List.mem_append.mp member with early | late
    · obtain ⟨refusal, impossible⟩ := admitted_unknown first guarded unsent early unknown
      cases impossible
    · refine absurd ?_ ((rest.uses (once preferences)).1 e late)
      cases unknown
      trivial

/-! ### Removing a profile -/

section RemoveProfile

variable {name : String} {q : Service env Bool}
  (real : ∀ e ∈ es, ∃ x, exec env e.op x e.before = some (e.ans, e.after))
  (path : Path (removeProfile env accountId name requester) es q)
include real path

theorem removeProfile_unknown (guarded : requester.guarded)
    (unsent : requester.password = none) {e : Event (machine env)} (member : e ∈ es)
    (unknown : ReadsSetting accountId none e) : ∀ e' ∈ es, e'.after.db = e'.before.db := by
  have asks : e.op.asks := by
    cases unknown
    trivial
  rcases removeProfile_inv path with quiet | ⟨i, normalized, profile, s, s', rest, rfl, tail⟩
  · exact absurd asks (quiet e member).2
  · rcases List.mem_cons.mp member with rfl | later
    · exact asks.elim
    · simp only [List.forall_mem_cons] at real ⊢
      obtain ⟨⟨x, done⟩, real⟩ := real
      refine ⟨exec_idle done trivial, ?_⟩
      rcases tail with ⟨bare, removing⟩ | ⟨-, checked⟩
      · exact absurd asks ((removing.uses (removeThen_asks_not _ _ _)).1 e later)
      · exact unknown_unchanged real checked guarded unsent
          (fun _ => removeThen_asks_not _ _ _) later unknown

theorem removeProfile_permitted (guarded : requester.guarded)
    (nothing : FoundBare es → ∀ e ∈ es, FindsNothing e) {e : Event (machine env)} (member : e ∈ es)
    (alters : Alters e) : Permitted accountId requester es := by
  rcases removeProfile_inv path with quiet | ⟨i, normalized, profile, s, s', rest, rfl, tail⟩
  · exact absurd alters ((Op.quiet.sparesVault _ (quiet e member).1).not_alters (real e member))
  · rcases List.mem_cons.mp member with rfl | later
    · have spares : Op.sparesVault (.profiles (.get accountId normalized)) := trivial
      exact absurd alters (Op.sparesVault.not_alters spares (real _ member))
    · simp only [List.forall_mem_cons] at real
      rcases tail with ⟨bare, removing⟩ | ⟨-, checked⟩
      · have discards := (removing.uses (removeThen_bare_uses name)).1 e later
        exact absurd (nothing (.read bare) e member)
          ((discards_alters_iff discards (real.2 e later)).mp alters)
      · have permitted := alters_after_admitted real.2 checked guarded later alters
        simpa using permitted.within [⟨i, .profiles (.get accountId normalized), .ok (some profile),
          s, s'⟩] []

theorem removeProfile_finds (permitted : (∃ e ∈ es, Alters e) → Permitted accountId requester es)
    (bare : FoundBare es) : ∀ e ∈ es, FindsNothing e := by
  intro e member
  rcases removeProfile_inv path with quiet | ⟨i, normalized, profile, s, s', rest, rfl, tail⟩
  · exact finds_nothing_of_quiet (quiet e member).1
  · cases bare with
    | read bare =>
        rcases tail with ⟨-, removing⟩ | ⟨connected, -⟩
        · have each := (removing.uses (removeThen_bare_uses name)).1
          rcases List.mem_cons.mp member with rfl | later
          · trivial
          · by_contra found
            have alters := (discards_alters_iff (each e later) (real e member)).mpr found
            rcases permitted ⟨e, member, alters⟩ with ⟨asked, inside, off⟩ |
              ⟨password, before, own, after, sent, split, confirmed⟩
            · cases off with
              | read same =>
                  rcases List.mem_cons.mp inside with impossible | late
                  · cases impossible
                  · exact each _ late
            · obtain ⟨j, a, t, t', own', rfl, -⟩ := Path.call_done confirmed
              have inside : (⟨j, .accounts (.get accountId), a, t, t'⟩ : Event (machine env)) ∈
                  ⟨i, .profiles (.get accountId normalized), .ok (some profile), s, s'⟩ :: rest := by
                rw [split]
                simp
              rcases List.mem_cons.mp inside with impossible | late
              · cases impossible
              · exact each _ late
        · exact absurd bare connected

end RemoveProfile

end CredentialChanges

end Programs

/-! ## The requests -/

/-- The account and the requester of a change that is to be admitted. -/
def Call.guarded : Call → Option (String × Requester)
  | .change (.storeDirect accountId _ _ _ _ _ requester)
  | .change (.removeConnection accountId _ _ requester)
  | .change (.removeProfile accountId _ requester) => some (accountId, requester)
  | _ => none

theorem Call.guarded_shape (env : Env) {c : Call} {accountId : String} {requester : Requester}
    (guarded : c.guarded = some (accountId, requester)) :
    (∃ f : Preferences → Service env Answer,
      c.prog env = CredentialChanges.admitted env accountId requester >>= f ∧
        ∀ preferences, (f preferences).Uses fun (o : Op) => ¬ o.asks) ∨
      ∃ name, c = .change (.removeProfile accountId name requester) := by
  cases c with
  | change c =>
      cases c with
      | storeDirect owner profileName serviceName kind secret storesTotpSeed asking =>
          cases guarded
          left
          refine ⟨_, bind_assoc _ _ _, fun preferences => Prog.Uses.bind ?_ fun _ => trivial⟩
          refine Prog.Uses.bind (CredentialService.putDirectCredential_uses Op.calm.asks_not
            (fun _ _ _ _ => id) (fun _ _ _ _ _ => id) _ _ _ _ _ _) fun connection => ?_
          exact Prog.Uses.bind (CredentialChanges.announce_uses Op.calm.asks_not _ _) fun _ => trivial
      | removeConnection owner profileName serviceName asking =>
          cases guarded
          left
          refine ⟨_, bind_assoc _ _ _, fun preferences => Prog.Uses.bind ?_ fun _ => trivial⟩
          refine Prog.Uses.bind (CredentialService.revokeConnection_uses Op.calm.asks_not
            (fun _ _ _ => id) (fun _ _ _ _ => id) _ _ _) fun removed => ?_
          refine Prog.Uses.bind ?_ fun _ => trivial
          split
          · exact CredentialChanges.announce_uses Op.calm.asks_not _ _
          · trivial
      | removeProfile owner name asking =>
          cases guarded
          exact Or.inr ⟨name, rfl⟩
      | _ => cases guarded
  | _ => cases guarded

/-- Whatever a guarded request changed in the vault was permitted. -/
def ChangesPermitted (calls : List Call) (tr : List (Event (machine env))) : Prop :=
  ∀ i c accountId requester, calls[i]? = some c → c.guarded = some (accountId, requester) →
    requester.guarded → (∃ e ∈ ofThread i tr, Alters e) →
      Permitted accountId requester (ofThread i tr)

section Runs

variable {w : World} {calls : List Call} {d : Config (machine env) Error Answer}
  {tr : List (Event (machine env))}

/-- In every run, the guarded requests change the vault only with permission exactly
when a removal of a profile that was read without connections finds nothing to
remove; and one that read the setting as unknown, and carries no password, changes
nothing. -/
theorem reauthentication_guards (run : Run (start env w calls) tr d) :
    (ChangesPermitted calls tr ↔
      ∀ i accountId name requester,
        calls[i]? = some (.change (.removeProfile accountId name requester)) →
        requester.guarded → FoundBare (ofThread i tr) → ∀ e ∈ ofThread i tr, FindsNothing e) ∧
    ∀ i c accountId requester, calls[i]? = some c → c.guarded = some (accountId, requester) →
      requester.guarded → requester.password = none →
        (∃ e ∈ ofThread i tr, ReadsSetting accountId none e) →
          ∀ e ∈ ofThread i tr, e.after.db = e.before.db := by
  have real : ∀ i, ∀ e ∈ ofThread i tr, ∃ x, exec env e.op x e.before = some (e.ans, e.after) :=
    fun i e member => run.exec_eq e (mem_ofThread.mp member).1
  refine ⟨⟨?_, ?_⟩, ?_⟩
  · intro permitted i accountId name requester found guarded bare
    obtain ⟨q, -, path⟩ := path_of_run run i _ found
    obtain ⟨p', inside, -⟩ := returning_inv path
    exact CredentialChanges.removeProfile_finds (real i) inside
      (permitted i _ accountId requester found rfl guarded) bare
  · rintro nothing i c accountId requester found asked guarded ⟨e, member, alters⟩
    obtain ⟨q, -, path⟩ := path_of_run run i c found
    rcases Call.guarded_shape env asked with ⟨f, shape, -⟩ | ⟨name, rfl⟩
    · rw [shape] at path
      exact CredentialChanges.alters_after_admitted (real i) path guarded member alters
    · obtain ⟨p', inside, -⟩ := returning_inv path
      exact CredentialChanges.removeProfile_permitted (real i) inside guarded
        (nothing i accountId name requester found guarded) member alters
  · rintro i c accountId requester found asked guarded unsent ⟨e, member, unknown⟩
    obtain ⟨q, -, path⟩ := path_of_run run i c found
    rcases Call.guarded_shape env asked with ⟨f, shape, once⟩ | ⟨name, rfl⟩
    · rw [shape] at path
      exact CredentialChanges.unknown_unchanged (real i) path guarded unsent once member unknown
    · obtain ⟨p', inside, -⟩ := returning_inv path
      exact CredentialChanges.removeProfile_unknown (real i) inside guarded unsent member unknown

end Runs

/-! ## A credential is stored between the look and the removal -/

namespace Scenario

/-- Bob has a profile without connections. -/
def bareOffice : World :=
  worldOf { twoAccounts "owner" "member" with profiles := ⟨[homeProfile], homeProfile_alone⟩ }

/-- The owner wants the password before a credential changes. -/
def guardedInput (now : Instant) (required : Option Bool) : Input :=
  { given now "drawn" with preferences := .ok ⟨1209600, 7776000, 20, true, false, false, required⟩ }

def removeHome : Call := .change (.removeProfile "bob" "home" (Requester.person none))

def storeGithub : Call :=
  .credential (.putDirectCredential "bob" "home" "github" .apiKey [("value", .str "key")] false)

def removedRun : Config (machine deployment) Error Answer × List (Event (machine deployment)) :=
  (start deployment bareOffice [removeHome, storeGithub]).play
    ([(0, guardedInput 1 (some true))] ++ List.replicate 6 (1, guardedInput 2 (some true)) ++
      List.replicate 2 (0, guardedInput 3 (some true)))

def removeSpotify : Call := .change (.removeConnection "bob" "home" "spotify" Requester.service)

def refusedRun : Config (machine deployment) Error Answer × List (Event (machine deployment)) :=
  (start deployment connectedOffice [removeSpotify]).play [(0, guardedInput 1 none)]

instance (e : Event (machine deployment)) : Decidable (FindsNothing e) := by
  unfold FindsNothing
  split <;> infer_instance

end Scenario

open Scenario in
theorem reauthentication_guards_refused :
    Run (start deployment connectedOffice [removeSpotify]) refusedRun.2 refusedRun.1 ∧
      ∀ e ∈ ofThread 0 refusedRun.2, e.after.db = e.before.db := by
  have run : Run (start deployment connectedOffice [removeSpotify]) refusedRun.2 refusedRun.1 :=
    Config.play_run _ _
  exact ⟨run, (reauthentication_guards run).2 0 removeSpotify "bob" Requester.service rfl rfl
    (Or.inr rfl) rfl ⟨_, List.mem_cons_self .., .read rfl⟩⟩

open Scenario in
/-- Bob sent no password, and a key that was stored after his profile was read has
been removed with it. -/
theorem removal_unguarded :
    Run (start deployment bareOffice [removeHome, storeGithub]) removedRun.2 removedRun.1 ∧
      (∃ answer, removedRun.1.pool[0]? = some (.done (.ok answer))) ∧
      (∃ answer, removedRun.1.pool[1]? = some (.done (.ok answer))) ∧
      ¬ ChangesPermitted [removeHome, storeGithub] removedRun.2 := by
  have run : Run (start deployment bareOffice [removeHome, storeGithub]) removedRun.2 removedRun.1 :=
    Config.play_run _ _
  refine ⟨run, returned_some (by decide +kernel), returned_some (by decide +kernel), ?_⟩
  intro permitted
  obtain ⟨q, -, path⟩ := path_of_run run 0 removeHome rfl
  obtain ⟨p', inside, -⟩ := returning_inv path
  have finds := CredentialChanges.removeProfile_finds
    (fun e member => run.exec_eq e (mem_ofThread.mp member).1) inside
    (permitted 0 removeHome "bob" (Requester.person none) rfl rfl (Or.inl rfl)) (.read rfl)
  have found : ¬ ∀ e ∈ ofThread 0 removedRun.2, FindsNothing e := by decide +kernel
  exact found finds

end Keyring
