import Keyring.Calls
import Keyring.StoreCalls

/-!
# What the requests on accounts may write

Each request is bounded by the writes to the account tables that it can make at
all, whatever its steps answer: the steps that are plain, and the saves and
assignments that are listed.
-/

set_option autoImplicit false

namespace Keyring

open Interleave

/-- A step that writes neither the account tables nor the roles. -/
def Op.plain : Op → Prop
  | .accounts (.add _) | .accounts (.save _) | .accounts (.delete _)
  | .accounts (.setRoles _ _ _) | .roles (.add _) | .roles (.save _) | .roles (.delete _) => False
  | _ => True

/-- A step that changes no row. -/
def Op.idle : Op → Prop
  | .accounts (.get _) | .accounts (.getByEmail _) | .accounts .count | .accounts .listAll
  | .accounts (.countHolding _) => True
  | .sessions (.getByTokenHash _ _) | .sessions (.countForAccount _ _) => True
  | .grants (.getByTokenHash _) => True
  | .roles (.get _) | .roles .listAll | .roles (.resolve _) => True
  | .profiles (.get _ _) | .profiles (.listForAccount _) | .profiles (.countForAccount _)
  | .profiles .allProfiles => True
  | .secrets (.get _ _ _) => True
  | .delegations (.forExchange _ _) | .delegations (.listForProfile _ _) => True
  | .audit (.recent _ _) | .audit .count => True
  | .accounts _ | .sessions _ | .grants _ | .roles _ | .profiles _ | .secrets _ | .delegations _
  | .audit _ => False
  | _ => True

/-- A step that begins an authorization. -/
def Op.starts : Op → Prop
  | .issueState _ _ => True
  | _ => False

/-- An idle step that begins no authorization either. -/
def Op.quiet : Op → Prop
  | .issueState _ _ => False
  | o => o.idle

theorem Op.quiet.idle {o : Op} (quiet : o.quiet) : o.idle := by
  cases o with
  | issueState stateHash flow => exact quiet.elim
  | _ => exact quiet

theorem Op.quiet.still {o : Op} (quiet : o.quiet) : ¬ o.starts := by
  cases o with
  | issueState stateHash flow => exact absurd quiet id
  | _ => exact id

theorem Op.idle.plain {o : Op} (idle : o.idle) : o.plain := by
  cases o with
  | accounts o => cases o <;> first | exact idle.elim | trivial
  | roles o => cases o <;> first | exact idle.elim | trivial
  | _ => trivial

/-- A quiet step that looks at nothing that is stored for somebody: at no profile, no
secret and no grant to act offline. -/
def Op.modest : Op → Prop
  | .profiles _ | .secrets _ | .delegations _ | .post _ _ | .redeemState _ | .purgeStates _
  | .acquire _ | .release _ => False
  | o => o.quiet

theorem Op.modest.quiet {o : Op} (modest : o.modest) : o.quiet := by
  cases o with
  | profiles o => exact absurd modest id
  | secrets o => exact absurd modest id
  | delegations o => exact absurd modest id
  | post service form => trivial
  | redeemState stateHash => trivial
  | purgeStates now => trivial
  | acquire key => trivial
  | release key => trivial
  | _ => exact modest

/-- A step of the rate limiter. -/
def Op.limits : Op → Prop
  | .monotonic | .record _ _ _ _ _ => True
  | _ => False

theorem Op.limits.idle {o : Op} (limits : o.limits) : o.idle := by
  cases o with
  | monotonic => trivial
  | record _ _ _ _ _ => trivial
  | _ => exact limits.elim

theorem Op.quiet.plain {o : Op} (quiet : o.quiet) : o.plain := quiet.idle.plain

theorem Op.limits.modest {o : Op} (limits : o.limits) : o.modest := by
  cases o with
  | monotonic => trivial
  | record scope caller now limit width => trivial
  | _ => exact limits.elim

theorem Op.limits.quiet {o : Op} (limits : o.limits) : o.quiet := limits.modest.quiet

theorem Op.modest.plain {o : Op} (modest : o.modest) : o.plain := modest.quiet.plain

theorem Op.limits.plain {o : Op} (limits : o.limits) : o.plain := limits.idle.plain

variable {env : Env} {allowed : Op → Prop}

theorem modest_of_quiet (quiet : ∀ o, o.quiet → allowed o) (o : Op) (modest : o.modest) :
    allowed o := quiet o modest.quiet

theorem checkLimit_uses (base : ∀ o, o.limits → allowed o) (scope caller : String) (limit : Nat)
    (width : Instant) : (checkLimit scope caller limit width : Service env Unit).Uses allowed := by
  refine Prog.Uses.bind (ask_uses (base _ trivial)) fun now => ?_
  refine Prog.Uses.bind (ask_uses (base _ trivial)) fun refused => ?_
  cases refused <;> trivial

namespace AccountService

/-! ## The writes of each request

`modest` allows the steps that change no row and look at nothing that is stored; every other step
that a function can take is a hypothesis of its own. -/

section Writes

variable (modest : ∀ o, o.modest → allowed o)
include modest

theorem findForLogin_writes (email : String) : (findForLogin env email).Uses allowed := by
  rw [findForLogin]
  split
  · trivial
  · exact accountStore_uses (modest _ trivial)

theorem mayMail_writes (address : String) : (mayMail env address).Uses allowed := by
  refine Prog.Uses.tryCatch ?_ fun e => ?_
  · exact Prog.Uses.bind (checkLimit_uses (fun o limits => modest o limits.modest) _ _ _ _)
      fun _ => trivial
  · cases e <;> trivial

theorem mintGrant_writes {purpose : GrantPurpose}
    (adds : ∀ grant : Grant, grant.purpose = purpose → allowed (.grants (.add grant)))
    (ttlSeconds : Int) (named : Named) : (mintGrant env purpose ttlSeconds named).Uses allowed := by
  refine Prog.Uses.bind (ask_uses (modest _ trivial)) fun now => ?_
  refine Prog.Uses.bind (ask_uses (modest _ trivial)) fun token => ?_
  refine Prog.Uses.bind (ask_uses (modest _ trivial)) fun hex => ?_
  refine Prog.Uses.bind (ofExcept_uses _) fun expiresAt => ?_
  exact Prog.Uses.bind (grantStore_uses (adds _ rfl)) fun _ => trivial

theorem redeem_writes (redeems : ∀ tokenHash now, allowed (.grants (.redeem tokenHash now)))
    (token : String) (purpose : GrantPurpose) : (redeem env token purpose).Uses allowed := by
  refine Prog.Uses.bind (ask_uses (modest _ trivial)) fun now => ?_
  refine Prog.Uses.bind (grantStore_uses (redeems _ _)) fun redeemed => ?_
  cases redeemed with
  | none => trivial
  | some grant => exact Prog.Uses.bind (refuseIf_uses _ _) fun _ => trivial

theorem openSession_writes (opens : ∀ session cap, allowed (.sessions (.addWithinCap session cap)))
    (account : Account) (now : Instant) : (openSession env account now).Uses allowed := by
  refine Prog.Uses.bind (preferencesFor_uses (modest _ trivial)) fun prefs => ?_
  refine Prog.Uses.bind (ask_uses (modest _ trivial)) fun token => ?_
  refine Prog.Uses.bind (ask_uses (modest _ trivial)) fun hex => ?_
  refine Prog.Uses.bind (ofExcept_uses _) fun expiresAt => ?_
  refine Prog.Uses.bind (ofExcept_uses _) fun absoluteExpiresAt => ?_
  exact Prog.Uses.bind (sessionStore_uses (opens _ _)) fun _ => trivial

theorem grantee_writes (grant : Grant) : (grantee env grant).Uses allowed := by
  rw [grantee]
  split
  · trivial
  · exact accountStore_uses (modest _ trivial)

omit modest in
theorem rejectPassword_writes {α : Type} {account : Account} {now : Instant}
    (saves : ∀ copy, failed env account now = .ok copy → allowed (.accounts (.save copy))) :
    (rejectPassword env account now : Service env α).Uses allowed := by
  rw [rejectPassword]
  cases recorded : failed env account now with
  | error e => trivial
  | ok copy =>
      rw [Prog.ofExcept_eq, Prog.bind_ok]
      exact Prog.Uses.bind (accountStore_uses (saves copy recorded)) fun _ => trivial

omit modest in
theorem rejectPassword_uses {α : Type} {account : Account}
    (saves : ∀ copy : Account, copy.Copies account → allowed (.accounts (.save copy)))
    (now : Instant) : (rejectPassword env account now : Service env α).Uses allowed :=
  rejectPassword_writes fun copy recorded =>
    saves copy ⟨withFailure_accountId recorded, withFailure_roles recorded⟩

theorem acceptLogin_writes {account : Account}
    (saves : ∀ copy : Account, copy.Copies account → allowed (.accounts (.save copy)))
    (password : String) (now : Instant) : (acceptLogin env account password now).Uses allowed := by
  rw [acceptLogin, upgradeHash]
  split
  · rw [bind_assoc]
    refine Prog.Uses.bind (ask_uses (modest _ trivial)) fun salt => ?_
    rw [Prog.pure_eq, Prog.bind_ok]
    exact Prog.Uses.bind (accountStore_uses (saves _ ⟨rfl, rfl⟩)) fun _ => trivial
  · rw [Prog.pure_eq, Prog.bind_ok]
    exact Prog.Uses.bind (accountStore_uses (saves _ ⟨rfl, rfl⟩)) fun _ => trivial

theorem authenticate_writes {account : Account}
    (saves : ∀ copy : Account, copy.Copies account → allowed (.accounts (.save copy)))
    (opens : ∀ session cap, allowed (.sessions (.addWithinCap session cap)))
    (password caller : String) : (authenticate env account password caller).Uses allowed := by
  refine Prog.Uses.bind (ask_uses (modest _ trivial)) fun now => ?_
  refine Prog.Uses.bind (refuseIf_uses _ _) fun _ => ?_
  split
  · refine Prog.Uses.bind (acceptLogin_writes modest saves password now) fun account => ?_
    refine Prog.Uses.bind (ask_uses (modest _ trivial)) fun _ => ?_
    exact openSession_writes modest opens account now
  · exact rejectPassword_uses saves now

theorem confirm_writes {account : Account}
    (saves : ∀ copy : Account, copy.Copies account → allowed (.accounts (.save copy)))
    (password : String) : (confirm env account password).Uses allowed := by
  refine Prog.Uses.bind (ask_uses (modest _ trivial)) fun now => ?_
  refine Prog.Uses.bind (refuseIf_uses _ _) fun _ => ?_
  split
  · split
    · trivial
    · exact accountStore_uses (saves _ ⟨rfl, rfl⟩)
  · exact rejectPassword_uses saves now

theorem setPassword_writes {account : Account}
    (saves : ∀ copy : Account, copy.Copies account → allowed (.accounts (.save copy)))
    (ends : ∀ accountId keep, allowed (.sessions (.revokeAll accountId keep)))
    (kills : ∀ accountId, allowed (.grants (.revokeAllForAccount accountId .passwordReset)))
    (newPassword : String) (keep : Option String) :
    (setPassword env account newPassword keep).Uses allowed := by
  refine Prog.Uses.bind (ofExcept_uses _) fun _ => ?_
  refine Prog.Uses.bind (ask_uses (modest _ trivial)) fun now => ?_
  refine Prog.Uses.bind (ask_uses (modest _ trivial)) fun salt => ?_
  refine Prog.Uses.bind (accountStore_uses (saves _ ⟨rfl, rfl⟩)) fun _ => ?_
  refine Prog.Uses.bind (sessionStore_uses (ends _ _)) fun _ => ?_
  exact Prog.Uses.bind (grantStore_uses (kills _)) fun _ => trivial

theorem issueInvite_writes
    (adds : ∀ grant : Grant, grant.purpose = .invite → allowed (.grants (.add grant)))
    (email : String) : (issueInvite env email).Uses allowed := by
  refine Prog.Uses.bind (ofExcept_uses _) fun address => ?_
  refine Prog.Uses.bind (accountStore_uses (modest _ trivial)) fun existing => ?_
  refine Prog.Uses.bind (refuseIf_uses _ _) fun _ => ?_
  exact mintGrant_writes modest adds _ _

theorem redeemInvite_writes (redeems : ∀ tokenHash now, allowed (.grants (.redeem tokenHash now)))
    (adds : ∀ account, allowed (.accounts (.add account))) (token password caller : String) :
    (redeemInvite env token password caller).Uses allowed := by
  refine Prog.Uses.bind (checkLimit_uses (fun o limits => modest o limits.modest) _ _ _ _) fun _ => ?_
  refine Prog.Uses.bind (ofExcept_uses _) fun _ => ?_
  refine Prog.Uses.bind (redeem_writes modest redeems token _) fun grant => ?_
  split
  · trivial
  · refine Prog.Uses.bind (ask_uses (modest _ trivial)) fun now => ?_
    refine Prog.Uses.bind (accountStore_uses (modest _ trivial)) fun count => ?_
    refine Prog.Uses.bind (ask_uses (modest _ trivial)) fun hex => ?_
    refine Prog.Uses.bind (ask_uses (modest _ trivial)) fun salt => ?_
    refine Prog.Uses.bind (accountStore_uses (adds _)) fun _ => ?_
    exact Prog.Uses.bind (ask_uses (modest _ trivial)) fun _ => trivial

theorem login_writes (saves : ∀ copy, allowed (.accounts (.save copy)))
    (opens : ∀ session cap, allowed (.sessions (.addWithinCap session cap)))
    (email password caller : String) : (login env email password caller).Uses allowed := by
  refine Prog.Uses.bind (checkLimit_uses (fun o limits => modest o limits.modest) _ _ _ _) fun _ => ?_
  refine Prog.Uses.bind (findForLogin_writes modest email) fun found => ?_
  cases found with
  | none => trivial
  | some account => exact authenticate_writes modest (fun copy _ => saves copy) opens password caller

theorem resolveSession_writes (saves : ∀ session, allowed (.sessions (.save session)))
    (token : String) : (resolveSession env token).Uses allowed := by
  refine Prog.Uses.bind (ask_uses (modest _ trivial)) fun now => ?_
  refine Prog.Uses.bind (sessionStore_uses (modest _ trivial)) fun found => ?_
  cases found with
  | none => trivial
  | some session =>
      refine Prog.Uses.bind (accountStore_uses (modest _ trivial)) fun found => ?_
      cases found with
      | none => trivial
      | some account =>
          refine Prog.Uses.bind (refuseIf_uses _ _) fun _ => ?_
          refine Prog.Uses.bind (ask_uses (modest _ trivial)) fun now => ?_
          refine Prog.Uses.bind (ofExcept_uses _) fun refreshed => ?_
          exact Prog.Uses.bind (sessionStore_uses (saves _)) fun _ => trivial

theorem setStatus_writes {accountId : String} {status : AccountStatus}
    (saves : ∀ copy : Account, copy.status = status → allowed (.accounts (.save copy))) :
    (setStatus env accountId status).Uses allowed := by
  refine Prog.Uses.bind (accountStore_uses (modest _ trivial)) fun found => ?_
  cases found with
  | none => trivial
  | some account =>
      exact Prog.Uses.bind (ask_uses (modest _ trivial)) fun now => accountStore_uses (saves _ rfl)

theorem changePassword_writes (saves : ∀ copy, allowed (.accounts (.save copy)))
    (ends : ∀ accountId keep, allowed (.sessions (.revokeAll accountId keep)))
    (kills : ∀ accountId, allowed (.grants (.revokeAllForAccount accountId .passwordReset)))
    (accountId current newPassword : String) (keep : Option String) :
    (changePassword env accountId current newPassword keep).Uses allowed := by
  refine Prog.Uses.bind (accountStore_uses (modest _ trivial)) fun found => ?_
  cases found with
  | none => trivial
  | some account =>
      refine Prog.Uses.bind (refuseIf_uses _ _) fun _ => ?_
      exact setPassword_writes modest (fun copy _ => saves copy) ends kills newPassword keep

theorem confirmPassword_writes (saves : ∀ copy, allowed (.accounts (.save copy)))
    (accountId password : String) : (confirmPassword env accountId password).Uses allowed := by
  refine Prog.Uses.bind (accountStore_uses (modest _ trivial)) fun found => ?_
  cases found with
  | none => trivial
  | some account => exact confirm_writes modest (fun copy _ => saves copy) password

section Resets

variable (kills : ∀ accountId, allowed (.grants (.revokeAllForAccount accountId .passwordReset)))
  (adds : ∀ grant : Grant, grant.purpose = .passwordReset → allowed (.grants (.add grant)))
include kills adds

theorem requestPasswordReset_writes (email caller : String) :
    (requestPasswordReset env email caller).Uses allowed := by
  refine Prog.Uses.bind (checkLimit_uses (fun o limits => modest o limits.modest) _ _ _ _) fun _ => ?_
  refine Prog.Uses.bind (findForLogin_writes modest email) fun found => ?_
  cases found with
  | none => trivial
  | some account =>
      refine Prog.Uses.bind (mayMail_writes modest _) fun allowed => ?_
      cases allowed with
      | false => trivial
      | true =>
          refine Prog.Uses.bind (grantStore_uses (kills _)) fun _ => ?_
          exact Prog.Uses.bind (mintGrant_writes modest adds _ _) fun _ => trivial

theorem issueResetFor_writes (account : Account) : (issueResetFor env account).Uses allowed := by
  refine Prog.Uses.bind (mayMail_writes modest _) fun allowed => ?_
  refine Prog.Uses.bind (refuseIf_uses _ _) fun _ => ?_
  refine Prog.Uses.bind (grantStore_uses (kills _)) fun _ => ?_
  exact mintGrant_writes modest adds _ _

end Resets

theorem redeemPasswordReset_writes
    (redeems : ∀ tokenHash now, allowed (.grants (.redeem tokenHash now)))
    (saves : ∀ copy, allowed (.accounts (.save copy)))
    (ends : ∀ accountId keep, allowed (.sessions (.revokeAll accountId keep)))
    (kills : ∀ accountId, allowed (.grants (.revokeAllForAccount accountId .passwordReset)))
    (token newPassword caller : String) :
    (redeemPasswordReset env token newPassword caller).Uses allowed := by
  refine Prog.Uses.bind (checkLimit_uses (fun o limits => modest o limits.modest) _ _ _ _) fun _ => ?_
  refine Prog.Uses.bind (ofExcept_uses _) fun _ => ?_
  refine Prog.Uses.bind (redeem_writes modest redeems token _) fun grant => ?_
  refine Prog.Uses.bind (grantee_writes modest grant) fun found => ?_
  cases found with
  | none => trivial
  | some account =>
      exact Prog.Uses.bind
        (setPassword_writes modest (fun copy _ => saves copy) ends kills newPassword none)
        fun _ => trivial

theorem sweepOnce_writes (expires : ∀ now, allowed (.sessions (.purgeExpired now)))
    (purges : ∀ now, allowed (.grants (.purgeExpired now))) : (sweepOnce env).Uses allowed := by
  refine Prog.Uses.bind (ask_uses (modest _ trivial)) fun now => ?_
  refine Prog.Uses.bind (sessionStore_uses (expires _)) fun expired => ?_
  refine Prog.Uses.bind (ask_uses (modest _ trivial)) fun now => ?_
  refine Prog.Uses.bind (grantStore_uses (purges _)) fun spent => ?_
  refine Prog.Uses.bind (ask_uses (modest _ trivial)) fun now => ?_
  exact Prog.Uses.bind (ask_uses (modest _ trivial)) fun records => trivial

end Writes

/-! ## Where the other tables do not matter -/

section Plain

variable (base : ∀ o, o.plain → allowed o)

theorem logoutEverywhere_uses (base : ∀ o, o.plain → allowed o) (accountId : String) :
    (logoutEverywhere env accountId).Uses allowed := sessionStore_uses (base _ trivial)

include base

theorem redeem_uses (token : String) (purpose : GrantPurpose) :
    (redeem env token purpose).Uses allowed :=
  redeem_writes (fun o modest => base o modest.plain) (fun _ _ => base _ trivial) token purpose

theorem authenticate_uses {account : Account}
    (saves : ∀ copy : Account, copy.Copies account → allowed (.accounts (.save copy)))
    (password caller : String) : (authenticate env account password caller).Uses allowed :=
  authenticate_writes (fun o modest => base o modest.plain) saves (fun _ _ => base _ trivial) password
    caller

theorem confirm_uses {account : Account}
    (saves : ∀ copy : Account, copy.Copies account → allowed (.accounts (.save copy)))
    (password : String) : (confirm env account password).Uses allowed :=
  confirm_writes (fun o modest => base o modest.plain) saves password

theorem setPassword_uses {account : Account}
    (saves : ∀ copy : Account, copy.Copies account → allowed (.accounts (.save copy)))
    (newPassword : String) (keep : Option String) :
    (setPassword env account newPassword keep).Uses allowed :=
  setPassword_writes (fun o modest => base o modest.plain) saves (fun _ _ => base _ trivial)
    (fun _ => base _ trivial) newPassword keep

theorem setStatus_uses {status : AccountStatus}
    (saves : ∀ copy : Account, copy.status = status → allowed (.accounts (.save copy)))
    (accountId : String) : (setStatus env accountId status).Uses allowed :=
  setStatus_writes (fun o modest => base o modest.plain) saves

variable (saves : ∀ copy, allowed (.accounts (.save copy)))
include saves

theorem login_uses (email password caller : String) :
    (login env email password caller).Uses allowed :=
  login_writes (fun o modest => base o modest.plain) saves (fun _ _ => base _ trivial) email password
    caller

theorem confirmPassword_uses (accountId password : String) :
    (confirmPassword env accountId password).Uses allowed :=
  confirmPassword_writes (fun o modest => base o modest.plain) saves accountId password

theorem changePassword_uses (accountId current newPassword : String) (keep : Option String) :
    (changePassword env accountId current newPassword keep).Uses allowed :=
  changePassword_writes (fun o modest => base o modest.plain) saves (fun _ _ => base _ trivial)
    (fun _ => base _ trivial) accountId current newPassword keep

theorem redeemPasswordReset_uses (token newPassword caller : String) :
    (redeemPasswordReset env token newPassword caller).Uses allowed :=
  redeemPasswordReset_writes (fun o modest => base o modest.plain) (fun _ _ => base _ trivial) saves
    (fun _ _ => base _ trivial) (fun _ => base _ trivial) token newPassword caller

end Plain

end AccountService

namespace AdminService

theorem requireAccount_uses (base : ∀ o, o.modest → allowed o) (accountId : String) :
    (requireAccount env accountId).Uses allowed := by
  refine Prog.Uses.bind (accountStore_uses (base _ trivial)) fun found => ?_
  cases found <;> trivial

theorem checkCanActOn_uses (base : ∀ o, o.modest → allowed o) (actor : Actor) (target : Account) :
    (checkCanActOn env actor target).Uses allowed := by
  rw [checkCanActOn]
  split
  · trivial
  · refine Prog.Uses.bind ?_ fun held => refuseIf_uses _ _
    split
    · trivial
    · exact roleStore_uses (base _ trivial)

theorem record_uses (base : ∀ o, o.modest → allowed o)
    (records : ∀ entry, allowed (.audit (.record entry))) (actor : Actor) (action : AuditAction)
    (targetId : Option String) (detail : String) :
    (record env actor action targetId detail).Uses allowed := by
  refine Prog.Uses.bind (ask_uses (base _ trivial)) fun entryId => ?_
  exact Prog.Uses.bind (ask_uses (base _ trivial)) fun now => auditLog_uses (records _)

theorem setStatus_uses (base : ∀ o, o.plain → allowed o) {status : AccountStatus}
    (saves : ∀ copy : Account, copy.status = status → allowed (.accounts (.save copy)))
    (actor : Actor) (accountId : String) :
    (setStatus env actor accountId status).Uses allowed := by
  refine Prog.Uses.bind (ofExcept_uses _) fun _ => ?_
  refine Prog.Uses.bind (requireAccount_uses (fun _ modest => base _ modest.plain) accountId) fun account => ?_
  refine Prog.Uses.bind (checkCanActOn_uses (fun _ modest => base _ modest.plain) actor account) fun _ => ?_
  refine Prog.Uses.bind (AccountService.setStatus_uses base saves accountId) fun _ => ?_
  refine Prog.Uses.bind ?_ fun _ => ?_
  · split
    · exact AccountService.logoutEverywhere_uses base accountId
    · trivial
  · refine Prog.Uses.bind (record_uses (fun _ modest => base _ modest.plain) (fun _ => base _ trivial) _ _ _ _) fun _ => ?_
    exact Prog.Uses.bind (accountStore_uses (base _ trivial)) fun _ => trivial

theorem grantedBy_uses (base : ∀ o, o.modest → allowed o) (names : List String)
    (granted : Finset Permission) : (grantedBy env names granted).Uses allowed := by
  induction names generalizing granted with
  | nil => trivial
  | cons name names ih =>
      refine Prog.Uses.bind (roleStore_uses (base _ trivial)) fun found => ?_
      cases found with
      | none => trivial
      | some role => exact ih _

theorem setAccountRoles_uses (base : ∀ o, o.plain → allowed o) (actor : Actor)
    (accountId : String) (names : List String)
    (assigns : ∀ target names now, allowed (.accounts (.setRoles target names now))) :
    (setAccountRoles env actor accountId names).Uses allowed := by
  refine Prog.Uses.bind (ofExcept_uses _) fun _ => ?_
  refine Prog.Uses.bind (requireAccount_uses (fun _ modest => base _ modest.plain) accountId) fun account => ?_
  refine Prog.Uses.bind (ofExcept_uses _) fun normalized => ?_
  refine Prog.Uses.bind (refuseIf_uses _ _) fun _ => ?_
  refine Prog.Uses.bind (grantedBy_uses (fun _ modest => base _ modest.plain) _ _) fun granted => ?_
  refine Prog.Uses.bind (ofExcept_uses _) fun _ => ?_
  refine Prog.Uses.bind (ask_uses (base _ trivial)) fun now => ?_
  refine Prog.Uses.bind (accountStore_uses (assigns _ _ _)) fun updated => ?_
  exact Prog.Uses.bind (record_uses (fun _ modest => base _ modest.plain) (fun _ => base _ trivial) _ _ _ _) fun _ => trivial

end AdminService

end Keyring
