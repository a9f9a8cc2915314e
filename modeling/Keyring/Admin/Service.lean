import Keyring.Credentials.Changes

/-!
# Administrative operations over accounts and roles

Every operation takes the actor with the permissions its roles resolved to when
the request came in.  `checkCanActOn` bounds whom an actor may act on, and
`checkGrantable` what an actor may hand out or define.
-/

set_option autoImplicit false

namespace Keyring

open Interleave

def breakGlassActor : String := "break-glass"

def ownProfileNeedsPassword : String :=
  "your account asks for its password before a stored credential changes, and this " ++
    "administrative route cannot take it: delete your own profile with delete_profile, " ++
    "sending current_password"

/-- Who is making an administrative request, and what they may do. -/
structure Actor where
  accountId : String
  permissions : Finset Permission
  isBreakGlass : Bool

namespace Actor

def require (actor : Actor) (permission : Permission) : Except Error Unit :=
  if permission ∈ actor.permissions then .ok ()
  else .error (.insufficientPermission s!"this action requires the '{permission.wire}' permission")

theorem require_ok {actor : Actor} {permission : Permission} :
    actor.require permission = .ok () ↔ permission ∈ actor.permissions := by
  rw [require]
  split <;> simp_all

end Actor

namespace AdminService

variable (env : Env)

/-! ## Internals -/

def requireAccount (accountId : String) : Service env Account := do
  match ← accountStore (.get accountId) with
  | none => throw (.accountNotFound noSuchAccount)
  | some account => pure account

/-- Refuse to act on an account whose permissions exceed the actor's own. -/
def checkCanActOn (actor : Actor) (target : Account) : Service env Unit := do
  if actor.isBreakGlass || target.accountId = actor.accountId then pure ()
  else do
    let heldByTarget ← (if target.roles.isEmpty then pure ∅ else roleStore (.resolve target.roles))
    let excess := heldByTarget \ actor.permissions
    refuseIf excess.Nonempty (.insufficientPermission
      (s!"you cannot act on an account that holds permissions you do not: " ++
        joinComma (sortedNames excess)))

/-- Refuse to hand out or define a permission the actor does not hold. -/
def checkGrantable (actor : Actor) (permissions : Finset Permission) : Except Error Unit :=
  if actor.isBreakGlass then .ok () else checkCanGrant actor.permissions permissions

def checkDescription (description : String) : Except Error Unit :=
  if description.length > maxRoleDescriptionLength then
    .error (.invalidRole s!"description must be at most {maxRoleDescriptionLength} characters")
  else .ok ()

def record (actor : Actor) (action : AuditAction) (targetId : Option String) (detail : String) :
    Service env Unit := do
  let entryId ← draw
  let now ← clockNow
  auditLog (.record {
    entryId := entryId
    at_ := now
    action := action
    actorId := if actor.isBreakGlass then breakGlassActor else actor.accountId
    targetId := targetId
    detail := detail })

/-! ## Reading -/

def listAccounts (actor : Actor) : Service env (List Account) := do
  Prog.ofExcept (actor.require .accountsRead)
  accountStore .listAll

def getAccount (actor : Actor) (accountId : String) : Service env Account := do
  Prog.ofExcept (actor.require .accountsRead)
  requireAccount env accountId

def listProfiles (actor : Actor) (accountId : String) : Service env (List Profile) := do
  Prog.ofExcept (actor.require .profilesReadAny)
  let _ ← requireAccount env accountId
  CredentialService.listProfiles env accountId

def readAudit (actor : Actor) (limit : Nat) : Service env (List AuditEntry) := do
  Prog.ofExcept (actor.require .auditRead)
  auditLog (.recent limit none)

/-! ## Acting on accounts -/

def invite (actor : Actor) (email : String) : Service env IssuedGrant := do
  Prog.ofExcept (actor.require .accountsInvite)
  let grant ← AccountService.issueInvite env email
  record env actor .accountInvited none s!"grant {grant.grantId}"
  pure grant

def setStatus (actor : Actor) (accountId : String) (status : AccountStatus) :
    Service env Account := do
  Prog.ofExcept (actor.require .accountsDisable)
  let account ← requireAccount env accountId
  checkCanActOn env actor account
  AccountService.setStatus env accountId status
  let _ ← (if status ≠ .active then AccountService.logoutEverywhere env accountId else pure 0)
  record env actor (if status = .active then .accountEnabled else .accountDisabled)
    (some accountId) ""
  let updated ← accountStore (.get accountId)
  pure (updated.getD account)

def revokeSessions (actor : Actor) (accountId : String) : Service env Nat := do
  Prog.ofExcept (actor.require .accountsRevokeSessions)
  let account ← requireAccount env accountId
  checkCanActOn env actor account
  let revoked ← AccountService.logoutEverywhere env accountId
  record env actor .accountSessionsRevoked (some accountId) s!"{revoked} session(s)"
  pure revoked

def issuePasswordReset (actor : Actor) (accountId : String) : Service env IssuedGrant := do
  Prog.ofExcept (actor.require .accountsResetPassword)
  let account ← requireAccount env accountId
  checkCanActOn env actor account
  let grant ← AccountService.issueResetFor env account
  record env actor .accountPasswordResetIssued (some accountId) ""
  pure grant

def deleteAccount (actor : Actor) (accountId : String) : Service env Unit := do
  Prog.ofExcept (actor.require .accountsDelete)
  let account ← requireAccount env accountId
  checkCanActOn env actor account
  let _ ← AccountService.deleteAccount env accountId
  record env actor .accountDeleted (some accountId) ""

def deleteProfile (actor : Actor) (accountId name : String) : Service env Unit := do
  Prog.ofExcept (actor.require .profilesDeleteAny)
  let target ← requireAccount env accountId
  checkCanActOn env actor target
  let own := target.accountId = actor.accountId
  let removed ← tryCatchThe Error
    (CredentialChanges.removeProfile env accountId name
      (if own then Requester.person none else Requester.administrator))
    fun
      | .reauthenticationRequired _ => throw (.reauthenticationRequired ownProfileNeedsPassword)
      | e => throw e
  refuseIf (removed = false) (.profileNotFound noSuchProfile)
  record env actor .profileDeletedByAdmin (some accountId) s!"profile {repr env.text name}"

/-! ## Roles -/

def listRoles (actor : Actor) : Service env (List Role) := do
  Prog.ofExcept (actor.require .rolesRead)
  roleStore .listAll

def createRole (actor : Actor) (name : String) (permissions : List String)
    (description : String) : Service env Role := do
  Prog.ofExcept (actor.require .rolesWrite)
  let roleName ← Prog.ofExcept (normalizeRoleName env.text name)
  let wanted ← Prog.ofExcept (parsePermissions permissions)
  Prog.ofExcept (checkGrantable actor wanted)
  Prog.ofExcept (checkDescription description)
  let existing ← roleStore (.get roleName)
  refuseIf existing.isSome
    (.roleExists s!"a role named {repr env.text roleName} already exists")
  let now ← clockNow
  let role : Role := {
    name := roleName
    permissions := wanted
    description := description
    builtin := false
    createdAt := some now
    updatedAt := some now }
  roleStore (.add role)
  record env actor .roleCreated none s!"role {repr env.text roleName}"
  pure role

def updateRole (actor : Actor) (name : String) (permissions : List String)
    (description : String) : Service env Role := do
  Prog.ofExcept (actor.require .rolesWrite)
  let roleName ← Prog.ofExcept (normalizeRoleName env.text name)
  match ← roleStore (.get roleName) with
  | none => throw (.roleNotFound noSuchRole)
  | some role =>
      refuseIf role.builtin
        (.invalidRole s!"{repr env.text role.name} is a built-in role and cannot be edited")
      let wanted ← Prog.ofExcept (parsePermissions permissions)
      Prog.ofExcept (checkGrantable actor wanted)
      Prog.ofExcept (checkDescription description)
      let now ← clockNow
      let updated := role.withPermissions wanted description now
      roleStore (.save updated)
      record env actor .roleUpdated none s!"role {repr env.text role.name}"
      pure updated

def deleteRole (actor : Actor) (name : String) : Service env Unit := do
  Prog.ofExcept (actor.require .rolesWrite)
  let roleName ← Prog.ofExcept (normalizeRoleName env.text name)
  let _ ← accountStore (.countHolding roleName)
  roleStore (.delete roleName)
  record env actor .roleDeleted none s!"role {repr env.text roleName}"

/-- The union of the permissions of the roles being granted. -/
def grantedBy : List String → Finset Permission → Service env (Finset Permission)
  | [], granted => pure granted
  | name :: names, granted => do
      match ← roleStore (.get name) with
      | none => throw (.roleNotFound s!"no role named {repr env.text name}")
      | some role => grantedBy names (granted ∪ role.permissions)

def setAccountRoles (actor : Actor) (accountId : String) (names : List String) :
    Service env Account := do
  Prog.ofExcept (actor.require .rolesAssign)
  let account ← requireAccount env accountId
  let normalized ← Prog.ofExcept (names.mapM (normalizeRoleName env.text))
  let wanted := dictFromKeys normalized
  refuseIf (wanted.length > maxRolesPerAccount)
    (.invalidRole s!"an account may hold at most {maxRolesPerAccount} roles")
  let granted ← grantedBy env wanted ∅
  Prog.ofExcept (checkGrantable actor granted)
  let now ← clockNow
  let updated ← accountStore (.setRoles account.accountId wanted now)
  let listed := if wanted.isEmpty then "(none)" else joinComma wanted
  record env actor .rolesAssigned (some accountId) s!"roles {listed}"
  pure updated

end AdminService

end Keyring
