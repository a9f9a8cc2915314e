import Mathlib.Data.Finset.Basic
import Mathlib.Data.Finset.Lattice.Fold
import Mathlib.Data.Fintype.Basic
import Keyring.Domain.Errors

/-!
# Roles and permissions

Permissions are a closed enumeration, a role is a named set of them, and an
account's permissions are the union over its roles.  `checkCanGrant` is the
rule that nobody hands out a permission they do not hold.
-/

set_option autoImplicit false

namespace Keyring

inductive Permission where
  | accountsRead
  | accountsInvite
  | accountsDisable
  | accountsDelete
  | accountsRevokeSessions
  | accountsResetPassword
  | rolesRead
  | rolesWrite
  | rolesAssign
  | profilesReadAny
  | profilesDeleteAny
  | auditRead
  deriving DecidableEq

namespace Permission

def all : List Permission :=
  [accountsRead, accountsInvite, accountsDisable, accountsDelete, accountsRevokeSessions,
    accountsResetPassword, rolesRead, rolesWrite, rolesAssign, profilesReadAny,
    profilesDeleteAny, auditRead]

instance : Fintype Permission where
  elems := ⟨all, by decide⟩
  complete := by intro p; cases p <;> decide

/-- The value of the enum member, as it is written in a role and in a message. -/
def wire : Permission → String
  | accountsRead => "accounts:read"
  | accountsInvite => "accounts:invite"
  | accountsDisable => "accounts:disable"
  | accountsDelete => "accounts:delete"
  | accountsRevokeSessions => "accounts:revoke_sessions"
  | accountsResetPassword => "accounts:reset_password"
  | rolesRead => "roles:read"
  | rolesWrite => "roles:write"
  | rolesAssign => "roles:assign"
  | profilesReadAny => "profiles:read_any"
  | profilesDeleteAny => "profiles:delete_any"
  | auditRead => "audit:read"

def ofWire? (value : String) : Option Permission := all.find? (·.wire = value)

theorem ofWire?_wire (p : Permission) : ofWire? p.wire = some p := by cases p <;> decide

end Permission

/-- The wire values of a set of permissions, sorted. -/
def sortedNames (permissions : Finset Permission) : List String :=
  ((Permission.all.filter (· ∈ permissions)).map Permission.wire).insertionSort (· ≤ ·)

def maxRoleNameLength : Nat := 64
def maxRoleDescriptionLength : Nat := 200
def maxRolesPerAccount : Nat := 16

/-! ## The built-in roles -/

def OWNER : String := "owner"
def ADMIN : String := "admin"
def AUDITOR : String := "auditor"
def MEMBER : String := "member"
def defaultRole : String := MEMBER

def builtinRoles : List (String × Finset Permission × String) :=
  [(OWNER, Finset.univ,
      "Every permission, including managing roles. At least one must always exist."),
    (ADMIN, {.accountsRead, .accountsInvite, .accountsDisable, .accountsDelete,
        .accountsRevokeSessions, .accountsResetPassword, .rolesRead, .rolesAssign,
        .profilesReadAny, .profilesDeleteAny, .auditRead},
      "Manage accounts and assign existing roles. Cannot mint new roles."),
    (AUDITOR, {.accountsRead, .rolesRead, .auditRead},
      "Read-only: accounts, roles and the audit log."),
    (MEMBER, ∅, "No administrative permissions. What every new account gets.")]

structure Role where
  name : String
  permissions : Finset Permission
  description : String
  builtin : Bool
  createdAt : Option Instant
  updatedAt : Option Instant

def Role.withPermissions (role : Role) (permissions : Finset Permission) (description : String)
    (now : Instant) : Role :=
  { role with permissions := permissions, description := description, updatedAt := some now }

/-! ## Names -/

def isNameChar (c : Char) : Bool :=
  ('a' ≤ c && c ≤ 'z') || ('0' ≤ c && c ≤ '9') || c = '.' || c = '_' || c = '-'

def isNameEnd (c : Char) : Bool := ('a' ≤ c && c ≤ 'z') || ('0' ≤ c && c ≤ '9')

/-- `^[a-z0-9](?:[a-z0-9._-]*[a-z0-9])?$`; a final newline is outside the match. -/
def matchesName (name : String) : Bool :=
  let cs := name.toList
  let body := if cs.getLast? = some '\n' then cs.dropLast else cs
  body.all isNameChar && body.head?.any isNameEnd && body.getLast?.any isNameEnd

/-- The normal form that role, profile and service names share; each raises its
own error about its own kind of name. -/
def normalizeName (text : Text) (what : String) (limit : Nat) (error : String → Error)
    (raw : String) : Except Error String :=
  let name := text.lower (strip raw)
  if name.isEmpty then .error (error s!"{what} must not be empty")
  else if name.length > limit then
    .error (error s!"{what} must be at most {limit} characters")
  else if !matchesName name then
    .error (error (s!"{what} may contain only lowercase letters, digits, dot, dash and " ++
      "underscore, and must start and end with a letter or digit"))
  else .ok name

def normalizeRoleName (text : Text) (raw : String) : Except Error String :=
  normalizeName text "role name" maxRoleNameLength .invalidRole raw

/-! ## Permissions of roles -/

def parsePermissions (values : List String) : Except Error (Finset Permission) :=
  let unknown := values.filter fun value => (Permission.ofWire? value).isNone
  if unknown ≠ [] then
    let names := (dictFromKeys unknown).insertionSort (· ≤ ·)
    .error (.invalidRole s!"unknown permissions: {joinComma names}")
  else .ok (values.filterMap Permission.ofWire?).toFinset

def permissionsOf (roles : List Role) : Finset Permission :=
  roles.foldr (fun role held => role.permissions ∪ held) ∅

def checkCanGrant (holder granted : Finset Permission) : Except Error Unit :=
  let excess := granted \ holder
  if excess.Nonempty then
    .error (.insufficientPermission
      s!"you cannot grant permissions you do not hold: {joinComma (sortedNames excess)}")
  else .ok ()

@[simp] theorem mem_permissionsOf {roles : List Role} {p : Permission} :
    p ∈ permissionsOf roles ↔ ∃ role ∈ roles, p ∈ role.permissions := by
  induction roles with
  | nil => simp [permissionsOf]
  | cons role roles ih =>
      rw [permissionsOf, List.foldr_cons, ← permissionsOf, Finset.mem_union, ih]
      simp

theorem checkCanGrant_ok {holder granted : Finset Permission} :
    checkCanGrant holder granted = .ok () ↔ granted ⊆ holder := by
  simp only [checkCanGrant, Finset.sdiff_nonempty]
  split
  · rename_i excess
    simp [excess]
  · rename_i bounded
    simpa using bounded

end Keyring
