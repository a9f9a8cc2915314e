import Keyring.Storage.Columns

/-!
# What is stored is loaded

Each mapping from a row undoes the mapping to it, field by field.  The one column that
is never written is `revoked_at` of an offline grant.
-/

set_option autoImplicit false

namespace Keyring

theorem bind_eq_ok {ε α β : Type} {x : Except ε α} {f : α → Except ε β} {b : β} :
    (x >>= f) = .ok b ↔ ∃ a, x = .ok a ∧ f a = .ok b := by
  cases x with
  | error e => simp [bind, Except.bind]
  | ok a => simp [bind, Except.bind]

theorem map_eq_ok {ε α β : Type} {x : Except ε α} {f : α → β} {b : β} :
    x.map f = .ok b ↔ ∃ a, x = .ok a ∧ f a = b := by
  cases x with
  | error e => simp [Except.map]
  | ok a => simp [Except.map]

theorem map_eq_error {ε α β : Type} {x : Except ε α} {f : α → β} {e : ε} :
    x.map f = .error e ↔ x = .error e := by
  cases x with
  | error e => simp [Except.map]
  | ok a => simp [Except.map]

theorem pure_eq_ok {ε α : Type} {a b : α} : (pure a : Except ε α) = .ok b ↔ a = b :=
  ⟨Except.ok.inj, congrArg Except.ok⟩

theorem ok_bind {ε α β : Type} (a : α) (f : α → Except ε β) : (Except.ok a >>= f) = f a := rfl

/-! ## Values -/

section Values

variable (text : Text)

theorem columnInstant_stamp {instant : Instant} {column : String} (stored : stamp instant = .ok column) :
    columnInstant text column = .ok instant := by
  obtain ⟨value, read, same, -⟩ := fromColumn_stamp text stored
  rw [columnInstant, map_eq_ok]
  exact ⟨value, read, same⟩

theorem columnInstantOptional_stampOptional {instant : Option Instant} {column : Option String}
    (stored : stampOptional instant = .ok column) :
    columnInstantOptional text column = .ok instant := by
  cases instant with
  | none =>
      cases stored
      rfl
  | some instant =>
      obtain ⟨raw, written, rfl⟩ := map_eq_ok.mp stored
      rw [columnInstantOptional, columnInstant_stamp text written]
      rfl

theorem memberOf_value {α : Type} [Valued α] (member : α) :
    memberOf text α (Valued.value member) = .ok member := by
  rw [memberOf, Valued.member_value]

theorem int64_eq {n m : Int} (stored : int64 n = .ok m) : m = n := by
  unfold int64 at stored
  split at stored
  · cases stored
    rfl
  · cases stored

theorem int64Optional_eq {n m : Option Int} (stored : int64Optional n = .ok m) : m = n := by
  cases n with
  | none =>
      cases stored
      rfl
  | some n =>
      obtain ⟨raw, written, rfl⟩ := map_eq_ok.mp stored
      rw [int64_eq written]

@[simp] theorem flagColumn_ne_zero (flag : Bool) : decide (flagColumn flag ≠ 0) = flag := by
  cases flag <;> rfl

theorem properItems_strs (values : List String) : Json.ProperItems (values.map .str) := by
  induction values with
  | nil => trivial
  | cons value values ih => exact ⟨trivial, ih⟩

theorem mapM_asStr (values : List String) : (values.map Json.str).mapM Json.asStr = some values := by
  induction values with
  | nil => rfl
  | cons value values ih =>
      rw [List.map_cons, List.mapM_cons, ih]
      rfl

theorem loadsStrings_dumpsStrings {values : List String} {column : String}
    (stored : dumpsStrings values = .ok column) : loadsStrings text column = .ok values := by
  have proper : (Json.arr (values.map .str)).Proper := properItems_strs values
  have loaded := Json.loads_dumps proper stored
  rw [loadsStrings, loaded]
  simp only [mapM_asStr]

/-- No array of strings is refused. -/
theorem dumpsStrings_isOk (values : List String) : ∃ column, dumpsStrings values = .ok column := by
  have fits : Json.fitsDigitsItems (values.map .str) = true := by
    induction values with
    | nil => rfl
    | cons value values ih => simp [Json.fitsDigitsItems, Json.fitsDigits, ih]
  exact ⟨_, by rw [dumpsStrings, Json.dumps, Json.fitsDigits, if_pos fits]⟩

theorem mapM_memberOf {α : Type} [Valued α] (members : List α) :
    (members.map Valued.value).mapM (memberOf text α) = .ok members := by
  induction members with
  | nil => rfl
  | cons member members ih =>
      rw [List.map_cons, List.mapM_cons, memberOf_value, ih]
      rfl

theorem sortedNames_eq (permissions : Finset Permission) :
    ∃ members : List Permission, sortedNames permissions = members.map Valued.value ∧
      members.toFinset = permissions := by
  let members := (Permission.all.filter (· ∈ permissions)).insertionSort
    fun p q => p.wire ≤ q.wire
  refine ⟨members, ?_, ?_⟩
  · exact (List.map_insertionSort (r := fun p q => p.wire ≤ q.wire) (s := (· ≤ ·)) Permission.wire _
      fun _ _ _ _ => Iff.rfl).symm
  · ext p
    have each : p ∈ Permission.all := by cases p <;> decide
    simp [members, List.mem_insertionSort, each]

end Values

/-! ## Records -/

section Records

variable (text : Text)

theorem AccountRow.read_toColumns {row : AccountRow} {columns : AccountColumns}
    (stored : row.toColumns = .ok columns) (roles : List String) :
    columns.read text roles = .ok { row with roles := roles } := by
  simp only [AccountRow.toColumns, bind_eq_ok, pure_eq_ok] at stored
  obtain ⟨createdAt, created, updatedAt, updated, lockedUntil, locked, failed, counted, rfl⟩ := stored
  rw [int64_eq counted]
  simp only [AccountColumns.read, columnInstant_stamp text created, columnInstant_stamp text updated,
    columnInstantOptional_stampOptional text locked, memberOf_value, Int.toNat_natCast]
  rfl

theorem Session.read_toColumns {session : Session} {columns : SessionColumns}
    (stored : session.toColumns = .ok columns) : columns.read text = .ok session := by
  simp only [Session.toColumns, bind_eq_ok, pure_eq_ok] at stored
  obtain ⟨createdAt, created, lastUsedAt, used, expiresAt, expires, absoluteExpiresAt, absolute,
    idle, counted, rfl⟩ := stored
  simp only [SessionColumns.read, columnInstant_stamp text created, columnInstant_stamp text used,
    columnInstant_stamp text expires, columnInstant_stamp text absolute, int64Optional_eq counted]
  rfl

theorem Grant.read_toColumns {grant : Grant} {columns : GrantColumns}
    (stored : grant.toColumns = .ok columns) : columns.read text = .ok grant := by
  simp only [Grant.toColumns, bind_eq_ok, pure_eq_ok] at stored
  obtain ⟨createdAt, created, expiresAt, expires, redeemedAt, redeemed, rfl⟩ := stored
  simp only [GrantColumns.read, columnInstant_stamp text created, columnInstant_stamp text expires,
    columnInstantOptional_stampOptional text redeemed, memberOf_value, flagColumn_ne_zero]
  rfl

theorem readPermissions {permissions : Finset Permission} {column : String}
    (stored : dumpPermissions permissions = .ok column) :
    ∃ names members, loadsStrings text column = .ok names ∧
      names.mapM (memberOf text Permission) = .ok members ∧ members.toFinset = permissions := by
  obtain ⟨members, names, same⟩ := sortedNames_eq permissions
  refine ⟨sortedNames permissions, members, loadsStrings_dumpsStrings text stored, ?_, same⟩
  rw [names, mapM_memberOf]

theorem Role.read_toColumns {role : Role} {columns : RoleColumns}
    (stored : role.toColumns = .ok columns) : columns.read text = .ok role := by
  simp only [Role.toColumns, bind_eq_ok, pure_eq_ok] at stored
  obtain ⟨permissions, dumped, createdAt, created, updatedAt, updated, rfl⟩ := stored
  obtain ⟨names, members, loaded, known, same⟩ := readPermissions text dumped
  simp only [RoleColumns.read, loaded, ok_bind, known, columnInstantOptional_stampOptional text created,
    columnInstantOptional_stampOptional text updated, flagColumn_ne_zero, same]
  rfl

theorem Connection.read_toColumns {item : Connection} {accountId name : String}
    {columns : ConnectionColumns} (stored : item.toColumns accountId name = .ok columns) :
    columns.read text = .ok item := by
  simp only [Connection.toColumns, bind_eq_ok, pure_eq_ok] at stored
  obtain ⟨createdAt, created, updatedAt, updated, expiresAt, expires, scopes, dumped, rfl⟩ := stored
  simp only [ConnectionColumns.read, columnInstant_stamp text created, columnInstant_stamp text updated,
    columnInstantOptional_stampOptional text expires, loadsStrings_dumpsStrings text dumped,
    memberOf_value, flagColumn_ne_zero]
  rfl

theorem ProfileRow.read_toColumns {row : ProfileRow} {columns : ProfileColumns}
    (stored : row.toColumns = .ok columns) (connections : List Connection) :
    columns.read text connections = .ok { row with connections := connections } := by
  simp only [ProfileRow.toColumns, bind_eq_ok, pure_eq_ok] at stored
  obtain ⟨createdAt, created, updatedAt, updated, rfl⟩ := stored
  simp only [ProfileColumns.read, columnInstant_stamp text created, columnInstant_stamp text updated]
  rfl

theorem OfflineGrant.read_toColumns {grant : OfflineGrant} {columns : OfflineGrantColumns}
    (stored : grant.toColumns = .ok columns) :
    columns.read text = .ok { grant with revokedAt := none } := by
  simp only [OfflineGrant.toColumns, bind_eq_ok, pure_eq_ok] at stored
  obtain ⟨audiences, dumped, createdAt, created, expiresAt, expires, rfl⟩ := stored
  simp only [OfflineGrantColumns.read, loadsStrings_dumpsStrings text dumped,
    columnInstant_stamp text created, columnInstant_stamp text expires]
  rfl

end Records

end Keyring
