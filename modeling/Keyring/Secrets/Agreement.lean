import Keyring.Credentials.Service
import Keyring.Interleave.Alone
import Keyring.Scenario
import Keyring.Secrets.VaultMap

/-!
# The services and the vault in bytes

The services seal symbolically, into rows of the shared database.  What they are
answered is what the vault in bytes answers to the same operations: both keep the
rows of one map.
-/

set_option autoImplicit false

namespace Keyring.Vault

open Interleave Relational

/-- The operation as the services perform it.  They draw and read the clock themselves. -/
def Op.serve (env : Env) : (o : Op) → Service env o.Ans
  | .get accountId profile service => do
      let secret ← getSecret env accountId profile service
      pure (secret.map Json.obj)
  | .put accountId profile service secret _ _ =>
      putSecret env accountId profile service secret.fields
  | .delete accountId profile service => secretStore (.delete accountId profile service)
  | .deleteProfile accountId profile => secretStore (.deleteProfile accountId profile)

/-- What an operation was answered. -/
abbrev Told := (o : Op) × Except Error o.Ans

/-- What the vault answers to one operation after the other. -/
def answers (encrypt : Bytes → Bytes → Bytes → Bytes) (master : Option Bytes) :
    List Op → State → List Told
  | [], _ => []
  | o :: ops, s =>
      ⟨o, (perform encrypt master o s).1⟩ :: answers encrypt master ops (perform encrypt master o s).2

/-! ## What the services do -/

section
variable {env : Env}

structure Same (w t : World) : Prop where
  secrets : t.db.secrets = w.db.secrets
  accounts : t.db.accounts = w.db.accounts

theorem Same.refl (w : World) : Same w w := ⟨rfl, rfl⟩

theorem Same.trans {w t u : World} (first : Same w t) (second : Same t u) : Same w u :=
  ⟨second.secrets.trans first.secrets, second.accounts.trans first.accounts⟩

/-- Steps of one caller.  What happens between two of them leaves the secrets and the
accounts alone. -/
inductive Spaced : World → List (Event (machine env)) → World → Prop where
  | nil {w t : World} (same : Same w t) : Spaced w [] t
  | cons {w t : World} {e : Event (machine env)} {es : List (Event (machine env))} {x : Input}
      (same : Same w e.before) (done : exec env e.op x e.before = some (e.ans, e.after))
      (rest : Spaced e.after es t) : Spaced w (e :: es) t

theorem Spaced.of_linked {w t : World} {es : List (Event (machine env))}
    (linked : Linked (M := machine env) w es t) : Spaced w es t := by
  induction es generalizing w with
  | nil =>
    obtain rfl := linked.nil_inv
    exact .nil (.refl t)
  | cons e es ih =>
    obtain ⟨rfl, ⟨x, done⟩, rest⟩ := linked.cons_inv
    exact .cons (.refl e.before) done (ih rest)

/-- Operations that are performed one after the other, with what they were answered. -/
inductive Served (env : Env) : World → List Told → World → Prop where
  | nil (w : World) : Served env w [] w
  | cons {w t u : World} {o : Op} {r : Except Error o.Ans} {es : List (Event (machine env))}
      {told : List Told} (path : Path (o.serve env) es (.done r)) (spaced : Spaced w es t)
      (rest : Served env t told u) : Served env w (⟨o, r⟩ :: told) u

section
variable {α : Type} {w t : World} {es : List (Event (machine env))}

theorem Spaced.done {r r' : Except Error α}
    (path : Path (.done r' : Service env α) es (.done r)) (spaced : Spaced w es t) :
    r = r' ∧ Same w t := by
  obtain ⟨rfl, same⟩ := path.done_inv
  cases same
  cases spaced with
  | nil same => exact ⟨rfl, same⟩

theorem Spaced.call {o : Keyring.Op} {next : o.Ans → Service env α} {r : Except Error α}
    (path : Path (.call o next : Service env α) es (.done r)) (spaced : Spaced w es t) :
    ∃ u x a v rest, Same w u ∧ exec env o x u = some (a, v) ∧ Path (next a) rest (.done r) ∧
      Spaced v rest t := by
  obtain ⟨i, a, u, v, rest, rfl, later⟩ := Path.call_done path
  cases spaced with
  | cons same done spaced => exact ⟨u, _, a, v, rest, same, done, later, spaced⟩

theorem Spaced.store_bind {o : SecretOp} {f : o.Ans → Service env α} {r : Except Error α}
    (path : Path (secretStore o >>= f) es (.done r)) (spaced : Spaced w es t) :
    ∃ u v a rest, Same w u ∧ transact o.run u.db = (a, v.db) ∧
      Path (Prog.ofExcept a >>= f) rest (.done r) ∧ Spaced v rest t := by
  obtain ⟨u, x, a, v, rest, same, done, later, spaced⟩ := Spaced.call path spaced
  exact ⟨u, v, a, rest, same, (onDb_eq.mp done).1, later, spaced⟩

theorem Spaced.store {o : SecretOp} {r : Except Error o.Ans}
    (path : Path (secretStore o : Service env o.Ans) es (.done r)) (spaced : Spaced w es t) :
    ∃ u v : World, Same w u ∧ transact o.run u.db = (r, v.db) ∧ Same v t := by
  obtain ⟨u, x, a, v, rest, same, done, later, spaced⟩ := Spaced.call path spaced
  obtain ⟨rfl, after⟩ := Spaced.done later spaced
  exact ⟨u, v, same, (onDb_eq.mp done).1, after⟩

end

end

/-! ## Rows of one map -/

def Seals (key : String) (row : SecretRow) (fields : Secret) : Prop :=
  ∃ drawn, row.envelope = Keyring.sealSecret fields key drawn

theorem Seals.opens {key : String} {row : SecretRow} {fields : Secret}
    (seals : Seals key row fields) : Keyring.openEnvelope row.envelope key = .ok fields := by
  obtain ⟨drawn, same⟩ := seals
  rw [same, openEnvelope_sealSecret]

/-- What the vault stores of a `put` whenever the account exists. -/
def Op.Writable : Op → Prop
  | .put _ _ _ secret _ now => (Json.obj secret.fields).fitsDigits = true ∧ Representable now
  | _ => True

/-- A world and a vault with the same accounts and the rows of one map. -/
structure Agree (encrypt : Bytes → Bytes → Bytes → Bytes) (master : Bytes) (key : String)
    (accounts : List String) (draws : List Draw) (w : World) (s : State) (m : SecretMap) :
    Prop where
  account : ∀ accountId, (w.db.accounts.find? accountId).isSome ↔ accountId ∈ accounts
  secrets : Maps (Seals key) w.db.secrets m
  vault : Holds encrypt master accounts draws s m

/-- The answers are the same, and what is left agrees again. -/
def Alike (encrypt : Bytes → Bytes → Bytes → Bytes) (master : Bytes) (key : String)
    (accounts : List String) (draws : List Draw) (t : World) (s : State) (o : Op)
    (r : Except Error o.Ans) : Prop :=
  r = (perform encrypt (some master) o s).1 ∧ ∃ drawn m',
    drawn.map Draw.entropy = o.entropy?.toList ∧
      Agree encrypt master key accounts (drawn ++ draws) t
        (perform encrypt (some master) o s).2 m'

section
variable {encrypt : Bytes → Bytes → Bytes → Bytes} {master : Bytes} {env : Env} {key : String}
  {accounts : List String} {draws : List Draw} {w t : World} {s : State} {m : SecretMap}
  {es : List (Event (machine env))}

theorem Agree.same (agree : Agree encrypt master key accounts draws w s m) (same : Same w t) :
    Agree encrypt master key accounts draws t s m where
  account accountId := by rw [same.accounts]; exact agree.account accountId
  secrets := by rw [same.secrets]; exact agree.secrets
  vault := agree.vault

/-! ## One operation -/

theorem Agree.get (agree : Agree encrypt master key accounts draws w s m)
    (known : env.master = some key) (fresh : Fresh master (draws.map Draw.entropy))
    {accountId profile service : String} {r : Except Error (Option Json)}
    (path : Path ((Op.get accountId profile service).serve env) es (.done r))
    (spaced : Spaced w es t) :
    Alike encrypt master key accounts draws t s (.get accountId profile service) r := by
  have answered : r = .ok ((m (accountId, profile, service)).map Json.obj) ∧ Same w t := by
    simp only [Op.serve, getSecret, known, requireMaster, Prog.ofExcept_eq, Prog.bind_ok,
      Prog.bind_assoc] at path
    obtain ⟨u, v, a, rest, before, asked, later, spaced⟩ := Spaced.store_bind path spaced
    have asked : (_, u.db) = (a, v.db) := asked
    obtain ⟨rfl, unchanged⟩ := Prod.mk.inj asked
    have secrets := (agree.same before).secrets
    cases found : u.db.secrets.find? (accountId, profile, service) with
    | none =>
      simp only [found, Option.map_none, Prog.ofExcept_eq, Prog.bind_ok] at later
      obtain ⟨rfl, after⟩ := Spaced.done later spaced
      rw [secrets.absent _ found]
      exact ⟨rfl, before.trans (.trans ⟨by rw [unchanged], by rw [unchanged]⟩ after)⟩
    | some row =>
      obtain ⟨fields, held, seals⟩ := secrets.row _ row found
      simp only [found, Option.map_some, Prog.ofExcept_eq, Prog.bind_ok, seals.opens] at later
      obtain ⟨rfl, after⟩ := Spaced.done later spaced
      rw [held]
      exact ⟨rfl, before.trans (.trans ⟨by rw [unchanged], by rw [unchanged]⟩ after)⟩
  obtain ⟨rfl, same⟩ := answered
  have got := agree.vault.get fresh accountId profile service
  refine ⟨congrArg Prod.fst got.symm, [], m, rfl, ?_⟩
  have kept : (perform encrypt (some master) (.get accountId profile service) s).2 = s :=
    congrArg Prod.snd got
  rw [kept]
  exact agree.same same

/-- A `put` that could be written is refused for its account only. -/
theorem put_unknown {accountId profile service : String} {secret : JsonSecret} {entropy : Entropy}
    {now : Instant} (writable : (Op.put accountId profile service secret entropy now).Writable)
    (unknown : accountId ∉ s.accounts) :
    (Vault.put encrypt (some master) accountId profile service secret entropy now s).1 =
      .error foreignKeyFailed := by
  obtain ⟨fits, representable⟩ := writable
  obtain ⟨column, stored⟩ := stamp_isOk.mpr representable
  simp [Vault.put, sealSecret, Json.dumps, fits, stored, unknown]

theorem stored_cases {db db' : Db} (secrets : Maps (Seals key) db.secrets m)
    {accountId profile service : String} {fields : Secret} {drawn : Keyring.Entropy}
    {now : Instant} {r : Except Error Unit}
    (asked : transact (SecretOp.put accountId profile service
      (Keyring.sealSecret fields key drawn) now).run db = (r, db')) :
    ((db.accounts.find? accountId).isSome ∧ r = .ok () ∧ db'.accounts = db.accounts ∧
        Maps (Seals key) db'.secrets
          (Function.update m (accountId, profile, service) (some fields))) ∨
      (db.accounts.find? accountId).isSome = false ∧ r = .error foreignKeyFailed ∧ db' = db := by
  cases exist : db.accounts.find? accountId with
  | none =>
    have asked : (Except.error foreignKeyFailed, db) = (r, db') := by
      simpa [transact, SecretOp.run, StateT.run, exist] using asked
    obtain ⟨rfl, rfl⟩ := Prod.mk.inj asked
    exact .inr ⟨rfl, rfl, rfl⟩
  | some row =>
    simp only [transact, SecretOp.run, StateT.run, exist, Option.isNone_some, Bool.false_eq_true,
      if_false, Prod.mk.injEq] at asked
    obtain ⟨rfl, rfl⟩ := asked
    exact .inl ⟨rfl, rfl, rfl, secrets.upsert ⟨drawn, rfl⟩ _ _ fun old => ⟨drawn, rfl⟩⟩

theorem Agree.put (agree : Agree encrypt master key accounts draws w s m)
    (known : env.master = some key) {accountId profile service : String} {secret : JsonSecret}
    {entropy : Entropy} {now : Instant}
    (writable : (Op.put accountId profile service secret entropy now).Writable)
    {r : Except Error Unit}
    (path : Path ((Op.put accountId profile service secret entropy now).serve env) es (.done r))
    (spaced : Spaced w es t) :
    Alike encrypt master key accounts draws t s
      (.put accountId profile service secret entropy now) r := by
  simp only [Op.serve, putSecret, known, requireMaster, Prog.ofExcept_eq, Prog.bind_ok] at path
  obtain ⟨w₁, x₁, drawn, w₂, rest, first, done, path, spaced⟩ := Spaced.call path spaced
  cases done
  obtain ⟨w₃, x₂, read, w₄, rest, second, done, path, spaced⟩ := Spaced.call path spaced
  cases done
  obtain ⟨u, v, third, asked, after⟩ := Spaced.store path spaced
  have read : Same w₃ { w₃ with clock := x₂.now } := ⟨rfl, rfl⟩
  have agreed := agree.same (first.trans (second.trans (read.trans third)))
  have held := agree.vault.put accountId profile service secret entropy now
  rcases stored_cases agreed.secrets asked with
    ⟨exist, rfl, accounts', secrets⟩ | ⟨unknown, rfl, unchanged⟩
  · have accepted : Accepts accounts accountId secret now :=
      ⟨(agreed.account accountId).mp exist, writable⟩
    rw [SecretMap.step, if_pos accepted] at held
    refine ⟨?_, [⟨entropy, (Json.obj secret.fields).dumps.toOption⟩], _, rfl, Agree.same ⟨?_, secrets, held⟩ after⟩
    · rcases put_cases accountId profile service secret entropy now s with
        ⟨-, text, column, -, same⟩ | ⟨refused, -⟩
      · exact (congrArg Prod.fst same).symm
      · rw [agree.vault.accounts] at refused
        exact absurd accepted refused
    · intro accountId
      rw [accounts']
      exact agreed.account accountId
  · have missing : accountId ∉ accounts := by
      rw [← agreed.account accountId, unknown]
      exact Bool.false_ne_true
    rw [SecretMap.step, if_neg fun accepted : Accepts accounts accountId secret now =>
      missing accepted.1] at held
    refine ⟨(put_unknown writable (by rwa [agree.vault.accounts])).symm, [⟨entropy, (Json.obj secret.fields).dumps.toOption⟩], m,
      rfl, ?_⟩
    refine Agree.same ⟨?_, ?_, held⟩ after
    · rw [unchanged]
      exact agreed.account
    · rw [unchanged]
      exact agreed.secrets

theorem Agree.deleteWhere (agree : Agree encrypt master key accounts draws w s m)
    (hit : SecretRow → Bool) (hit' : VaultRow → Bool) (gone : Triple → Prop) [DecidablePred gone]
    (same : ∀ row, hit row = true ↔ gone row.key) (same' : ∀ row, hit' row = true ↔ gone row.key)
    (deleted : t.db.secrets = w.db.secrets.deleteWhere hit)
    (accounts' : t.db.accounts = w.db.accounts) :
    Agree encrypt master key accounts draws t
      { s with secrets := s.secrets.deleteWhere hit' } fun triple =>
        if gone triple then none else m triple where
  account accountId := by rw [accounts']; exact agree.account accountId
  secrets := by rw [deleted]; exact agree.secrets.deleteWhere same
  vault := agree.vault.deleteWhere hit' gone same'

theorem Agree.delete (agree : Agree encrypt master key accounts draws w s m)
    {accountId profile service : String} {r : Except Error Bool}
    (path : Path ((Op.delete accountId profile service).serve env) es (.done r))
    (spaced : Spaced w es t) :
    Alike encrypt master key accounts draws t s (.delete accountId profile service) r := by
  obtain ⟨u, v, before, asked, after⟩ := Spaced.store path spaced
  have agreed := agree.same before
  have asked : (Except.ok (u.db.secrets.find? (accountId, profile, service)).isSome, _) =
    (r, v.db) := asked
  obtain ⟨rfl, left⟩ := Prod.mk.inj asked
  refine ⟨?_, [], _, rfl, Agree.same (agreed.deleteWhere (·.key = (accountId, profile, service))
    (·.key = (accountId, profile, service)) (· = (accountId, profile, service)) ?_ ?_ ?_ ?_) after⟩
  · rw [agreed.secrets.isSome_find?, ← agree.vault.rows.isSome_find?]
    rfl
  · exact fun row => decide_eq_true_iff
  · exact fun row => decide_eq_true_iff
  · rw [← left]
  · rw [← left]

theorem Agree.deleteProfile (agree : Agree encrypt master key accounts draws w s m)
    {accountId profile : String} {r : Except Error Nat}
    (path : Path ((Op.deleteProfile accountId profile).serve env) es (.done r))
    (spaced : Spaced w es t) :
    Alike encrypt master key accounts draws t s (.deleteProfile accountId profile) r := by
  obtain ⟨u, v, before, asked, after⟩ := Spaced.store path spaced
  have agreed := agree.same before
  have asked : (Except.ok (u.db.secrets.countWhere fun row =>
      row.accountId = accountId && row.profileName = profile), _) = (r, v.db) := asked
  obtain ⟨rfl, left⟩ := Prod.mk.inj asked
  refine ⟨?_, [], _, rfl, Agree.same (agreed.deleteWhere
    (fun row => row.accountId = accountId && row.profileName = profile)
    (fun row => row.accountId = accountId && row.profileName = profile)
    (fun triple => triple.1 = accountId ∧ triple.2.1 = profile) ?_ ?_ ?_ ?_) after⟩
  · have counted := agreed.secrets.countWhere_eq agree.vault.rows
      (fun triple => triple.1 = accountId && triple.2.1 = profile) (fun row => rfl)
      (fun row => rfl)
    exact congrArg Except.ok counted
  · simp [SecretRow.key]
  · simp [VaultRow.key]
  · rw [← left]
  · rw [← left]

/-- One operation is answered alike. -/
theorem Agree.step (agree : Agree encrypt master key accounts draws w s m)
    (known : env.master = some key) (fresh : Fresh master (draws.map Draw.entropy)) {o : Op}
    (writable : o.Writable) {r : Except Error o.Ans}
    (path : Path (o.serve env) es (.done r)) (spaced : Spaced w es t) :
    Alike encrypt master key accounts draws t s o r := by
  cases o with
  | get accountId profile service => exact agree.get known fresh path spaced
  | put accountId profile service secret entropy now => exact agree.put known writable path spaced
  | delete accountId profile service => exact agree.delete path spaced
  | deleteProfile accountId profile => exact agree.deleteProfile path spaced

end

/-! ## Every sequence of operations -/

theorem Fresh.of_append {master : Bytes} {later drawn : List Entropy}
    (fresh : Fresh master (later ++ drawn)) : Fresh master drawn where
  nonces := by
    have all := fresh.nonces
    rw [List.flatMap_append] at all
    exact all.of_append_right
  keys := fresh.keys.sublist (((List.sublist_append_right later drawn).map _).cons_cons master)

theorem entropies_cons (o : Op) (ops : List Op) : ((o :: ops).filterMap Op.entropy?).reverse =
    (ops.filterMap Op.entropy?).reverse ++ o.entropy?.toList := by
  cases drawn : o.entropy? with
  | none => simp [drawn]
  | some entropy => simp [drawn]

theorem Agree.run {encrypt : Bytes → Bytes → Bytes → Bytes} {master : Bytes} {env : Env}
    {key : String} {accounts : List String} {draws : List Draw} {w t : World} {s : State}
    {m : SecretMap} {told : List Told} (agree : Agree encrypt master key accounts draws w s m)
    (known : env.master = some key) (served : Served env w told t)
    (fresh : Fresh master
      (((told.map Sigma.fst).filterMap Op.entropy?).reverse ++ draws.map Draw.entropy))
    (writable : ∀ one ∈ told, one.1.Writable) :
    told = answers encrypt (some master) (told.map Sigma.fst) s := by
  induction served generalizing draws s m with
  | nil w => rfl
  | @cons w t u o r es told path spaced rest ih =>
    have first : o.Writable := writable ⟨o, r⟩ List.mem_cons_self
    obtain ⟨same, drawn, m', entropies, agree⟩ :=
      agree.step known fresh.of_append first path spaced
    rw [List.map_cons, entropies_cons, List.append_assoc, ← entropies, ← List.map_append] at fresh
    have later := ih agree fresh fun one member => writable one (List.mem_cons_of_mem _ member)
    rw [List.map_cons, answers, ← later, ← same]

/-- The services are answered what the vault in bytes answers. -/
theorem served_alike (env : Env) (encrypt : Bytes → Bytes → Bytes → Bytes) (master : Bytes)
    (key : String) (known : env.master = some key) {w w' : World} {told : List Told}
    (nothing : w.db.secrets = .empty) (served : Served env w told w')
    (fresh : Fresh master ((told.map Sigma.fst).filterMap Op.entropy?))
    (writable : ∀ one ∈ told, one.1.Writable) :
    told = answers encrypt (some master) (told.map Sigma.fst)
      (State.empty (w.db.accounts.rows.map (·.accountId))) := by
  have agree : Agree encrypt master key (w.db.accounts.rows.map (·.accountId)) [] w
      (State.empty (w.db.accounts.rows.map (·.accountId))) fun _ => none :=
    ⟨fun accountId => Table.isSome_find?, by rw [nothing]; exact Maps.empty, Holds.empty⟩
  refine agree.run known served ?_ writable
  rw [List.map_nil, List.append_nil]
  exact fresh.reverse

theorem Served.played {env : Env} {w t : World} {o : Op} {r : Except Error o.Ans}
    (xs : List Input) {told : List Told} (played : (o.serve env).play xs w = some (r, t))
    (rest : ∃ u, Served env t told u) : ∃ u, Served env w (⟨o, r⟩ :: told) u := by
  have alone := Prog.play_alone played
  obtain ⟨u, rest⟩ := rest
  exact ⟨u, .cons alone.path (.of_linked alone.linked) rest⟩

/-! A secret of Bob's is stored, read and deleted with its profile. -/

theorem apiKey_proper : (Json.obj [("api_key", .str "k")]).Proper := by
  simp [Json.Proper, Json.ProperFields]

theorem empty_proper : (Json.obj []).Proper := by
  simp [Json.Proper, Json.ProperFields]

def bobKey : JsonSecret := ⟨[("api_key", .str "k")], apiKey_proper⟩

def carolKey : JsonSecret := ⟨[], empty_proper⟩

def bobTold : List Told :=
  [⟨.put "bob" "home" "spotify" bobKey firstEntropy 0, .ok ()⟩,
    ⟨.put "carol" "home" "spotify" carolKey secondEntropy 0, .error foreignKeyFailed⟩,
    ⟨.get "bob" "home" "spotify", .ok (some (.obj [("api_key", .str "k")]))⟩,
    ⟨.deleteProfile "bob" "home", .ok 1⟩,
    ⟨.delete "bob" "home" "spotify", .ok false⟩]

theorem bobTold_served : ∃ w, Served Scenario.deployment Scenario.office bobTold w := by
  let step := Scenario.given 0 ""
  refine Served.played [step, step, step] rfl ?_
  refine Served.played [step, step, step] rfl ?_
  refine Served.played [step] rfl ?_
  refine Served.played [step] rfl ?_
  exact Served.played [step] rfl ⟨_, .nil _⟩

theorem served_alike_bob :
    bobTold = answers aesGcm (some (filled 32 0)) (bobTold.map Sigma.fst)
      (State.empty ["alice", "bob"]) := by
  obtain ⟨w, served⟩ := bobTold_served
  refine served_alike Scenario.deployment aesGcm (filled 32 0) "master" rfl rfl served
    ⟨by decide, by decide⟩ ?_
  have fits : (Json.obj bobKey.fields).fitsDigits = true := by decide
  have fits' : (Json.obj carolKey.fields).fitsDigits = true := by decide
  have moment : Representable 0 := by decide
  intro one member
  fin_cases member
  · exact ⟨fits, moment⟩
  · exact ⟨fits', moment⟩
  all_goals trivial

end Keyring.Vault
