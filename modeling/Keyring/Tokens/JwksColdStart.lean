import Keyring.Tokens.JwksFetches
import Keyring.Tokens.JwksHistory

/-!
# Callers that find nothing share a fetch

When nothing fresh is held, the call that takes the lock first fetches, and the
others wait for it.  A call of `key_for` then looks again, and finds what was
fetched.  One of `healthy` does not look again, and fetches once more.
-/

set_option autoImplicit false

namespace Keyring

open Interleave

namespace JwksClient

variable {library : KeySets} {settings : JwksSettings}

/-! ## Cold starts -/

/-- The call that takes the lock first. -/
def firstTaker (tr : List (Event (machine library settings))) : Option Nat :=
  tr.findSome? fun e => match e.op with
    | .acquire => some e.thread
    | _ => none

/-- All calls have started when the first fetch ends, and it brings this key set. -/
def FirstFetch (calls : List Call) (keySet : library.KeySet) (asked : Int) (i : Nat)
    (early late : List (Event (machine library settings))) (s t : State library)
    (tr : List (Event (machine library settings))) : Prop :=
  tr = early ++ ⟨i, .keep keySet asked, (), s, t⟩ :: late ∧
    (∀ e ∈ early, ¬ Op.Keeps e.op ∧ e.op ≠ Op.fail) ∧ ∀ j < calls.length, ofThread j early ≠ []

/-- A run to its end of calls that find nothing fresh, with no failure that is recent,
whose first fetch succeeds and serves what they ask for, and outlives them. -/
structure ColdStart (settings : JwksSettings) (s₀ : State library) (calls : List Call)
    (keySet : library.KeySet) (asked : Int) (tr : List (Event (machine library settings)))
    (d : Config (machine library settings) VerifyError (Answer library)) : Prop where
  run : Run (callers library settings s₀ calls) tr d
  steady : ∀ e ∈ tr, State.clock e.before ≤ State.clock e.after
  stale : s₀.keys = none ∨ settings.cacheSeconds ≤ settings.age s₀.fetchedAt s₀.clock
  unfailed : ∀ failed, s₀.failedAt = some failed → settings.Apart failed s₀.clock
  ended : ∀ p ∈ d.pool, ∃ r, p = .done r
  first : ∃ i early late s t, FirstFetch calls keySet asked i early late s t tr
  served : ∀ kid, Call.keyFor kid ∈ calls → ∃ key, library.getItem keySet kid = some key
  young : ∀ e ∈ tr, settings.age asked (State.clock e.after) < settings.cacheSeconds

/-- The call answers as it does when this key set is held. -/
def Call.Succeeds (keySet : library.KeySet) :
    Call → Except VerifyError (Answer library) → Prop
  | .keyFor kid, r => ∃ key, library.getItem keySet kid = some key ∧ r = .ok (.key key)
  | .healthy, r => r = .ok (.health true none)

/-! ## Histories of cold callers -/

/-- What is told to a caller before anything was fetched. -/
def Cold (x : Said library) : Prop :=
  (∀ held, x ≠ ⟨.freshKeys, some held⟩) ∧ x ≠ ⟨.failedRecently, true⟩

theorem Refreshed.cold {story : List (Said library)} {r : Except VerifyError library.KeySet}
    (refreshed : Refreshed story r) (cold : ∀ x ∈ story, Cold x) :
    ∃ x ∈ story, x.1.Keeps ∨ x.1 = .fail := by
  cases refreshed with
  | refused => exact absurd rfl (cold ⟨.failedRecently, true⟩ (by simp)).2
  | failed asked response => exact ⟨⟨.fail, ()⟩, by simp, Or.inr rfl⟩
  | @fetched asked document keySet usable => exact ⟨⟨.keep keySet asked, ()⟩, by simp, Or.inl trivial⟩

/-- Who has found nothing, and ends, has fetched. -/
theorem Called.cold {call : Call} {story : List (Said library)}
    {r : Except VerifyError (Answer library)} (called : Called call story r)
    (cold : ∀ x ∈ story, Cold x) : ∃ x ∈ story, x.1.Keeps ∨ x.1 = .fail := by
  rcases called.refresh with ⟨-, held, found⟩ | ⟨front, rest, back, outcome, rfl, -, refreshed, -⟩
  · exact absurd rfl ((cold _ found).1 held)
  · obtain ⟨x, member, ends⟩ := refreshed.cold fun x member => cold x (by simp [member])
    exact ⟨x, by simp [member], ends⟩

theorem Called.begun {call : Call} {story : List (Said library)}
    {r : Except VerifyError (Answer library)} (called : Called call story r)
    (ends : ∃ x ∈ story, x.1.Keeps ∨ x.1 = .fail) : ∃ x ∈ story, ∃ asked, x = ⟨.begin, asked⟩ := by
  obtain ⟨x, member, ends⟩ := ends
  have step : x.1.Refreshes := by
    rcases ends with keeps | failing
    · cases held : x.1 <;> simp_all [Op.Keeps, Op.Refreshes]
    · rw [failing]
      trivial
  rcases called.refresh with ⟨aside, -⟩ | ⟨front, rest, back, outcome, rfl, before, refreshed, after, -⟩
  · exact absurd step (aside x member)
  · have inside := mem_refresh member step before after
    cases refreshed with
    | refused =>
        obtain rfl := List.mem_singleton.mp inside
        rcases ends with keeps | failing
        · exact keeps.elim
        · cases failing
    | failed asked response => exact ⟨⟨.begin, asked⟩, by simp, asked, rfl⟩
    | @fetched asked document keySet usable => exact ⟨⟨.begin, asked⟩, by simp, asked, rfl⟩

/-- A caller that has given the lock back has ended. -/
theorem Called.released {call : Call} {early late : List (Said library)}
    {r : Except VerifyError (Answer library)} (called : Called call (early ++ late) r)
    (released : (⟨.release, ()⟩ : Said library) ∈ early) : late = [] := by
  have never : ∀ (front : List (Said library)) (last : Said library),
      early ++ late = front ++ [last] → (⟨.release, ()⟩ : Said library) ∉ front → late = [] := by
    intro front last whole absent
    rcases List.eq_nil_or_concat late with nothing | ⟨late', x, rfl⟩
    · exact nothing
    · rw [List.concat_eq_append, ← List.append_assoc] at whole
      obtain ⟨rfl, -⟩ := List.append_inj' whole rfl
      exact absurd (List.mem_append_left _ released) absent
  rcases called.outline with ⟨held, whole⟩ | ⟨first, body, whole, within⟩
  · exact never [] _ whole (by simp)
  · refine never (⟨.freshKeys, first⟩ :: ⟨.acquire, ()⟩ :: body) ⟨.release, ()⟩
      (by simp [whole, locked]) ?_
    simp only [List.mem_cons, not_or]
    refine ⟨?_, ?_, fun inside => within _ inside⟩
    · rintro ⟨⟩
    · rintro ⟨⟩

theorem Called.waiting {call : Call} {early late : List (Said library)}
    {r : Except VerifyError (Answer library)} (called : Called call (early ++ late) r)
    (started : early ≠ []) (cold : ∀ x ∈ early, Cold x)
    (untaken : (⟨.acquire, ()⟩ : Said library) ∉ early) :
    ∃ body, early = [⟨.freshKeys, none⟩] ∧ late = ⟨.acquire, ()⟩ :: (body ++ [⟨.release, ()⟩]) := by
  obtain ⟨x, early, rfl⟩ := List.exists_cons_of_ne_nil started
  have looked := cold x (List.mem_cons_self ..)
  rcases called.outline with ⟨held, whole⟩ | ⟨first, body, whole, -⟩
  · obtain ⟨rfl, -⟩ := List.cons.inj whole
    exact absurd rfl (looked.1 held)
  · obtain ⟨rfl, rest⟩ := List.cons.inj whole
    have nothing : first = none := by
      cases first with
      | none => rfl
      | some held => exact absurd rfl (looked.1 held)
    subst nothing
    cases early with
    | nil => exact ⟨body, rfl, rest⟩
    | cons y early =>
        obtain ⟨rfl, -⟩ := List.cons.inj rest
        exact absurd (List.mem_cons_of_mem _ (List.mem_cons_self ..)) untaken

theorem locked_inj {first first' : Option library.KeySet} {body body' : List (Said library)}
    (same : locked first body = locked first' body') : body = body' := by
  simp only [locked, List.cons.injEq, List.append_cancel_right_eq] at same
  exact same.2.2

theorem Called.keyFor_section {kid : String} {first : Option library.KeySet}
    {body : List (Said library)} {r : Except VerifyError (Answer library)}
    (called : Called (.keyFor kid) (locked first body) r) :
    ∃ r', LookedAgain kid body r' ∧ r = answered kid r' := by
  generalize whole : locked first body = story at called
  cases called with
  | cached known => simp [locked] at whole
  | keyFor again =>
      obtain rfl := locked_inj whole
      exact ⟨_, again, rfl⟩

theorem Called.healthy_section {first : Option library.KeySet} {body : List (Said library)}
    {r : Except VerifyError (Answer library)} (called : Called .healthy (locked first body) r) :
    ∃ report, Checked body report := by
  generalize whole : locked first body = story at called
  cases called with
  | fresh held => simp [locked] at whole
  | healthy checked =>
      obtain rfl := locked_inj whole
      exact ⟨_, checked⟩

theorem LookedAgain.looked {kid : String} {body : List (Said library)}
    {r : Except VerifyError (library.Key ⊕ library.KeySet)} (again : LookedAgain kid body r) :
    ∃ held rest, body = ⟨.freshKeys, held⟩ :: rest ∧
      (inSet kid held = none ∨ (rest = [] ∧ ∃ key, inSet kid held = some key ∧ r = .ok (.inl key))) := by
  have lacks : ∀ {looks : List (Said library)} (rest : List (Said library)), Lacking kid looks →
      ∃ held more, looks ++ rest = ⟨.freshKeys, held⟩ :: more ∧ inSet kid held = none := by
    intro looks rest lacking
    cases lacking with
    | stale unknown => exact ⟨_, _, rfl, unknown⟩
    | claimed unknown => exact ⟨_, _, rfl, unknown⟩
  cases again with
  | @found held key known => exact ⟨some held, [], rfl, Or.inr ⟨rfl, key, known, rfl⟩⟩
  | @suppressed held fresh unknown => exact ⟨held, _, rfl, Or.inl unknown⟩
  | fetched lacking refreshed =>
      obtain ⟨held, more, whole, unknown⟩ := lacks _ lacking
      exact ⟨held, more, whole, Or.inl unknown⟩
  | stale lacking refreshed known =>
      rw [List.append_assoc]
      obtain ⟨held, more, whole, unknown⟩ := lacks _ lacking
      exact ⟨held, more, whole, Or.inl unknown⟩
  | unreachable held lacking refreshed =>
      rw [List.append_assoc]
      obtain ⟨held, more, whole, unknown⟩ := lacks _ lacking
      exact ⟨held, more, whole, Or.inl unknown⟩

/-- `healthy` fetches, unless it is refused. -/
theorem Checked.refused_or_begun {body : List (Said library)} {report : Bool × Option String}
    (checked : Checked body report) :
    (⟨.failedRecently, true⟩ : Said library) ∈ body ∨ ∃ asked, (⟨.begin, asked⟩ : Said library) ∈ body := by
  have refreshes : ∀ {rest : List (Said library)} {r : Except VerifyError library.KeySet},
      Refreshed rest r → (⟨.failedRecently, true⟩ : Said library) ∈ rest ∨
        ∃ asked, (⟨.begin, asked⟩ : Said library) ∈ rest := by
    intro rest r refreshed
    cases refreshed with
    | refused => exact Or.inl (by simp)
    | failed asked response => exact Or.inr ⟨asked, by simp⟩
    | @fetched asked document keySet usable => exact Or.inr ⟨asked, by simp⟩
  cases checked with
  | fetched refreshed => exact refreshes refreshed
  | stale held refreshed =>
      rcases refreshes refreshed with refused | ⟨asked, begun⟩
      · exact Or.inl (List.mem_append_left _ refused)
      · exact Or.inr ⟨asked, List.mem_append_left _ begun⟩

/-! ## The fetches that start -/

def Op.starts : Op library → Bool
  | .begin => true
  | _ => false

theorem note_fetches (g : Account) (e : Event (machine library settings)) :
    (g.note e).fetches.length = g.fetches.length + if Op.starts e.op then 1 else 0 := by
  obtain ⟨i, o, a, s, t⟩ := e
  cases o with
  | begin => simp [Account.note, Op.starts]
  | claimRefetchWindow => cases a <;> rfl
  | _ => rfl

theorem length_fetches (tr : List (Event (machine library settings))) :
    (fetches tr).length = (tr.filter fun e => Op.starts e.op).length := by
  have counted : ∀ g : Account, (tr.foldl Account.note g).fetches.length =
      g.fetches.length + (tr.filter fun e => Op.starts e.op).length := by
    induction tr with
    | nil => simp
    | cons e tr ih =>
        intro g
        rw [List.foldl_cons, ih, note_fetches]
        cases starts : Op.starts e.op with
        | true => simp [starts]; omega
        | false => simp [starts]
  simpa [fetches, Account.empty] using counted Account.empty

/-! ## Before the first fetch has ended -/

section FirstFetch

variable {s₀ : State library} {calls : List Call} {keySet : library.KeySet} {asked : Int}
  {tr early late : List (Event (machine library settings))} {j : Nat} {s t : State library}
  {d : Config (machine library settings) VerifyError (Answer library)}

namespace ColdStart

/-- Nothing has changed but the clock. -/
theorem unchanged (cold : ColdStart settings s₀ calls keySet asked tr d)
    (first : FirstFetch calls keySet asked j early late s t tr) :
    ∀ e ∈ early, State.keys e.before = s₀.keys ∧ State.fetchedAt e.before = s₀.fetchedAt ∧
      State.failedAt e.before = s₀.failedAt ∧ s₀.clock ≤ State.clock e.before := by
  obtain ⟨rfl, quiet, -⟩ := first
  obtain ⟨m, run, -⟩ := cold.run.before_of_split
  refine run.preserves_before (fun s => State.keys s = s₀.keys ∧ State.fetchedAt s = s₀.fetchedAt ∧
    State.failedAt s = s₀.failedAt ∧ s₀.clock ≤ State.clock s) ?_ ⟨rfl, rfl, rfl, le_refl _⟩
  rintro e member ⟨keys, fetchedAt, failedAt, clock⟩
  obtain ⟨x, done⟩ := run.exec_eq e member
  obtain ⟨keeps, failing⟩ := quiet e member
  have held := exec_keys done keeps
  exact ⟨held.1.trans keys, held.2.trans fetchedAt, (exec_failedAt done keeps failing).trans failedAt,
    clock.trans (cold.steady e (List.mem_append_left _ member))⟩

/-- So nothing is found, and no refresh is refused. -/
theorem cold_said (cold : ColdStart settings s₀ calls keySet asked tr d)
    (first : FirstFetch calls keySet asked j early late s t tr) :
    ∀ e ∈ early, Cold (spoken e) := by
  intro e member
  obtain ⟨keys, fetchedAt, failedAt, clock⟩ := cold.unchanged first e member
  have inside : e ∈ tr := first.1 ▸ List.mem_append_left _ member
  have steady := cold.steady e inside
  obtain ⟨x, done⟩ := cold.run.exec_eq e inside
  obtain ⟨i, o, a, s, t⟩ := e
  refine ⟨?_, ?_⟩
  · rintro held ⟨⟩
    have done : exec settings .freshKeys x s = some (some held, t) := done
    rcases State.younger_cases (Option.some.inj done) with ⟨-, impossible, -⟩ | ⟨ks, known, rfl, found⟩
    · cases impossible
    · rcases found with ⟨impossible, -⟩ | ⟨-, young⟩
      · cases impossible
      · rcases cold.stale with nothing | old
        · cases (known.symm.trans keys).trans nothing
        · have fetchedAt : State.fetchedAt s = s₀.fetchedAt := fetchedAt
          have now : s₀.clock ≤ Input.monotonic x := clock.trans steady
          rw [fetchedAt] at young
          exact absurd (old.trans (JwksSettings.age_mono le_rfl now)) (not_le.mpr young)
  · rintro ⟨⟩
    have done : exec settings .failedRecently x s = some (true, t) := done
    obtain ⟨refused, same⟩ := exec_failedRecently done
    obtain ⟨failed, known, recent⟩ := withinFloor_true refused.symm
    have past := cold.unfailed failed (failedAt.symm.trans known)
    have now : State.clock t = Input.monotonic x := congrArg State.clock same
    have later : s₀.clock ≤ Input.monotonic x := now ▸ clock.trans steady
    exact absurd (past.trans (JwksSettings.age_mono le_rfl later)) (not_le.mpr recent)

theorem run_first (cold : ColdStart settings s₀ calls keySet asked tr d)
    (first : FirstFetch calls keySet asked j early late s t tr) :
    Run (callers library settings s₀ calls)
      (early ++ ⟨j, .keep keySet asked, (), s, t⟩ :: late) d := by
  rw [← first.1]
  exact cold.run

theorem called (cold : ColdStart settings s₀ calls keySet asked tr d) {i : Nat} {call : Call}
    (known : calls[i]? = some call) : ∃ r, d.pool[i]? = some (.done r) ∧
      Called call (said (ofThread i tr)) r := by
  obtain ⟨q, here, -⟩ := cold.run.path i _ (callers_pool known)
  obtain ⟨r, rfl⟩ := cold.ended q (List.mem_of_getElem? here)
  exact ⟨r, here, history_ended cold.run known here⟩

theorem own_others (first : FirstFetch calls keySet asked j early late s t tr) {i : Nat}
    (other : i ≠ j) : ofThread i tr = ofThread i early ++ ofThread i late := by
  rw [first.1, ofThread_append]
  simp [ofThread, Ne.symm other]

theorem not_taken (cold : ColdStart settings s₀ calls keySet asked tr d)
    (first : FirstFetch calls keySet asked j early late s t tr) {i : Nat} {call : Call}
    (known : calls[i]? = some call) (other : i ≠ j) :
    (⟨.acquire, ()⟩ : Said library) ∉ said (ofThread i early) := by
  intro taken
  obtain ⟨r, -, called⟩ := cold.called known
  have own : said (ofThread i tr) = said (ofThread i early) ++ said (ofThread i late) := by
    rw [own_others first other, said_append]
  by_cases released : (⟨.release, ()⟩ : Said library) ∈ said (ofThread i early)
  · -- It has ended by then, and so has fetched, or failed to.
    rw [own] at called
    have nothing := called.released released
    rw [nothing, List.append_nil] at called
    obtain ⟨x, member, ends⟩ := called.cold fun x member => by
      obtain ⟨e, inside, rfl⟩ := List.mem_map.mp member
      exact cold.cold_said first e (mem_ofThread.mp inside).1
    obtain ⟨e, inside, rfl⟩ := List.mem_map.mp member
    have quiet := first.2.1 e (mem_ofThread.mp inside).1
    rcases ends with keeps | failing
    · exact quiet.1 keeps
    · exact quiet.2 failing
  · -- It holds the lock, while another keeps what it fetched.
    have holds : (lock library settings).Holds (ofThread i early) := by
      refine holds_of_said taken rfl fun y member gives => released ?_
      obtain ⟨o, a⟩ := y
      cases gives
      exact member
    exact other (Lock.inner_own (cold.run_first first) callers_sectioned trivial holds).symm

theorem waiting (cold : ColdStart settings s₀ calls keySet asked tr d)
    (first : FirstFetch calls keySet asked j early late s t tr) {i : Nat} {call : Call}
    (known : calls[i]? = some call) (other : i ≠ j) :
    ∃ r body, d.pool[i]? = some (.done r) ∧ Called call (locked none body) r ∧
      said (ofThread i early) = [⟨.freshKeys, none⟩] ∧
      said (ofThread i late) = ⟨.acquire, ()⟩ :: (body ++ [⟨.release, ()⟩]) := by
  obtain ⟨r, ended, called⟩ := cold.called known
  rw [own_others first other, said_append] at called
  have started : said (ofThread i early) ≠ [] := fun nothing =>
    first.2.2 i (List.getElem?_eq_some_iff.mp known).1 (List.map_eq_nil_iff.mp nothing)
  have told : ∀ x ∈ said (ofThread i early), Cold x := by
    intro x member
    obtain ⟨e, inside, rfl⟩ := List.mem_map.mp member
    exact cold.cold_said first e (mem_ofThread.mp inside).1
  obtain ⟨body, looked, rest⟩ := called.waiting started told (cold.not_taken first known other)
  rw [looked, rest] at called
  exact ⟨r, body, ended, called, looked, rest⟩

/-! ## Once the first fetch has ended -/

theorem own_first (first : FirstFetch calls keySet asked j early late s t tr) :
    said (ofThread j tr) =
      said (ofThread j early) ++ ⟨.keep keySet asked, ()⟩ :: said (ofThread j late) := by
  rw [first.1, ofThread_append, said_append]
  simp only [ofThread, decide_true, List.filter_cons_of_pos, said_cons]
  rfl

theorem fetcher (cold : ColdStart settings s₀ calls keySet asked tr d)
    (first : FirstFetch calls keySet asked j early late s t tr) :
    ∃ call front document, calls[j]? = some call ∧
      d.pool[j]? = some (.done (call.fetched keySet)) ∧ Aside front ∧
      said (ofThread j early) =
        front ++ [⟨.failedRecently, false⟩, ⟨.begin, asked⟩, ⟨.get, some document⟩] ∧
      said (ofThread j late) = [⟨.release, ()⟩] := by
  obtain ⟨call, known⟩ := call_of_step (cold.run_first first)
    (List.mem_append_right _ (List.mem_cons_self ..))
  obtain ⟨r, ended, called⟩ := cold.called known
  rw [own_first first] at called
  obtain ⟨front, document, aside, -, asking, closing, rfl⟩ := called.keep
  exact ⟨call, front, document, known, ended, aside, asking, closing⟩

/-- What the first fetch brought about holds until a later step changes it. -/
theorem since_first (cold : ColdStart settings s₀ calls keySet asked tr d)
    {mid rest : List (Event (machine library settings))} {e : Event (machine library settings)}
    (first : FirstFetch calls keySet asked j early (mid ++ e :: rest) s t tr)
    {P : State library → Prop}
    (start : ∀ s : State library, P { s with keys := some keySet, fetchedAt := asked, failedAt := none })
    (keeps : ∀ e ∈ mid, P e.before → P e.after) : P e.before := by
  obtain ⟨m, -, rest⟩ := (cold.run_first first).split
  obtain ⟨n, step, later⟩ := rest.cons_inv
  obtain ⟨x, done⟩ := step.exec_eq
  have after := step.after_eq
  have done : exec settings (.keep keySet asked) x s = some ((), t) := done
  cases done
  obtain ⟨m', between, here⟩ := later.before_of_split
  rw [← here]
  refine between.preserves P keeps ?_
  rw [← after]
  exact start s

theorem finds_first (cold : ColdStart settings s₀ calls keySet asked tr d)
    {mid rest : List (Event (machine library settings))} {i : Nat} {held : Option library.KeySet}
    {s' t' : State library}
    (first : FirstFetch calls keySet asked j early
      (mid ++ ⟨i, .freshKeys, held, s', t'⟩ :: rest) s t tr)
    (quiet : ∀ e ∈ mid, ¬ Op.Keeps e.op) : held = some keySet := by
  have run := cold.run_first first
  have known : s'.keys = some keySet ∧ s'.fetchedAt = asked := by
    refine cold.since_first (P := fun s => s.keys = some keySet ∧ s.fetchedAt = asked) first
      (fun s => ⟨rfl, rfl⟩) fun e member ⟨keys, fetchedAt⟩ => ?_
    obtain ⟨x, done⟩ := run.exec_eq e (by simp [member])
    have same := exec_keys done (quiet e member)
    exact ⟨same.1.trans keys, same.2.trans fetchedAt⟩
  have inside : ⟨i, .freshKeys, held, s', t'⟩ ∈ tr := by
    rw [first.1]
    simp
  have young := cold.young _ inside
  obtain ⟨x, done⟩ := cold.run.exec_eq _ inside
  have done : exec settings .freshKeys x s' = some (held, t') := done
  rcases State.younger_cases (Option.some.inj done) with ⟨nothing, -, -⟩ | ⟨ks, here, rfl, found⟩
  · cases known.1.symm.trans nothing
  · cases known.1.symm.trans here
    rcases found with ⟨-, old⟩ | ⟨same, -⟩
    · have aged : State.fetchedAt s' = asked := known.2
      rw [aged] at old
      exact absurd old (not_le.mpr young)
    · exact same

theorem not_refused (cold : ColdStart settings s₀ calls keySet asked tr d)
    {mid rest : List (Event (machine library settings))} {i : Nat} {recently : Bool}
    {s' t' : State library}
    (first : FirstFetch calls keySet asked j early
      (mid ++ ⟨i, .failedRecently, recently, s', t'⟩ :: rest) s t tr)
    (quiet : ∀ e ∈ mid, ¬ Op.Keeps e.op ∧ e.op ≠ Op.fail) : recently = false := by
  have run := cold.run_first first
  have known : s'.failedAt = none := by
    refine cold.since_first (P := fun s => s.failedAt = none) first (fun s => rfl)
      fun e member failedAt => ?_
    obtain ⟨x, done⟩ := run.exec_eq e (by simp [member])
    exact (exec_failedAt done (quiet e member).1 (quiet e member).2).trans failedAt
  obtain ⟨x, done⟩ := run.exec_eq ⟨i, .failedRecently, recently, s', t'⟩ (by simp)
  obtain ⟨answer, -⟩ := exec_failedRecently done
  rw [known] at answer
  exact answer

/-! ## One fetch -/

theorem said_own {es : List (Event (machine library settings))} {e : Event (machine library settings)}
    (member : e ∈ es) : spoken e ∈ said (ofThread e.thread es) :=
  List.mem_map_of_mem (mem_ofThread.mpr ⟨member, rfl⟩)

/-- Where a history begins to fetch, there is the step that does. -/
theorem starts_of_said {es : List (Event (machine library settings))} {i : Nat}
    (begun : (⟨.begin, asked⟩ : Said library) ∈ said (ofThread i es)) :
    ∃ b ∈ es, b.thread = i ∧ Op.starts b.op = true := by
  obtain ⟨b, recorded, spoke⟩ := List.mem_map.mp begun
  obtain ⟨member, mine⟩ := mem_ofThread.mp recorded
  have begins : b.op = Op.begin := congrArg Sigma.fst spoke
  refine ⟨b, member, mine, ?_⟩
  rw [begins]
  rfl

/-- Once it has fetched, the call that took the lock first gives it back and is done. -/
theorem fetcher_releases (cold : ColdStart settings s₀ calls keySet asked tr d)
    (first : FirstFetch calls keySet asked j early late s t tr)
    {e : Event (machine library settings)} (member : e ∈ late) (mine : e.thread = j) :
    e.op = Op.release := by
  obtain ⟨_, _, _, -, -, -, -, closing⟩ := cold.fetcher first
  have told := said_own member
  rw [mine, closing, List.mem_singleton] at told
  exact congrArg Sigma.fst told

theorem begun (cold : ColdStart settings s₀ calls keySet asked tr d)
    {e : Event (machine library settings)} (member : e ∈ tr)
    (ends : Op.Keeps e.op ∨ e.op = Op.fail) :
    ∃ b ∈ tr, b.thread = e.thread ∧ Op.starts b.op = true := by
  obtain ⟨call, known⟩ := call_of_step cold.run member
  obtain ⟨r, -, called⟩ := cold.called known
  obtain ⟨x, recorded, asked, rfl⟩ := called.begun ⟨spoken e, said_own member, ends⟩
  exact starts_of_said recorded

theorem quiet (cold : ColdStart settings s₀ calls keySet asked tr d)
    (first : FirstFetch calls keySet asked j early late s t tr)
    (alone : ∀ e ∈ tr, Op.starts e.op = true → e.thread = j) :
    ∀ e ∈ late, ¬ Op.Keeps e.op ∧ e.op ≠ Op.fail := by
  intro e member
  have inside : e ∈ tr := first.1 ▸ List.mem_append_right _ (List.mem_cons_of_mem _ member)
  have settled : ¬ (Op.Keeps e.op ∨ e.op = Op.fail) := by
    intro ends
    obtain ⟨b, begun, same, starts⟩ := cold.begun inside ends
    have mine : e.thread = j := same.symm.trans (alone b begun starts)
    rw [cold.fetcher_releases first member mine] at ends
    rcases ends with keeps | failing
    · exact keeps
    · cases failing
  exact not_or.mp settled

/-- A `healthy` that is alone in fetching has taken the lock first. -/
theorem healthy_first (cold : ColdStart settings s₀ calls keySet asked tr d)
    (first : FirstFetch calls keySet asked j early late s t tr)
    (alone : ∀ e ∈ tr, Op.starts e.op = true → e.thread = j) {i : Nat}
    (known : calls[i]? = some .healthy) : i = j := by
  by_contra other
  obtain ⟨r, body, -, called, -, own⟩ := cold.waiting first known other
  obtain ⟨report, checked⟩ := called.healthy_section
  have recorded : ∀ x ∈ body, ∃ e ∈ late, e.thread = i ∧ spoken e = x := by
    intro x member
    have inside : x ∈ said (ofThread i late) := by simp [own, member]
    obtain ⟨e, inside, spoke⟩ := List.mem_map.mp inside
    exact ⟨e, (mem_ofThread.mp inside).1, (mem_ofThread.mp inside).2, spoke⟩
  rcases checked.refused_or_begun with refused | ⟨asked', begun⟩
  · obtain ⟨⟨i', o, a, s', t'⟩, member, -, spoke⟩ := recorded _ refused
    cases spoke
    obtain ⟨mid, rest, rfl⟩ := List.append_of_mem member
    cases cold.not_refused first fun e earlier =>
      cold.quiet first alone e (List.mem_append_left _ earlier)
  · obtain ⟨⟨i', o, a, s', t'⟩, member, rfl, spoke⟩ := recorded _ begun
    cases spoke
    have inside : ⟨i', .begin, _, s', t'⟩ ∈ tr :=
      first.1 ▸ List.mem_append_right _ (List.mem_cons_of_mem _ member)
    exact other (alone _ inside rfl)

theorem begun_since (cold : ColdStart settings s₀ calls keySet asked tr d)
    {mid rest : List (Event (machine library settings))} {i : Nat} {keySet' : library.KeySet}
    {asked' : Int} {s' t' : State library}
    (first : FirstFetch calls keySet asked j early
      (mid ++ ⟨i, .keep keySet' asked', (), s', t'⟩ :: rest) s t tr)
    (other : i ≠ j) : ∃ b ∈ mid, b.thread = i ∧ Op.starts b.op = true := by
  have run := cold.run_first first
  have inside : ⟨i, .keep keySet' asked', (), s', t'⟩ ∈
      early ++ ⟨j, .keep keySet asked, (), s, t⟩ ::
        (mid ++ ⟨i, .keep keySet' asked', (), s', t'⟩ :: rest) := by simp
  obtain ⟨call, known⟩ := call_of_step run inside
  obtain ⟨_, _, -, -, looked, -⟩ := cold.waiting first known other
  have split : early ++ ⟨j, .keep keySet asked, (), s, t⟩ ::
      (mid ++ ⟨i, .keep keySet' asked', (), s', t'⟩ :: rest) =
      (early ++ ⟨j, .keep keySet asked, (), s, t⟩ :: mid) ++
        ⟨i, .keep keySet' asked', (), s', t'⟩ :: rest := by
    simp
  rw [split] at run
  obtain ⟨front, document, -, -, own⟩ := history_kept run
  have earlier : ofThread i (early ++ ⟨j, .keep keySet asked, (), s, t⟩ :: mid) =
      ofThread i early ++ ofThread i mid := by
    rw [ofThread_append]
    simp [ofThread, Ne.symm other]
  have begun : (⟨.begin, asked'⟩ : Said library) ∈ said (ofThread i early) ++ said (ofThread i mid) := by
    rw [← said_append, ← earlier, own]
    simp
  rw [looked] at begun
  rcases List.mem_append.mp begun with impossible | begun
  · cases List.mem_singleton.mp impossible
  · exact starts_of_said begun

/-- The look of another caller under the lock, while so far nobody else has begun to
fetch, finds what the first fetch has brought. -/
theorem finds_kept (cold : ColdStart settings s₀ calls keySet asked tr d)
    {mid rest : List (Event (machine library settings))} {i : Nat} {held : Option library.KeySet}
    {s' t' : State library}
    (first : FirstFetch calls keySet asked j early
      (mid ++ ⟨i, .freshKeys, held, s', t'⟩ :: rest) s t tr)
    (alone : ∀ e ∈ mid, Op.starts e.op = true → e.thread = j) : held = some keySet := by
  refine cold.finds_first first fun e member keeps => ?_
  by_cases mine : e.thread = j
  · rw [cold.fetcher_releases first (List.mem_append_left _ member) mine] at keeps
    exact keeps
  · obtain ⟨mid₁, mid₂, rfl⟩ := List.append_of_mem member
    rw [List.append_assoc] at first
    obtain ⟨i', o, a, s'', t''⟩ := e
    cases o with
    | keep keySet' asked' =>
        obtain ⟨b, earlier, same, starts⟩ := cold.begun_since first mine
        exact mine (same.symm.trans (alone b (List.mem_append_left _ earlier) starts))
    | _ => exact keeps

/-- Where the look under the lock was. -/
theorem look_at {i : Nat} {es : List (Event (machine library settings))}
    {held : Option library.KeySet} {more : List (Said library)}
    (own : said (ofThread i es) = ⟨.acquire, ()⟩ :: ⟨.freshKeys, held⟩ :: more) :
    ∃ mid rest s' t', es = mid ++ ⟨i, .freshKeys, held, s', t'⟩ :: rest := by
  obtain ⟨a, after, whole, -, looking⟩ := List.map_eq_cons_iff.mp own
  obtain ⟨l, later, rfl, spoke, -⟩ := List.map_eq_cons_iff.mp looking
  have mine := (mem_ofThread.mp (show l ∈ ofThread i es by rw [whole]; simp)).2
  obtain ⟨mid, rest, rfl, -, -⟩ := ofThread_at (show ofThread i es = [a] ++ l :: later from whole)
  obtain ⟨i', o, b, s', t'⟩ := l
  cases spoke
  cases mine
  exact ⟨mid, rest, s', t', rfl⟩

theorem serves (cold : ColdStart settings s₀ calls keySet asked tr d) {i : Nat} {kid : String}
    (known : calls[i]? = some (.keyFor kid)) : ∃ key, inSet kid (some keySet) = some key :=
  cold.served kid (List.mem_of_getElem? known)

theorem after_looks {x a l : Said library} {xs ys more : List (Said library)}
    (whole : xs ++ x :: ys = a :: l :: more) (first : x ≠ a) (second : x ≠ l) :
    ∃ more', xs = a :: l :: more' := by
  match xs with
  | [] =>
      obtain ⟨same, -⟩ := List.cons.inj whole
      exact absurd same first
  | [b] =>
      obtain ⟨-, rest⟩ := List.cons.inj whole
      obtain ⟨same, -⟩ := List.cons.inj rest
      exact absurd same second
  | b :: c :: more' =>
      obtain ⟨rfl, rest⟩ := List.cons.inj whole
      obtain ⟨rfl, -⟩ := List.cons.inj rest
      exact ⟨more', rfl⟩

/-- Of the others, the first to begin to fetch would be a `healthy`. -/
theorem alone_late (cold : ColdStart settings s₀ calls keySet asked tr d)
    (first : FirstFetch calls keySet asked j early late s t tr)
    (healthy : ∀ i, calls[i]? = some .healthy → i = j) :
    ∀ e ∈ late, Op.starts e.op = true → e.thread = j := by
  cases found : late.find? fun e => Op.starts e.op && e.thread ≠ j with
  | none =>
      intro e member starts
      have other := List.find?_eq_none.mp found e member
      simpa [starts] using other
  | some b =>
      obtain ⟨begins, before, after, rfl, none⟩ := List.find?_eq_some_iff_append.mp found
      simp only [Bool.and_eq_true, decide_eq_true_eq] at begins
      obtain ⟨starts, other⟩ := begins
      obtain ⟨call, known⟩ := call_of_step cold.run (first.1 ▸ by simp : b ∈ tr)
      obtain ⟨r, body, -, called, -, own⟩ := cold.waiting first known other
      cases call with
      | healthy => exact absurd (healthy _ known) other
      | keyFor kid =>
          obtain ⟨r', again, -⟩ := called.keyFor_section
          obtain ⟨held, rest, rfl, looked⟩ := again.looked
          have never : ∀ x : Said library, x.1.starts = false → spoken b ≠ x := by
            rintro x other rfl
            exact Bool.false_ne_true (other.symm.trans starts)
          have split : said (ofThread b.thread (before ++ b :: after)) =
              said (ofThread b.thread before) ++ spoken b :: said (ofThread b.thread after) := by
            rw [ofThread_append, said_append]
            simp only [ofThread, decide_true, List.filter_cons_of_pos, said_cons]
          rcases looked with unknown | ⟨rfl, -⟩
          · obtain ⟨more, earlier⟩ := after_looks (split.symm.trans own) (never _ rfl) (never _ rfl)
            obtain ⟨mid, rest', s', t', rfl⟩ := look_at earlier
            rw [List.append_assoc] at first
            have same := cold.finds_kept first fun e member starts => by
              simpa [starts] using none e (List.mem_append_left _ member)
            obtain ⟨key, served⟩ := cold.serves known
            rw [same, served] at unknown
            cases unknown
          · have member : spoken b ∈ said (ofThread b.thread (before ++ b :: after)) := by
              rw [split]
              simp
            rw [own] at member
            simp only [List.cons_append, List.nil_append, List.mem_cons, List.not_mem_nil,
              or_false] at member
            rcases member with same | same | same
            · exact absurd same (never _ rfl)
            · exact absurd same (never _ rfl)
            · exact absurd same (never _ rfl)

/-- Where every `healthy` has taken the lock first, only one call begins to fetch. -/
theorem alone (cold : ColdStart settings s₀ calls keySet asked tr d)
    (first : FirstFetch calls keySet asked j early late s t tr)
    (healthy : ∀ i, calls[i]? = some .healthy → i = j) :
    ∀ e ∈ tr, Op.starts e.op = true → e.thread = j := by
  intro e member starts
  obtain ⟨call, known⟩ := call_of_step cold.run member
  by_contra other
  obtain ⟨_, _, -, -, looked, -⟩ := cold.waiting first known other
  rw [first.1] at member
  rcases List.mem_append.mp member with before | after
  · have told := said_own before
    rw [looked, List.mem_singleton] at told
    have look : e.op = Op.freshKeys := congrArg Sigma.fst told
    rw [look] at starts
    cases starts
  · rcases List.mem_cons.mp after with rfl | after
    · cases starts
    · exact other (cold.alone_late first healthy e after starts)

theorem firstTaker_eq (cold : ColdStart settings s₀ calls keySet asked tr d)
    (first : FirstFetch calls keySet asked j early late s t tr) : firstTaker tr = some j := by
  have holds := (Lock.disciplined_of_sectioned (cold.run_first first) callers_sectioned).2 trivial
  obtain ⟨⟨a, taken, takes⟩, -⟩ := holds
  obtain ⟨member, mine⟩ := mem_ofThread.mp taken
  have takes : a.op = Op.acquire := takes
  have mine : a.thread = j := mine
  rw [firstTaker, first.1, List.findSome?_append]
  cases found : early.findSome? (fun e => match e.op with
      | .acquire => some e.thread
      | _ => none) with
  | none =>
      have missed := List.findSome?_eq_none_iff.mp found a member
      simp [takes] at missed
  | some i =>
      obtain ⟨e, inside, taker⟩ := List.exists_of_findSome?_eq_some found
      obtain ⟨call, known⟩ := call_of_step cold.run (first.1 ▸ List.mem_append_left _ inside : e ∈ tr)
      have told := said_own inside
      obtain ⟨i', o, b, s', t'⟩ := e
      cases o with
      | acquire =>
          cases taker
          by_contra other
          refine cold.not_taken first known ?_ told
          rintro rfl
          exact other rfl
      | _ => cases taker

theorem alone_of_one (cold : ColdStart settings s₀ calls keySet asked tr d)
    (first : FirstFetch calls keySet asked j early late s t tr) (once : (fetches tr).length = 1) :
    ∀ e ∈ tr, Op.starts e.op = true → e.thread = j := by
  rw [length_fetches, List.length_eq_one_iff] at once
  obtain ⟨b, only⟩ := once
  have same : ∀ e ∈ tr, Op.starts e.op = true → e = b := by
    intro e member starts
    have inside : e ∈ tr.filter fun e => Op.starts e.op := List.mem_filter.mpr ⟨member, starts⟩
    rw [only] at inside
    exact List.mem_singleton.mp inside
  obtain ⟨_, front, document, -, -, -, asking, -⟩ := cold.fetcher first
  have begun : (⟨.begin, asked⟩ : Said library) ∈ said (ofThread j early) := by simp [asking]
  obtain ⟨e, member, mine, starts⟩ := starts_of_said begun
  have here := same e (first.1 ▸ List.mem_append_left _ member) starts
  intro e' member' starts
  rw [same e' member' starts, ← here, mine]

theorem one_of_alone (cold : ColdStart settings s₀ calls keySet asked tr d)
    (first : FirstFetch calls keySet asked j early late s t tr)
    (alone : ∀ e ∈ tr, Op.starts e.op = true → e.thread = j) : (fetches tr).length = 1 := by
  have own : (tr.filter fun e => Op.starts e.op) = (ofThread j tr).filter fun e => Op.starts e.op := by
    rw [ofThread, List.filter_filter]
    refine List.filter_congr fun e member => ?_
    cases starts : Op.starts e.op with
    | false => simp
    | true => simp [alone e member starts]
  have counted : ((said (ofThread j tr)).filter fun x => x.1.starts).length =
      ((ofThread j tr).filter fun e => Op.starts e.op).length := by
    rw [said, List.filter_map, List.length_map]
    rfl
  obtain ⟨_, front, document, -, -, aside, asking, closing⟩ := cold.fetcher first
  have none : front.filter (fun x => x.1.starts) = [] := by
    refine List.filter_eq_nil_iff.mpr fun x member starts => aside x member ?_
    cases op : x.1 <;> simp_all [Op.starts, Op.Refreshes]
  rw [length_fetches, own, ← counted, own_first first, asking, closing]
  rw [List.filter_append, List.filter_append, none]
  rfl

theorem fetched_succeeds (cold : ColdStart settings s₀ calls keySet asked tr d) {i : Nat}
    {call : Call} (known : calls[i]? = some call) : call.Succeeds keySet (call.fetched keySet) := by
  cases call with
  | healthy => rfl
  | keyFor kid =>
      obtain ⟨key, served⟩ := cold.served kid (List.mem_of_getElem? known)
      exact ⟨key, served, by simp [Call.fetched, answered, served]⟩

/-- The callers that find it have it too. -/
theorem found_succeeds (cold : ColdStart settings s₀ calls keySet asked tr d)
    (first : FirstFetch calls keySet asked j early late s t tr)
    (alone : ∀ e ∈ tr, Op.starts e.op = true → e.thread = j) {i : Nat} {kid : String}
    (known : calls[i]? = some (.keyFor kid)) (other : i ≠ j) :
    ∃ r : Except VerifyError (Answer library), d.pool[i]? = some (Prog.done r) ∧
      (Call.keyFor kid).Succeeds keySet r := by
  obtain ⟨r, body, ended, called, -, own⟩ := cold.waiting first known other
  obtain ⟨r', again, rfl⟩ := called.keyFor_section
  obtain ⟨held, rest, rfl, looked⟩ := again.looked
  obtain ⟨mid, rest', s', t', rfl⟩ := look_at own
  have same := cold.finds_kept first fun e member starts =>
    alone e (first.1 ▸ by simp [member]) starts
  subst same
  refine ⟨_, ended, ?_⟩
  rcases looked with unknown | ⟨-, key, served, rfl⟩
  · obtain ⟨key, served⟩ := cold.serves known
    cases unknown.symm.trans served
  · exact ⟨key, served, rfl⟩

/-- The callers that find nothing fresh make one fetch between them and all succeed,
exactly when a `healthy` takes the lock before all others, if there is any. -/
theorem shared_fetch (cold : ColdStart settings s₀ calls keySet asked tr d) :
    ((fetches tr).length = 1 ∧ ∀ (i : Nat) (call : Call), calls[i]? = some call →
        ∃ r : Except VerifyError (Answer library), d.pool[i]? = some (Prog.done r) ∧
          call.Succeeds keySet r) ↔
      ∀ i, calls[i]? = some .healthy → firstTaker tr = some i := by
  obtain ⟨j, early, late, s, t, first⟩ := cold.first
  rw [cold.firstTaker_eq first]
  constructor
  · rintro ⟨once, -⟩ i known
    exact congrArg some (cold.healthy_first first (cold.alone_of_one first once) known).symm
  · intro healthy
    have alone := cold.alone first fun i known => (Option.some.inj (healthy i known)).symm
    refine ⟨cold.one_of_alone first alone, fun i call known => ?_⟩
    by_cases mine : i = j
    · subst mine
      obtain ⟨call', _, _, known', ended, -⟩ := cold.fetcher first
      cases known.symm.trans known'
      exact ⟨_, ended, cold.fetched_succeeds known⟩
    · cases call with
      | healthy => exact absurd (Option.some.inj (healthy i known)).symm mine
      | keyFor kid => exact cold.found_succeeds first alone known mine

end ColdStart

end FirstFetch

/-! ## A health check, and another caller -/

/-- A `healthy` fetches, and meanwhile another call has started. -/
def coldPair (second : Call) : Config (machine named hourly) VerifyError (Answer named) ×
    List (Event (machine named hourly)) :=
  (callers named hourly (State.new named 0) [.healthy, second]).play
    (List.replicate 4 (0, ⟨0, some published⟩) ++ [(1, ⟨0, some published⟩)] ++
      List.replicate 3 (0, ⟨0, some published⟩) ++ List.replicate 6 (1, ⟨0, some published⟩))

def hasEnded : Caller library settings (Answer library) → Bool
  | .done _ => true
  | .call _ _ => false

theorem hasEnded_iff {p : Caller library settings (Answer library)} (ended : hasEnded p = true) :
    ∃ r, p = .done r := by
  cases p with
  | done r => exact ⟨r, rfl⟩
  | call o next => cases ended

/-- The first fetch has ended with this step, for good or ill. -/
def Op.ends : Op library → Bool
  | .keep _ _ | .fail => true
  | _ => false

theorem Op.ends_false {o : Op library} (going : o.ends = false) : ¬ o.Keeps ∧ o ≠ .fail := by
  cases o with
  | keep keySet asked | fail => cases going
  | _ => exact ⟨id, by rintro ⟨⟩⟩

theorem coldPair_first (second : Call) (either : second = .healthy ∨ second = .keyFor "current") :
    ∃ i early late s t, FirstFetch [.healthy, second] ["current"] 0 i early late s t
      (coldPair second).2 := by
  have going : ∀ e ∈ (coldPair second).2.take 6, Op.ends e.op = false := by
    rcases either with rfl | rfl
    · decide
    · decide
  have started : ∀ j < 2, (ofThread j ((coldPair second).2.take 6)).length ≠ 0 := by
    rcases either with rfl | rfl
    · decide
    · decide
  refine ⟨0, (coldPair second).2.take 6, (coldPair second).2.drop 7, ⟨none, 0, none, none, true, 0⟩,
    ⟨some ["current"], 0, none, none, true, 0⟩, ?_, fun e member => Op.ends_false (going e member),
    fun j inside nothing => started j inside (congrArg List.length nothing)⟩
  rcases either with rfl | rfl
  · rfl
  · rfl

theorem coldPair_cold (second : Call) (either : second = .healthy ∨ second = .keyFor "current") :
    ColdStart hourly (State.new named 0) [.healthy, second] ["current"] 0 (coldPair second).2
      (coldPair second).1 where
  run := Config.play_run _ _
  steady := by
    rcases either with rfl | rfl
    · decide
    · decide
  stale := Or.inl rfl
  unfailed := by
    rintro failed ⟨⟩
  ended := by
    rcases either with rfl | rfl
    · have ended : ∀ p ∈ (coldPair .healthy).1.pool, hasEnded p = true := by decide
      exact fun p member => hasEnded_iff (ended p member)
    · have ended : ∀ p ∈ (coldPair (.keyFor "current")).1.pool, hasEnded p = true := by decide
      exact fun p member => hasEnded_iff (ended p member)
  first := coldPair_first second either
  served := by
    intro kid member
    rcases either with rfl | rfl
    · simp at member
    · simp only [List.mem_cons, reduceCtorEq, Call.keyFor.injEq, List.not_mem_nil, or_false,
        false_or] at member
      subst member
      exact ⟨"current", rfl⟩
  young := by
    rcases either with rfl | rfl
    · decide
    · decide

theorem shared_fetch_coldPair :
    (fetches (coldPair (.keyFor "current")).2).length = 1 ∧
      ∀ (i : Nat) (call : Call), [Call.healthy, .keyFor "current"][i]? = some call →
        ∃ r : Except VerifyError (Answer named),
          (coldPair (.keyFor "current")).1.pool[i]? = some (Prog.done r) ∧
            @Call.Succeeds named ["current"] call r := by
  refine (coldPair_cold (.keyFor "current") (Or.inr rfl)).shared_fetch.mpr fun i known => ?_
  match i with
  | 0 => decide
  | 1 => cases known
  | i + 2 => cases known

/-- Two health checks that find nothing fresh make two fetches. -/
theorem fetches_twice : ¬ ∀ (library : KeySets) (settings : JwksSettings) (s₀ : State library)
    (calls : List Call) (keySet : library.KeySet) (asked : Int)
    (tr : List (Event (machine library settings)))
    (d : Config (machine library settings) VerifyError (Answer library)),
    ColdStart settings s₀ calls keySet asked tr d → (fetches tr).length = 1 ∧
      ∀ (i : Nat) (call : Call), calls[i]? = some call →
        ∃ r : Except VerifyError (Answer library), d.pool[i]? = some (Prog.done r) ∧
          call.Succeeds keySet r := by
  intro claimed
  have once := (claimed named hourly _ _ _ _ _ _ (coldPair_cold .healthy (Or.inl rfl))).1
  revert once
  decide

end JwksClient

end Keyring
