import Keyring.Tokens.Jwks

/-!
# What the callers of the client do

Each call, from its start to its end, as the operations it performs with their
answers.  Of a caller that has not ended they are a beginning.
-/

set_option autoImplicit false

namespace Keyring

open Interleave

namespace JwksClient

variable {library : KeySets} {settings : JwksSettings}

/-- An operation and its answer. -/
abbrev Said (library : KeySets) := (o : Op library) × o.Ans

def spoken (e : Event (machine library settings)) : Said library := ⟨e.op, e.ans⟩

def said (es : List (Event (machine library settings))) : List (Said library) :=
  es.map spoken

@[simp] theorem said_nil : said ([] : List (Event (machine library settings))) = [] := rfl

@[simp] theorem said_cons (e : Event (machine library settings))
    (es : List (Event (machine library settings))) : said (e :: es) = spoken e :: said es := rfl

@[simp] theorem said_append (es es' : List (Event (machine library settings))) :
    said (es ++ es') = said es ++ said es' := List.map_append

/-! ## Histories -/

/-- A refresh is refused, or its fetch fails or brings a key set. -/
inductive Refreshed : List (Said library) → Except VerifyError library.KeySet → Prop where
  | refused : Refreshed [⟨.failedRecently, true⟩] (.error unreachable)
  | failed (asked : Int) (response : Option Json) :
      Refreshed [⟨.failedRecently, false⟩, ⟨.begin, asked⟩, ⟨.get, response⟩, ⟨.fail, ()⟩]
        (.error unreachable)
  | fetched {asked : Int} {document : Json} {keySet : library.KeySet}
      (usable : keySetOf document = .ok keySet) :
      Refreshed [⟨.failedRecently, false⟩, ⟨.begin, asked⟩, ⟨.get, some document⟩,
        ⟨.keep keySet asked, ()⟩] (.ok keySet)

def inSet (kid : String) (held : Option library.KeySet) : Option library.Key :=
  held.bind (library.getItem · kid)

/-- Why a caller goes on to refresh. -/
inductive Lacking (kid : String) : List (Said library) → Prop where
  | stale {held : Option library.KeySet} (unknown : inSet kid held = none) :
      Lacking kid [⟨.freshKeys, held⟩, ⟨.freshKeys, none⟩]
  | claimed {held : Option library.KeySet} {fresh : library.KeySet}
      (unknown : inSet kid held = none) :
      Lacking kid [⟨.freshKeys, held⟩, ⟨.freshKeys, some fresh⟩, ⟨.claimRefetchWindow, true⟩]

inductive LookedAgain (kid : String) :
    List (Said library) → Except VerifyError (library.Key ⊕ library.KeySet) → Prop where
  | found {held : library.KeySet} {key : library.Key} (known : library.getItem held kid = some key) :
      LookedAgain kid [⟨.freshKeys, some held⟩] (.ok (.inl key))
  | suppressed {held : Option library.KeySet} (fresh : library.KeySet)
      (unknown : inSet kid held = none) :
      LookedAgain kid [⟨.freshKeys, held⟩, ⟨.freshKeys, some fresh⟩, ⟨.claimRefetchWindow, false⟩]
        (.error (.authentication TokenVerifier.badToken))
  | fetched {looks rest : List (Said library)} {keySet : library.KeySet}
      (lacking : Lacking kid looks) (refreshed : Refreshed rest (.ok keySet)) :
      LookedAgain kid (looks ++ rest) (.ok (.inr keySet))
  | stale {looks rest : List (Said library)} {e : VerifyError} {held : library.KeySet}
      {key : library.Key} (lacking : Lacking kid looks) (refreshed : Refreshed rest (.error e))
      (known : library.getItem held kid = some key) :
      LookedAgain kid (looks ++ rest ++ [⟨.usableStaleKeys, some held⟩]) (.ok (.inl key))
  | unreachable {looks rest : List (Said library)} {e : VerifyError} (held : Option library.KeySet)
      (lacking : Lacking kid looks) (refreshed : Refreshed rest (.error e)) :
      LookedAgain kid (looks ++ rest ++ [⟨.usableStaleKeys, held⟩]) (.error e)

def staleReport (held : Option library.KeySet) : Bool × Option String :=
  if held.isSome then (true, some keysStale) else (false, some keysUnavailable)

/-- What `healthy` does under the lock. -/
inductive Checked : List (Said library) → Bool × Option String → Prop where
  | fetched {rest : List (Said library)} {keySet : library.KeySet}
      (refreshed : Refreshed rest (.ok keySet)) : Checked rest (true, none)
  | stale {rest : List (Said library)} {e : VerifyError} (held : Option library.KeySet)
      (refreshed : Refreshed rest (.error e)) :
      Checked (rest ++ [⟨.usableStaleKeys, held⟩]) (staleReport held)

/-- What comes of what was found under the lock. -/
def answered (kid : String) : Except VerifyError (library.Key ⊕ library.KeySet) →
    Except VerifyError (Answer library)
  | .error e => .error e
  | .ok (.inl key) => .ok (.key key)
  | .ok (.inr fetched) => match library.getItem fetched kid with
      | none => .error (.authentication TokenVerifier.badToken)
      | some key => .ok (.key key)

/-- A section, with what a caller does before it. -/
def locked (first : Option library.KeySet) (body : List (Said library)) : List (Said library) :=
  ⟨.freshKeys, first⟩ :: ⟨.acquire, ()⟩ :: (body ++ [⟨.release, ()⟩])

inductive Called : Call → List (Said library) → Except VerifyError (Answer library) → Prop where
  | cached {kid : String} {held : library.KeySet} {key : library.Key}
      (known : library.getItem held kid = some key) :
      Called (.keyFor kid) [⟨.freshKeys, some held⟩] (.ok (.key key))
  | keyFor {kid : String} {first : Option library.KeySet} {body : List (Said library)}
      {r : Except VerifyError (library.Key ⊕ library.KeySet)} (again : LookedAgain kid body r) :
      Called (.keyFor kid) (locked first body) (answered kid r)
  | fresh (held : library.KeySet) : Called .healthy [⟨.freshKeys, some held⟩] (.ok (.health true none))
  | healthy {body : List (Said library)} {report : Bool × Option String}
      (checked : Checked body report) :
      Called .healthy (locked none body) (.ok (.health report.1 report.2))

/-! ## Each method's history -/

section Histories

variable {α : Type} {es : List (Event (machine library settings))}

theorem ask_done {o : Op library} {f : o.Ans → Caller library settings α}
    {r : Except VerifyError α} (path : Path (ask o >>= f) es (.done r)) :
    ∃ a rest, said es = ⟨o, a⟩ :: said rest ∧ Path (f a) rest (.done r) := by
  obtain ⟨i, a, s, t, rest, rfl, later⟩ := Path.call_done path
  exact ⟨a, rest, rfl, later⟩

theorem returned_done {r r' : Except VerifyError α}
    (path : Path (.done r : Caller library settings α) es (.done r')) : said es = [] ∧ r' = r := by
  obtain ⟨rfl, same⟩ := path.done_inv
  cases same
  exact ⟨rfl, rfl⟩

theorem get_done {r : Except VerifyError Json}
    (path : Path (get : Caller library settings Json) es (.done r)) :
    (said es = [⟨.get, none⟩] ∧ r = .error unreachable) ∨
      ∃ document, said es = [⟨.get, some document⟩] ∧ r = .ok document := by
  obtain ⟨response, rest, answered, ended⟩ := ask_done path
  cases response with
  | none =>
      obtain ⟨nothing, rfl⟩ := returned_done ended
      exact Or.inl ⟨by rw [answered, nothing], rfl⟩
  | some document =>
      obtain ⟨nothing, rfl⟩ := returned_done ended
      exact Or.inr ⟨document, by rw [answered, nothing], rfl⟩

theorem fetch_done {r : Except VerifyError library.KeySet}
    (path : Path (fetch : Caller library settings library.KeySet) es (.done r)) :
    (∃ asked response, said es = [⟨.begin, asked⟩, ⟨.get, response⟩] ∧ r = .error unreachable) ∨
      ∃ asked document keySet, keySetOf document = .ok keySet ∧ r = .ok keySet ∧
        said es = [⟨.begin, asked⟩, ⟨.get, some document⟩, ⟨.keep keySet asked, ()⟩] := by
  obtain ⟨asked, rest, beginning, getting⟩ := ask_done path
  rcases getting.bind_done with ⟨e, failed, rfl⟩ | ⟨document, es₁, es₂, rfl, got, reading⟩
  · rcases get_done failed with ⟨answered, same⟩ | ⟨document, -, impossible⟩
    · cases same
      exact Or.inl ⟨asked, none, by rw [beginning, answered], rfl⟩
    · cases impossible
  · rcases get_done got with ⟨-, impossible⟩ | ⟨_, answered, same⟩
    · cases impossible
    · cases same
      cases usable : (keySetOf document : Except VerifyError library.KeySet) with
      | error e =>
          rw [usable] at reading
          obtain ⟨nothing, rfl⟩ := returned_done (α := library.KeySet) reading
          rw [keySetOf_error usable]
          exact Or.inl ⟨asked, some document, by simp [beginning, answered, nothing], rfl⟩
      | ok keySet =>
          rw [usable] at reading
          obtain ⟨⟨⟩, rest, keeping, ended⟩ := ask_done (o := .keep keySet asked) reading
          obtain ⟨nothing, rfl⟩ := returned_done ended
          exact Or.inr ⟨asked, document, keySet, usable, rfl,
            by simp [beginning, answered, keeping, nothing]⟩

theorem refresh_done {r : Except VerifyError library.KeySet}
    (path : Path (refresh : Caller library settings library.KeySet) es (.done r)) :
    Refreshed (said es) r := by
  obtain ⟨recently, rest, floor, going⟩ := ask_done path
  cases recently with
  | true =>
      obtain ⟨nothing, rfl⟩ := returned_done (α := library.KeySet) going
      rw [floor, nothing]
      exact .refused
  | false =>
      rcases Path.tryCatch_done going with ⟨keySet, rfl, fetched⟩ | ⟨e, es₁, es₂, rfl, failed, handling⟩
      · rcases fetch_done fetched with ⟨_, _, _, impossible⟩ | ⟨asked, document, _, usable, same, saying⟩
        · cases impossible
        · cases same
          rw [floor, saying]
          exact .fetched usable
      · rcases fetch_done failed with ⟨asked, response, saying, same⟩ | ⟨_, _, _, _, impossible, _⟩
        · cases same
          obtain ⟨⟨⟩, rest, failing, ended⟩ := ask_done (o := .fail) handling
          obtain ⟨nothing, rfl⟩ := returned_done (α := library.KeySet) ended
          simp only [floor, said_append, saying, failing, nothing]
          exact .failed asked response
        · cases impossible

/-- Nothing else goes wrong in a refresh. -/
theorem Refreshed.error_eq {story : List (Said library)} {e : VerifyError}
    (refreshed : Refreshed story (.error e)) : e = unreachable := by
  cases refreshed <;> rfl

theorem cached_done {kid : String} {r : Except VerifyError (Option library.Key)}
    (path : Path (cached kid : Caller library settings _) es (.done r)) :
    ∃ held, said es = [⟨.freshKeys, held⟩] ∧ r = .ok (inSet kid held) := by
  obtain ⟨held, rest, looking, ended⟩ := ask_done path
  obtain ⟨nothing, rfl⟩ := returned_done ended
  exact ⟨held, by rw [looking, nothing], rfl⟩

theorem staleKey_done {kid : String} {r : Except VerifyError (Option library.Key)}
    (path : Path (staleKey kid : Caller library settings _) es (.done r)) :
    ∃ held, said es = [⟨.usableStaleKeys, held⟩] ∧ r = .ok (inSet kid held) := by
  obtain ⟨held, rest, looking, ended⟩ := ask_done path
  obtain ⟨nothing, rfl⟩ := returned_done ended
  exact ⟨held, by rw [looking, nothing], rfl⟩

theorem inSet_some {kid : String} {held : Option library.KeySet} {key : library.Key}
    (known : inSet kid held = some key) :
    ∃ keySet, held = some keySet ∧ library.getItem keySet kid = some key :=
  Option.bind_eq_some_iff.mp known

theorem refreshing_done {f : library.KeySet → α} {r : Except VerifyError α}
    (path : Path (do return f (← refresh) : Caller library settings α) es (.done r)) :
    (∃ keySet, Refreshed (said es) (.ok keySet) ∧ r = .ok (f keySet)) ∨
      (Refreshed (said es) (.error unreachable) ∧ r = .error unreachable) := by
  rcases path.bind_done with ⟨e, failed, rfl⟩ | ⟨keySet, es₁, es₂, rfl, refreshed, ended⟩
  · have refreshed := refresh_done failed
    obtain rfl := refreshed.error_eq
    exact Or.inr ⟨refreshed, rfl⟩
  · obtain ⟨nothing, rfl⟩ := returned_done ended
    rw [said_append, nothing, List.append_nil]
    exact Or.inl ⟨keySet, refresh_done refreshed, rfl⟩

theorem refreshOrStale_done {kid : String} {r : Except VerifyError (library.Key ⊕ library.KeySet)}
    (path : Path (refreshOrStale kid : Caller library settings _) es (.done r)) :
    (∃ keySet, Refreshed (said es) (.ok keySet) ∧ r = .ok (.inr keySet)) ∨
      ∃ (story : List (Said library)) (held : Option library.KeySet),
        Refreshed story (.error unreachable) ∧ said es = story ++ [⟨.usableStaleKeys, held⟩] ∧
          ((∃ key, inSet kid held = some key ∧ r = .ok (.inl key)) ∨ r = .error unreachable) := by
  rcases Path.tryCatch_done path with ⟨found, rfl, refreshing⟩ | ⟨e, es₁, es₂, rfl, failed, handling⟩
  · rcases refreshing_done refreshing with ⟨keySet, refreshed, same⟩ | ⟨-, impossible⟩
    · exact Or.inl ⟨keySet, refreshed, same⟩
    · cases impossible
  · rcases refreshing_done failed with ⟨keySet, -, impossible⟩ | ⟨refreshed, same⟩
    · cases impossible
    · cases same
      refine Or.inr ?_
      rcases Path.bind_done handling with ⟨e', looking, -⟩ | ⟨stale, es₃, es₄, rfl, looking, ended⟩
      · obtain ⟨held, -, impossible⟩ := staleKey_done looking
        cases impossible
      · obtain ⟨held, looked, same⟩ := staleKey_done looking
        cases same
        refine ⟨said es₁, held, refreshed, ?_⟩
        cases known : inSet kid held with
        | none =>
            rw [known] at ended
            obtain ⟨nothing, rfl⟩ := returned_done ended
            exact ⟨by simp [looked, nothing], Or.inr rfl⟩
        | some key =>
            rw [known] at ended
            obtain ⟨nothing, rfl⟩ := returned_done ended
            exact ⟨by simp [looked, nothing], Or.inl ⟨key, rfl, rfl⟩⟩

theorem Lacking.lookedAgain {kid : String} {looks : List (Said library)}
    {r : Except VerifyError (library.Key ⊕ library.KeySet)} (lacking : Lacking kid looks)
    (path : Path (refreshOrStale kid : Caller library settings _) es (.done r)) :
    LookedAgain kid (looks ++ said es) r := by
  rcases refreshOrStale_done path with ⟨keySet, fetched, rfl⟩ | ⟨story, held, failed, same, ended⟩
  · exact .fetched lacking fetched
  · rw [same, ← List.append_assoc]
    rcases ended with ⟨key, known, rfl⟩ | rfl
    · obtain ⟨keySet, rfl, known⟩ := inSet_some known
      exact .stale lacking failed known
    · exact .unreachable held lacking failed

theorem claimRefetchWindow_done {r : Except VerifyError Unit}
    (path : Path (claimRefetchWindow : Caller library settings Unit) es (.done r)) :
    (said es = [⟨.claimRefetchWindow, true⟩] ∧ r = .ok ()) ∨
      (said es = [⟨.claimRefetchWindow, false⟩] ∧
        r = .error (.authentication TokenVerifier.badToken)) := by
  obtain ⟨taken, rest, claiming, ended⟩ := ask_done path
  cases taken with
  | true =>
      obtain ⟨nothing, rfl⟩ := returned_done (α := Unit) ended
      exact Or.inl ⟨by rw [claiming, nothing], rfl⟩
  | false =>
      obtain ⟨nothing, rfl⟩ := returned_done (α := Unit) ended
      exact Or.inr ⟨by rw [claiming, nothing], rfl⟩

theorem lookAgain_done {kid : String} {r : Except VerifyError (library.Key ⊕ library.KeySet)}
    (path : Path (lookAgain kid : Caller library settings _) es (.done r)) :
    LookedAgain kid (said es) r := by
  rcases path.bind_done with ⟨e, looking, -⟩ | ⟨found, es₁, es₂, rfl, looking, going⟩
  · obtain ⟨held, -, impossible⟩ := cached_done looking
    cases impossible
  · obtain ⟨held, looked, same⟩ := cached_done looking
    cases same
    cases known : inSet kid held with
    | some key =>
        rw [known] at going
        obtain ⟨nothing, rfl⟩ := returned_done going
        obtain ⟨keySet, rfl, known⟩ := inSet_some known
        simp only [said_append, looked, nothing, List.append_nil]
        exact .found known
    | none =>
        rw [known] at going
        obtain ⟨fresh, rest, again, going⟩ := ask_done (o := .freshKeys) going
        rw [said_append, looked, again]
        cases fresh with
        | none => exact (Lacking.stale known).lookedAgain going
        | some fresh =>
            rcases Path.bind_done (p := claimRefetchWindow) going with
              ⟨e, refused, rfl⟩ | ⟨⟨⟩, es₃, es₄, rfl, claimed, going⟩
            · rcases claimRefetchWindow_done refused with ⟨-, impossible⟩ | ⟨claiming, same⟩
              · cases impossible
              · cases same
                rw [claiming]
                exact .suppressed fresh known
            · rcases claimRefetchWindow_done claimed with ⟨claiming, -⟩ | ⟨-, impossible⟩
              · rw [said_append, claiming]
                exact (Lacking.claimed known).lookedAgain going
              · cases impossible

/-- A section, from the lock that is taken to the lock that is given back. -/
theorem withLock_done {body : Caller library settings α} {r : Except VerifyError α}
    (path : Path (withLock body) es (.done r)) :
    ∃ es', Path body es' (.done r) ∧
      said es = ⟨.acquire, ()⟩ :: (said es' ++ [⟨.release, ()⟩]) := by
  obtain ⟨⟨⟩, rest, taking, going⟩ := ask_done path
  obtain ⟨es', i, ⟨⟩, s, t, rfl, inside⟩ := Path.finallyDo_done going
  exact ⟨es', inside, by rw [taking, said_append]; rfl⟩

theorem keyFor_done {kid : String} {r : Except VerifyError library.Key}
    (path : Path (keyFor kid : Caller library settings _) es (.done r)) :
    (∃ held key, said es = [⟨.freshKeys, some held⟩] ∧ library.getItem held kid = some key ∧
        r = .ok key) ∨
      ∃ first body r', LookedAgain kid body r' ∧ said es = locked first body ∧
        r.map .key = answered kid r' := by
  rcases path.bind_done with ⟨e, looking, -⟩ | ⟨found, es₁, es₂, rfl, looking, going⟩
  · obtain ⟨held, -, impossible⟩ := cached_done looking
    cases impossible
  · obtain ⟨held, looked, same⟩ := cached_done looking
    cases same
    cases known : inSet kid held with
    | some key =>
        rw [known] at going
        obtain ⟨nothing, rfl⟩ := returned_done going
        obtain ⟨keySet, rfl, known⟩ := inSet_some known
        exact Or.inl ⟨keySet, key, by simp [looked, nothing], known, rfl⟩
    | none =>
        rw [known] at going
        refine Or.inr ⟨held, ?_⟩
        rcases Path.bind_done (p := withLock (lookAgain kid)) going with
          ⟨e, failed, rfl⟩ | ⟨outcome, es₃, es₄, rfl, inside, ended⟩
        · obtain ⟨es', again, within⟩ := withLock_done failed
          exact ⟨said es', _, lookAgain_done again, by simp [looked, within, locked], rfl⟩
        · obtain ⟨es', again, within⟩ := withLock_done inside
          refine ⟨said es', _, lookAgain_done again, ?_⟩
          cases outcome with
          | inl key =>
              obtain ⟨nothing, rfl⟩ := returned_done ended
              exact ⟨by simp [looked, within, nothing, locked], rfl⟩
          | inr fetched =>
              simp only [answered]
              cases served : library.getItem fetched kid with
              | none =>
                  simp only [served] at ended
                  obtain ⟨nothing, rfl⟩ := returned_done ended
                  exact ⟨by simp [looked, within, nothing, locked], rfl⟩
              | some key =>
                  simp only [served] at ended
                  obtain ⟨nothing, rfl⟩ := returned_done ended
                  exact ⟨by simp [looked, within, nothing, locked], rfl⟩

theorem staleHealth_done {r : Except VerifyError (Bool × Option String)}
    (path : Path (staleHealth : Caller library settings _) es (.done r)) :
    ∃ held, said es = [⟨.usableStaleKeys, held⟩] ∧ r = .ok (staleReport held) := by
  obtain ⟨held, rest, looking, ended⟩ := ask_done path
  cases held with
  | none =>
      obtain ⟨nothing, rfl⟩ := returned_done ended
      exact ⟨none, by rw [looking, nothing], rfl⟩
  | some keySet =>
      obtain ⟨nothing, rfl⟩ := returned_done ended
      exact ⟨some keySet, by rw [looking, nothing], rfl⟩

theorem checking_done {r : Except VerifyError (Bool × Option String)}
    (path : Path (tryCatchThe VerifyError
      (do let _ ← refresh; return (true, none) : Caller library settings (Bool × Option String))
      fun _ => staleHealth) es (.done r)) : ∃ report, r = .ok report ∧ Checked (said es) report := by
  rcases path.tryCatch_done with ⟨report, rfl, refreshing⟩ | ⟨e, es₁, es₂, rfl, failed, handling⟩
  · rcases refreshing_done refreshing with ⟨keySet, refreshed, same⟩ | ⟨-, impossible⟩
    · cases same
      exact ⟨_, rfl, .fetched refreshed⟩
    · cases impossible
  · rcases refreshing_done failed with ⟨keySet, -, impossible⟩ | ⟨refreshed, -⟩
    · cases impossible
    · obtain ⟨held, looked, rfl⟩ := staleHealth_done handling
      rw [said_append, looked]
      exact ⟨_, rfl, .stale held refreshed⟩

theorem healthy_done {r : Except VerifyError (Bool × Option String)}
    (path : Path (healthy : Caller library settings _) es (.done r)) :
    (∃ held, said es = [⟨.freshKeys, some held⟩] ∧ r = .ok (true, none)) ∨
      ∃ body report, Checked body report ∧ said es = locked none body ∧ r = .ok report := by
  obtain ⟨held, rest, looking, going⟩ := ask_done path
  cases held with
  | some keySet =>
      obtain ⟨nothing, rfl⟩ := returned_done going
      exact Or.inl ⟨keySet, by rw [looking, nothing], rfl⟩
  | none =>
      obtain ⟨es', inside, within⟩ := withLock_done going
      obtain ⟨report, rfl, checked⟩ := checking_done inside
      exact Or.inr ⟨said es', report, checked, by simp [looking, within, locked], rfl⟩

theorem program_done {call : Call} {r : Except VerifyError (Answer library)}
    (path : Path (call.program : Caller library settings _) es (.done r)) :
    Called call (said es) r := by
  cases call with
  | keyFor kid =>
      rcases path.bind_done with ⟨e, failed, rfl⟩ | ⟨key, es₁, es₂, rfl, found, ended⟩
      · rcases keyFor_done failed with ⟨_, _, _, _, impossible⟩ | ⟨first, body, r', again, same, result⟩
        · cases impossible
        · have result : Except.error e = answered kid r' := result
          rw [same, result]
          exact .keyFor again
      · obtain ⟨nothing, rfl⟩ := returned_done ended
        rw [said_append, nothing, List.append_nil]
        rcases keyFor_done found with ⟨held, _, looked, known, same⟩ | ⟨first, body, r', again, same, result⟩
        · cases same
          rw [looked]
          exact .cached known
        · have result : Except.ok (Answer.key key) = answered kid r' := result
          rw [same, result]
          exact .keyFor again
  | healthy =>
      rcases path.bind_done with ⟨e, failed, rfl⟩ | ⟨report, es₁, es₂, rfl, found, ended⟩
      · rcases healthy_done failed with ⟨_, _, impossible⟩ | ⟨_, _, _, _, impossible⟩
        · cases impossible
        · cases impossible
      · obtain ⟨nothing, rfl⟩ := returned_done ended
        rw [said_append, nothing, List.append_nil]
        rcases healthy_done found with ⟨held, looked, same⟩ | ⟨body, _, checked, within, same⟩
        · cases same
          rw [looked]
          exact .fresh held
        · cases same
          rw [within]
          exact .healthy checked

end Histories

/-! ## The section in a history -/

/-- What is done under the lock. -/
def Op.Inside : Op library → Prop
  | .acquire | .release => False
  | _ => True

def Within (story : List (Said library)) : Prop := ∀ x ∈ story, x.1.Inside

@[simp] theorem within_cons {x : Said library} {story : List (Said library)} :
    Within (x :: story) ↔ x.1.Inside ∧ Within story := List.forall_mem_cons

@[simp] theorem within_nil : Within ([] : List (Said library)) := by simp [Within]

@[simp] theorem within_append {story story' : List (Said library)} :
    Within (story ++ story') ↔ Within story ∧ Within story' := List.forall_mem_append

theorem Lacking.within {kid : String} {looks : List (Said library)} (lacking : Lacking kid looks) :
    Within looks := by
  cases lacking <;> simp [Op.Inside]

theorem Refreshed.within {story : List (Said library)} {r : Except VerifyError library.KeySet}
    (refreshed : Refreshed story r) : Within story := by
  cases refreshed <;> simp [Op.Inside]

theorem LookedAgain.within {kid : String} {body : List (Said library)}
    {r : Except VerifyError (library.Key ⊕ library.KeySet)} (again : LookedAgain kid body r) :
    Within body := by
  cases again with
  | found known => simp [Op.Inside]
  | suppressed fresh unknown => simp [Op.Inside]
  | fetched lacking refreshed => simp [lacking.within, refreshed.within]
  | stale lacking refreshed known => simp [lacking.within, refreshed.within, Op.Inside]
  | unreachable held lacking refreshed => simp [lacking.within, refreshed.within, Op.Inside]

theorem Checked.within {body : List (Said library)} {report : Bool × Option String}
    (checked : Checked body report) : Within body := by
  cases checked with
  | fetched refreshed => exact refreshed.within
  | stale held refreshed => simp [refreshed.within, Op.Inside]

/-- A call has found something before its section, or has ended it. -/
theorem Called.outline {call : Call} {story : List (Said library)}
    {r : Except VerifyError (Answer library)} (called : Called call story r) :
    (∃ held, story = [⟨.freshKeys, some held⟩]) ∨
      ∃ first body, story = locked first body ∧ Within body := by
  cases called with
  | @cached _ held => exact Or.inl ⟨held, rfl⟩
  | fresh held => exact Or.inl ⟨held, rfl⟩
  | keyFor again => exact Or.inr ⟨_, _, rfl, again.within⟩
  | healthy checked => exact Or.inr ⟨_, _, rfl, checked.within⟩

/-! ## The refresh in a history -/

/-- The steps of a refresh. -/
def Op.Refreshes : Op library → Prop
  | .failedRecently | .begin | .get | .keep _ _ | .fail => True
  | _ => False

def Aside (story : List (Said library)) : Prop := ∀ x ∈ story, ¬ x.1.Refreshes

@[simp] theorem aside_nil : Aside ([] : List (Said library)) := by simp [Aside]

@[simp] theorem aside_cons {x : Said library} {story : List (Said library)} :
    Aside (x :: story) ↔ ¬ x.1.Refreshes ∧ Aside story := List.forall_mem_cons

@[simp] theorem aside_append {story story' : List (Said library)} :
    Aside (story ++ story') ↔ Aside story ∧ Aside story' := List.forall_mem_append

theorem Lacking.aside {kid : String} {looks : List (Said library)} (lacking : Lacking kid looks) :
    Aside looks := by
  cases lacking <;> simp [Op.Refreshes]

def Call.fetched (keySet : library.KeySet) : Call → Except VerifyError (Answer library)
  | .keyFor kid => answered kid (.ok (.inr keySet))
  | .healthy => .ok (.health true none)

theorem Called.refresh {call : Call} {story : List (Said library)}
    {r : Except VerifyError (Answer library)} (called : Called call story r) :
    (Aside story ∧ ∃ held, ⟨.freshKeys, some held⟩ ∈ story) ∨ ∃ front rest back outcome, story = front ++ (rest ++ back) ∧ Aside front ∧
      Refreshed rest outcome ∧ Aside back ∧
      ∀ keySet, outcome = .ok keySet → back = [⟨.release, ()⟩] ∧ r = call.fetched keySet := by
  cases called with
  | @cached _ held _ known => exact Or.inl ⟨by simp [Op.Refreshes], held, by simp⟩
  | fresh held => exact Or.inl ⟨by simp [Op.Refreshes], held, by simp⟩
  | @keyFor kid first body outcome again =>
      cases again with
      | @found held _ known => exact Or.inl ⟨by simp [locked, Op.Refreshes], held, by simp [locked]⟩
      | suppressed fresh unknown =>
          exact Or.inl ⟨by simp [locked, Op.Refreshes], fresh, by simp [locked]⟩
      | @fetched looks rest keySet lacking refreshed =>
          refine Or.inr ⟨⟨.freshKeys, first⟩ :: ⟨.acquire, ()⟩ :: looks, rest, [⟨.release, ()⟩], _,
            by simp [locked], by simp [Op.Refreshes, lacking.aside], refreshed,
            by simp [Op.Refreshes], ?_⟩
          rintro _ ⟨⟩
          exact ⟨rfl, rfl⟩
      | @stale looks rest e held key lacking refreshed known =>
          refine Or.inr ⟨⟨.freshKeys, first⟩ :: ⟨.acquire, ()⟩ :: looks, rest,
            [⟨.usableStaleKeys, some held⟩, ⟨.release, ()⟩], _, by simp [locked],
            by simp [Op.Refreshes, lacking.aside], refreshed, by simp [Op.Refreshes], ?_⟩
          rintro _ ⟨⟩
      | @unreachable looks rest e held lacking refreshed =>
          refine Or.inr ⟨⟨.freshKeys, first⟩ :: ⟨.acquire, ()⟩ :: looks, rest,
            [⟨.usableStaleKeys, held⟩, ⟨.release, ()⟩], _, by simp [locked],
            by simp [Op.Refreshes, lacking.aside], refreshed, by simp [Op.Refreshes], ?_⟩
          rintro _ ⟨⟩
  | healthy checked =>
      cases checked with
      | @fetched _ keySet refreshed =>
          refine Or.inr ⟨[⟨.freshKeys, none⟩, ⟨.acquire, ()⟩], _, [⟨.release, ()⟩], _,
            by simp [locked], by simp [Op.Refreshes], refreshed, by simp [Op.Refreshes], ?_⟩
          rintro _ ⟨⟩
          exact ⟨rfl, rfl⟩
      | @stale rest e held refreshed =>
          refine Or.inr ⟨[⟨.freshKeys, none⟩, ⟨.acquire, ()⟩], rest,
            [⟨.usableStaleKeys, held⟩, ⟨.release, ()⟩], _, by simp [locked],
            by simp [Op.Refreshes], refreshed, by simp [Op.Refreshes], ?_⟩
          rintro _ ⟨⟩

theorem mem_refresh {front rest back : List (Said library)} {x : Said library}
    (member : x ∈ front ++ (rest ++ back)) (step : x.1.Refreshes) (before : Aside front)
    (after : Aside back) : x ∈ rest := by
  rcases List.mem_append.mp member with early | later
  · exact absurd step (before x early)
  · rcases List.mem_append.mp later with inside | late
    · exact inside
    · exact absurd step (after x late)

/-- A key set that is kept is the one that was asked for just before, and the lock is
given back. -/
theorem Called.keep {call : Call} {early late : List (Said library)} {keySet : library.KeySet}
    {asked : Int} {r : Except VerifyError (Answer library)}
    (called : Called call (early ++ ⟨.keep keySet asked, ()⟩ :: late) r) :
    ∃ front document, Aside front ∧ keySetOf document = .ok keySet ∧
      early = front ++ [⟨.failedRecently, false⟩, ⟨.begin, asked⟩, ⟨.get, some document⟩] ∧
      late = [⟨.release, ()⟩] ∧ r = call.fetched keySet := by
  rcases called.refresh with
    ⟨aside, -⟩ | ⟨front, rest, back, outcome, split, before, refreshed, after, ends⟩
  · exact absurd trivial (aside ⟨.keep keySet asked, ()⟩ (by simp))
  · have kept : (⟨.keep keySet asked, ()⟩ : Said library) ∈ front ++ (rest ++ back) := by
      rw [← split]
      simp
    have inside := mem_refresh kept trivial before after
    cases refreshed with
    | refused => cases List.mem_singleton.mp inside
    | failed asked' response =>
        simp only [List.mem_cons, List.not_mem_nil, or_false] at inside
        rcases inside with same | same | same | same <;> cases same
    | @fetched asked' document keySet' usable =>
        obtain ⟨rfl, rfl⟩ := ends keySet' rfl
        have outside : (⟨.keep keySet asked, ()⟩ : Said library) ∉
            front ++ [⟨.failedRecently, false⟩, ⟨.begin, asked'⟩, ⟨.get, some document⟩] := by
          simp only [List.mem_append, List.mem_cons, List.not_mem_nil, or_false]
          rintro (early | same | same | same)
          · exact before _ early trivial
          · cases same
          · cases same
          · cases same
        have same : (front ++ [⟨.failedRecently, false⟩, ⟨.begin, asked'⟩, ⟨.get, some document⟩]) ++
            (⟨.keep keySet' asked', ()⟩ : Said library) :: [⟨.release, ()⟩] =
            early ++ ⟨.keep keySet asked, ()⟩ :: late := by
          rw [split]
          simp
        have last : (⟨.keep keySet asked, ()⟩ : Said library) ∉ [⟨.release, ()⟩] := by
          intro member
          cases List.mem_singleton.mp member
        obtain ⟨rfl, kept, rfl⟩ := (List.append_cons_inj_of_notMem outside last).mp same
        cases kept
        exact ⟨front, document, before, usable, rfl, rfl, rfl⟩

/-! ## One section each -/

section Sections

theorem refresh_uses : (refresh : Caller library settings library.KeySet).Uses Op.Inside := by
  refine ⟨trivial, fun recently => ?_⟩
  cases recently with
  | true => trivial
  | false =>
      refine Prog.Uses.tryCatch ⟨trivial, fun asked => ⟨trivial, fun response => ?_⟩⟩ fun e => ?_
      · cases response with
        | none => trivial
        | some document =>
            refine Prog.Uses.bind (p := Prog.ofExcept (keySetOf document)) trivial fun keySet => ?_
            exact ⟨trivial, fun _ => trivial⟩
      · cases e with
        | keyringUnreachable message => exact ⟨trivial, fun _ => trivial⟩
        | authentication message | raised error => trivial

theorem lookAgain_uses (kid : String) :
    (lookAgain kid : Caller library settings _).Uses Op.Inside := by
  have refreshing : (refreshOrStale kid : Caller library settings _).Uses Op.Inside := by
    refine Prog.Uses.tryCatch (refresh_uses.bind fun _ => trivial) fun e => ?_
    cases e with
    | keyringUnreachable message =>
        refine Prog.Uses.bind (p := staleKey kid) ⟨trivial, fun _ => trivial⟩ fun stale => ?_
        cases stale <;> trivial
    | authentication message | raised error => trivial
  refine Prog.Uses.bind (p := cached kid) ⟨trivial, fun _ => trivial⟩ fun found => ?_
  cases found with
  | some key => trivial
  | none =>
      refine ⟨trivial, fun held => ?_⟩
      cases held with
      | none => exact refreshing
      | some fresh =>
          refine Prog.Uses.bind (p := claimRefetchWindow) ⟨trivial, fun taken => ?_⟩ fun _ => refreshing
          cases taken <;> trivial

theorem withLock_sectioned {α : Type} {body : Caller library settings α}
    (uses : body.Uses Op.Inside) :
    (withLock body).Sectioned (lock library settings) Op.Keeps .before := by
  refine ⟨by rintro ⟨⟩, id, Or.inl ⟨rfl, fun _ => ?_⟩⟩
  refine Prog.Sectioned.finallyDo (by rintro ⟨⟩) rfl (uses.mono fun o inside => ?_)
  refine ⟨?_, ?_⟩
  · rintro rfl
    exact inside
  · rintro rfl
    exact inside

/-- A key set is kept while the lock is held, by each call once at most. -/
theorem program_sectioned (call : Call) :
    (call.program : Caller library settings _).Sectioned (lock library settings) Op.Keeps .before := by
  have reads : ∀ o : Op library, o = .freshKeys → ¬ (lock library settings).takes o ∧
      ¬ (lock library settings).gives o ∧ ¬ o.Keeps := by
    rintro o rfl
    exact ⟨by rintro ⟨⟩, by rintro ⟨⟩, id⟩
  have cached_reads : ∀ kid, (cached kid : Caller library settings _).Uses
      fun o : Op library => o = .freshKeys := fun kid => ⟨rfl, fun _ => trivial⟩
  cases call with
  | keyFor kid =>
      refine Prog.Sectioned.bind_done (p := JwksClient.keyFor kid) ?_ fun key => ⟨_, rfl⟩
      refine Prog.Sectioned.bind_uses ((cached_reads kid).mono reads) fun found => ?_
      cases found with
      | some key => trivial
      | none =>
          refine (withLock_sectioned (lookAgain_uses kid)).bind_done fun outcome => ?_
          cases outcome with
          | inl key => exact ⟨_, rfl⟩
          | inr fetched =>
              dsimp only
              split
              · exact ⟨_, rfl⟩
              · exact ⟨_, rfl⟩
  | healthy =>
      refine Prog.Sectioned.bind_done (p := JwksClient.healthy) ?_ fun report => ⟨_, rfl⟩
      have looks := reads .freshKeys rfl
      refine ⟨looks.2.1, looks.2.2, Or.inr ⟨looks.1, fun held => ?_⟩⟩
      cases held with
      | some fresh => trivial
      | none =>
          refine withLock_sectioned (Prog.Uses.tryCatch (refresh_uses.bind fun _ => trivial) fun e => ?_)
          refine ⟨trivial, fun held => ?_⟩
          cases held <;> trivial

end Sections

/-! ## Runs of both methods -/

/-- The calls, and the client they share. -/
def callers (library : KeySets) (settings : JwksSettings) (s : State library) (calls : List Call) :
    Config (machine library settings) VerifyError (Answer library) :=
  ⟨s, calls.map Call.program⟩

instance : Nonempty (machine library settings).State := ⟨State.new library 0⟩

instance (o : (machine library settings).Op) : Nonempty ((machine library settings).Ans o) :=
  match o with
  | .freshKeys | .usableStaleKeys | .get => ⟨none⟩
  | .acquire | .release | .keep _ _ | .fail => ⟨()⟩
  | .claimRefetchWindow | .failedRecently => ⟨true⟩
  | .begin => ⟨(0 : Int)⟩

section Runs

variable {s₀ : State library} {calls : List Call} {tr : List (Event (machine library settings))}
  {d : Config (machine library settings) VerifyError (Answer library)}

theorem callers_sectioned : ∀ p ∈ (callers library settings s₀ calls).pool,
    p.Sectioned (lock library settings) Op.Keeps .before := by
  intro p member
  obtain ⟨call, -, rfl⟩ := List.mem_map.mp member
  exact program_sectioned call

theorem callers_pool {i : Nat} {call : Call} (called : calls[i]? = some call) :
    (callers library settings s₀ calls).pool[i]? = some call.program := by
  simp [callers, called]

theorem call_of_step (run : Run (callers library settings s₀ calls) tr d)
    {e : Event (machine library settings)} (member : e ∈ tr) :
    ∃ call, calls[e.thread]? = some call := by
  have inside := run.thread_lt e member
  simp only [callers, List.length_map] at inside
  exact ⟨_, List.getElem?_eq_getElem inside⟩

theorem holds_of_said {es : List (Event (machine library settings))} {x : Said library}
    (taken : x ∈ said es) (takes : x.1 = Op.acquire)
    (kept : ∀ y ∈ said es, y.1 ≠ Op.release) :
    (lock library settings).Holds es := by
  obtain ⟨e, member, rfl⟩ := List.mem_map.mp taken
  exact ⟨⟨e, member, takes⟩, fun e member => kept (spoken e) (List.mem_map_of_mem member)⟩

theorem history_ended {i : Nat} {call : Call} {r : Except VerifyError (Answer library)}
    (run : Run (callers library settings s₀ calls) tr d) (called : calls[i]? = some call)
    (ended : d.pool[i]? = some (.done r)) : Called call (said (ofThread i tr)) r := by
  obtain ⟨q, here, path⟩ := run.path i _ (callers_pool called)
  rw [ended] at here
  cases here
  exact program_done path

theorem history_kept {early late : List (Event (machine library settings))} {i : Nat}
    {keySet : library.KeySet} {asked : Int} {s t : State library}
    (run : Run (callers library settings s₀ calls)
      (early ++ ⟨i, .keep keySet asked, (), s, t⟩ :: late) d) :
    ∃ front document, Aside front ∧ keySetOf document = .ok keySet ∧
      said (ofThread i early) =
        front ++ [⟨.failedRecently, false⟩, ⟨.begin, asked⟩, ⟨.get, some document⟩] := by
  obtain ⟨call, known⟩ := call_of_step run (List.mem_append_right _ (List.mem_cons_self ..))
  obtain ⟨q, -, path⟩ := run.path i _ (callers_pool known)
  obtain ⟨es, r, path⟩ := path.exists_done
  have called := program_done path
  simp only [ofThread_append, said_append, List.append_assoc] at called
  have own : said (ofThread i (⟨i, .keep keySet asked, (), s, t⟩ :: late)) =
      ⟨.keep keySet asked, ()⟩ :: said (ofThread i late) := by
    simp only [ofThread, decide_true, List.filter_cons_of_pos, said_cons]
    rfl
  rw [own, List.cons_append] at called
  obtain ⟨front, document, aside, usable, same, -, -⟩ := called.keep
  exact ⟨front, document, aside, usable, same⟩

theorem held_kept {keySet : library.KeySet} (run : Run (callers library settings s₀ calls) tr d)
    (held : State.keys d.state = some keySet) :
    (s₀.keys = some keySet ∧ s₀.fetchedAt = State.fetchedAt d.state ∧ ∀ e ∈ tr, ¬ Op.Keeps e.op) ∨
      ∃ early i s t late, tr = early ++ ⟨i, .keep keySet (State.fetchedAt d.state), (), s, t⟩ :: late ∧
        ∀ e ∈ late, ¬ Op.Keeps e.op := by
  have each : ∀ e ∈ tr,
      (State.keys e.after = some keySet ∧ State.fetchedAt e.after = State.fetchedAt d.state) →
      ((State.keys e.before = some keySet ∧ State.fetchedAt e.before = State.fetchedAt d.state) ∧
          ¬ Op.Keeps e.op) ∨
        ∃ i s t, e = ⟨i, .keep keySet (State.fetchedAt d.state), (), s, t⟩ := by
    rintro ⟨i, o, a, s, t⟩ member ⟨after, since⟩
    obtain ⟨x, done⟩ := run.exec_eq _ member
    have done : exec settings o x s = some (a, t) := done
    by_cases keeps : o.Keeps
    · cases o with
      | keep keySet' asked =>
          cases done
          cases after
          cases since
          exact Or.inr ⟨i, s, _, rfl⟩
      | _ => exact keeps.elim
    · obtain ⟨keys, fetchedAt⟩ := exec_keys done keeps
      exact Or.inl ⟨⟨keys.symm.trans after, fetchedAt.symm.trans since⟩, keeps⟩
  have here : State.keys d.state = some keySet ∧ State.fetchedAt d.state = State.fetchedAt d.state :=
    ⟨held, rfl⟩
  rcases Run.last_of (P := fun s => State.keys s = some keySet ∧
      State.fetchedAt s = State.fetchedAt d.state) run each here with
    ⟨start, quiet⟩ | ⟨early, e, late, rfl, ⟨i, s, t, rfl⟩, quiet⟩
  · exact Or.inl ⟨start.1, start.2, quiet⟩
  · exact Or.inr ⟨early, i, s, t, late, rfl, quiet⟩

/-- The floor is that of a fetch that failed, or stands from the start. -/
theorem failedAt_failed {failed : Int} (run : Run (callers library settings s₀ calls) tr d)
    (known : State.failedAt d.state = some failed) :
    s₀.failedAt = some failed ∨
      ∃ (i : Nat) (s t : State library), ⟨i, .fail, (), s, t⟩ ∈ tr ∧ t.clock = failed := by
  have each : ∀ e ∈ tr, State.failedAt e.after = some failed →
      (State.failedAt e.before = some failed ∧ True) ∨
        ∃ (i : Nat) (s t : State library), e = ⟨i, .fail, (), s, t⟩ ∧ t.clock = failed := by
    rintro ⟨i, o, a, s, t⟩ member after
    obtain ⟨x, done⟩ := run.exec_eq _ member
    have done : exec settings o x s = some (a, t) := done
    by_cases failing : o = .fail
    · subst failing
      cases done
      cases after
      exact Or.inr ⟨i, s, _, rfl, rfl⟩
    · by_cases keeps : o.Keeps
      · cases o with
        | keep keySet asked =>
            cases done
            cases after
        | _ => exact keeps.elim
      · exact Or.inl ⟨(exec_failedAt done keeps failing).symm.trans after, trivial⟩
  rcases Run.last_of (P := fun s => State.failedAt s = some failed) (T := fun _ => True) run each
    known with ⟨start, -⟩ | ⟨early, e, late, rfl, ⟨i, s, t, rfl, same⟩, -⟩
  · exact Or.inl start
  · exact Or.inr ⟨i, s, t, by simp, same⟩

/-- The clock of a step is behind those of the earlier ones. -/
theorem clock_le {early late : List (Event (machine library settings))}
    {e : Event (machine library settings)}
    (run : Run (callers library settings s₀ calls) (early ++ e :: late) d)
    (steady : ∀ e' ∈ early ++ e :: late, State.clock e'.before ≤ State.clock e'.after) :
    ∀ e' ∈ early, State.clock e'.after ≤ State.clock e.before := by
  intro e' member
  obtain ⟨first, mid, rfl⟩ := List.append_of_mem member
  have split : (first ++ e' :: mid) ++ e :: late = (first ++ [e']) ++ (mid ++ e :: late) := by simp
  rw [split] at run steady
  have related := run.related_before (fun s t => State.clock s ≤ State.clock t)
    (fun s => le_refl _) le_trans steady e (by simp)
  simpa using related

end Runs

end JwksClient

end Keyring
