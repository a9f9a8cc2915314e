import Keyring.Tokens.JwksFetches
import Keyring.Tokens.JwksHistory

/-!
# How long a withdrawn key is trusted

A key that `key_for` returns was in a document that was fetched.  Whatever the
others do in between, that document is the newest when the call returns, and its
age is bounded at the call's last look at the cache.
-/

set_option autoImplicit false

namespace Keyring

open Interleave

namespace JwksClient

variable {library : KeySets} {settings : JwksSettings}

/-! ## What an answer rests on -/

/-- A look at the cache. -/
def Op.looks : Op library → Bool
  | .freshKeys | .usableStaleKeys => true
  | _ => false

/-- What the clock shows at a caller's last look at the cache. -/
def lastLook (i : Nat) (tr : List (Event (machine library settings))) : Option Int :=
  ((ofThread i tr).filter fun e => Op.looks e.op).getLast?.map fun e => State.clock e.after

/-- The newest document that was fetched: by the call `i`, which had asked for it
when the clock showed `asked`. -/
def Newest (tr : List (Event (machine library settings))) (i : Nat) (keySet : library.KeySet)
    (asked : Int) : Prop :=
  ∃ early s t late document, tr = early ++ ⟨i, .keep keySet asked, (), s, t⟩ :: late ∧
    (∀ e ∈ late, ¬ Op.Keeps e.op) ∧ ⟨.begin, asked⟩ ∈ said (ofThread i early) ∧
    ⟨.get, some document⟩ ∈ said (ofThread i early) ∧ keySetOf document = .ok keySet

/-- Why a call makes do with what is no longer fresh. -/
inductive Outage (settings : JwksSettings) (i : Nat)
    (tr : List (Event (machine library settings))) (look : Int) : Prop where
  /-- Its own fetch has failed. -/
  | own {s t : State library} (failed : ⟨i, .fail, (), s, t⟩ ∈ tr) (before : t.clock ≤ look)
  /-- A fetch had failed so recently that it did not try. -/
  | floor {j : Nat} {s t s' t' : State library} (failed : ⟨j, .fail, (), s, t⟩ ∈ tr)
      (refused : ⟨i, .failedRecently, true, s', t'⟩ ∈ tr) (since : t.clock ≤ t'.clock)
      (recent : t'.clock < t.clock + settings.minRefetchSeconds) (before : t'.clock ≤ look)

/-- What a key rests on that the call `i` returns at the end of these events. -/
def Backed (settings : JwksSettings) (tr : List (Event (machine library settings))) (i : Nat)
    (kid : String) (key : library.Key) : Prop :=
  ∃ j keySet asked look, Newest tr j keySet asked ∧ library.getItem keySet kid = some key ∧
    lastLook i tr = some look ∧
      ((j = i ∧ look ≤ asked) ∨ look < asked + settings.cacheSeconds ∨
        (look < asked + settings.cacheSeconds + settings.staleGraceSeconds ∧
          Outage settings i tr look))

/-- The last step of the call `i` is the last of these events. -/
def EndsWith (i : Nat) (now rest : List (Event (machine library settings))) : Prop :=
  (∃ init e, now = init ++ [e] ∧ e.thread = i) ∧ ofThread i rest = []

theorem Outage.append {i : Nat} {tr : List (Event (machine library settings))} {look : Int}
    (outage : Outage settings i tr look) (tr' : List (Event (machine library settings))) :
    Outage settings i (tr ++ tr') look := by
  cases outage with
  | own failed before => exact .own (List.mem_append_left _ failed) before
  | floor failed refused since recent before =>
      exact .floor (List.mem_append_left _ failed) (List.mem_append_left _ refused) since recent before

theorem Newest.append {tr tr' : List (Event (machine library settings))} {i : Nat}
    {keySet : library.KeySet} {asked : Int} (newest : Newest tr i keySet asked)
    (quiet : ∀ e ∈ tr', ¬ Op.Keeps e.op) : Newest (tr ++ tr') i keySet asked := by
  obtain ⟨early, s, t, late, document, rfl, none, begun, got, usable⟩ := newest
  refine ⟨early, s, t, late ++ tr', document, by simp, ?_, begun, got, usable⟩
  exact List.forall_mem_append.mpr ⟨none, quiet⟩

/-! ## The last look -/

section LastLook

variable {i : Nat} {tr tr' : List (Event (machine library settings))}

theorem lastLook_append (idle : ∀ x ∈ said (ofThread i tr'), x.1.looks = false) :
    lastLook i (tr ++ tr') = lastLook i tr := by
  have none : (ofThread i tr').filter (fun e => Op.looks e.op) = [] := by
    refine List.filter_eq_nil_iff.mpr fun e member look => ?_
    have idle : Op.looks e.op = false := idle (spoken e) (List.mem_map_of_mem member)
    exact Bool.false_ne_true (idle.symm.trans look)
  simp [lastLook, none]

theorem lastLook_snoc {e : Event (machine library settings)} (mine : e.thread = i)
    (looks : Op.looks e.op = true) : lastLook i (tr ++ [e]) = some (State.clock e.after) := by
  have own : ofThread i [e] = [e] := by simp [ofThread, mine]
  simp [lastLook, own, looks]

theorem lastLook_mem {x : Said library} (member : x ∈ said (ofThread i tr))
    (looks : x.1.looks = true) : ∃ e ∈ tr, lastLook i tr = some (State.clock e.after) := by
  obtain ⟨e, inside, rfl⟩ := List.mem_map.mp member
  have found : e ∈ (ofThread i tr).filter fun e => Op.looks e.op :=
    List.mem_filter.mpr ⟨inside, looks⟩
  have some := List.getLast?_eq_some_getLast (List.ne_nil_of_mem found)
  have last := (List.mem_filter.mp (List.getLast_mem (List.ne_nil_of_mem found))).1
  exact ⟨_, (mem_ofThread.mp last).1, by rw [lastLook, some, Option.map_some]⟩

end LastLook

/-! ## The end of a section -/

section Runs

variable {s₀ : State library} {calls : List Call} {i : Nat}
  {tr : List (Event (machine library settings))}
  {d : Config (machine library settings) VerifyError (Answer library)}

/-- A section that has ended: what its caller had done before `e`, its last step, and
`g`, which gives the lock back. -/
structure Closing (i : Nat) (tr : List (Event (machine library settings)))
    (opening : List (Said library)) (last : Said library)
    (early mid rest : List (Event (machine library settings)))
    (e g : Event (machine library settings)) : Prop where
  split : tr = early ++ e :: (mid ++ g :: rest)
  mine : e.thread = i
  spoke : spoken e = last
  mine_g : g.thread = i
  released : g.op = Op.release
  opened : said (ofThread i early) = opening
  idle : ofThread i mid = []
  closed : ofThread i rest = []
  quiet : ∀ e' ∈ mid ++ [g], ¬ Op.Keeps e'.op

/-- Nothing is kept between the last step of a section and the lock that is given back. -/
theorem section_last {first : Option library.KeySet} {body : List (Said library)}
    {last : Said library} (run : Run (callers library settings s₀ calls) tr d)
    (own : said (ofThread i tr) =
      ⟨.freshKeys, first⟩ :: ⟨.acquire, ()⟩ :: (body ++ [last, ⟨.release, ()⟩]))
    (within : Within (body ++ [last])) :
    ∃ early mid rest e g, Closing i tr (⟨.freshKeys, first⟩ :: ⟨.acquire, ()⟩ :: body) last
      early mid rest e g := by
  have split : said (ofThread i tr) =
      (⟨.freshKeys, first⟩ :: ⟨.acquire, ()⟩ :: body) ++ [last, ⟨.release, ()⟩] := by simp [own]
  obtain ⟨before, after, whole, opened, ending⟩ := List.map_eq_append_iff.mp split
  obtain ⟨e, after', rfl, spoke, ending'⟩ := List.map_eq_cons_iff.mp ending
  obtain ⟨g, after'', rfl, given, nothing⟩ := List.map_eq_cons_iff.mp ending'
  obtain rfl := List.map_eq_nil_iff.mp nothing
  have mine : ∀ e' ∈ ofThread i tr, e'.thread = i := fun e' member => (mem_ofThread.mp member).2
  have mine_e := mine e (by simp [whole])
  have mine_g := mine g (by simp [whole])
  obtain ⟨early, late, rfl, rfl, later⟩ := ofThread_at whole
  obtain ⟨mid, rest, rfl, idle, closed⟩ := ofThread_at (show ofThread i late = [] ++ g :: [] from later)
  have released : g.op = Op.release := congrArg Sigma.fst given
  refine ⟨early, mid, rest, e, g, rfl, mine_e, spoke, mine_g, released, opened, idle, closed, ?_⟩
  have here : said (ofThread i (early ++ [e])) =
      (⟨.freshKeys, first⟩ :: ⟨.acquire, ()⟩ :: body) ++ [last] := by
    have alone : ofThread i [e] = [e] := by simp [ofThread, mine_e]
    have opened : said (ofThread i early) = ⟨.freshKeys, first⟩ :: ⟨.acquire, ()⟩ :: body := opened
    simp [opened, alone, spoke]
  have holds : (lock library settings).Holds (ofThread i (early ++ [e])) := by
    refine holds_of_said (x := ⟨.acquire, ()⟩) (by rw [here]; simp) rfl fun y member => ?_
    rw [here] at member
    simp only [List.cons_append, List.mem_cons] at member
    rcases member with rfl | rfl | member
    · rintro ⟨⟩
    · rintro ⟨⟩
    · rintro released
      have inside := within y member
      rw [released] at inside
      exact inside
  have again : early ++ e :: (mid ++ g :: rest) = (early ++ [e]) ++ (mid ++ (g :: rest)) := by simp
  rw [again] at run
  have between := Lock.not_inner_between run callers_sectioned holds idle
  refine List.forall_mem_append.mpr ⟨between, List.forall_mem_singleton.mpr ?_⟩
  rw [released]
  exact id

namespace Closing

variable {opening : List (Said library)} {last : Said library}
  {early mid rest : List (Event (machine library settings))}
  {e g : Event (machine library settings)}

theorem ends (closing : Closing i tr opening last early mid rest e g) :
    tr = (early ++ e :: (mid ++ [g])) ++ rest ∧ EndsWith i (early ++ e :: (mid ++ [g])) rest := by
  refine ⟨by simp [closing.split], ⟨early ++ e :: mid, g, by simp, closing.mine_g⟩, closing.closed⟩

theorem own_closing (closing : Closing i tr opening last early mid rest e g) :
    ofThread i (mid ++ [g]) = [g] := by
  rw [ofThread_append, closing.idle]
  simp [ofThread, closing.mine_g]

theorem own_last (closing : Closing i tr opening last early mid rest e g) :
    ofThread i (e :: (mid ++ [g])) = [e, g] := by
  have split : e :: (mid ++ [g]) = [e] ++ (mid ++ [g]) := rfl
  rw [split, ofThread_append, closing.own_closing]
  simp [ofThread, closing.mine]

theorem newest (closing : Closing i tr opening last early mid rest e g) {j : Nat}
    {keySet : library.KeySet} {asked : Int} (newest : Newest early j keySet asked)
    (quiet : ¬ last.1.Keeps) : Newest (early ++ e :: (mid ++ [g])) j keySet asked := by
  refine newest.append (List.forall_mem_cons.mpr ⟨?_, closing.quiet⟩)
  rw [← closing.spoke] at quiet
  exact quiet

theorem run_last (closing : Closing i tr opening last early mid rest e g)
    (run : Run (callers library settings s₀ calls) tr d) :
    Run (callers library settings s₀ calls) (early ++ e :: (mid ++ g :: rest)) d := by
  rw [← closing.split]
  exact run

theorem lastLook_last (closing : Closing i tr opening last early mid rest e g)
    (looks : last.1.looks = true) :
    lastLook i (early ++ e :: (mid ++ [g])) = some (State.clock e.after) := by
  have split : early ++ e :: (mid ++ [g]) = (early ++ [e]) ++ (mid ++ [g]) := by simp
  rw [split, lastLook_append]
  · refine lastLook_snoc closing.mine ?_
    rw [← closing.spoke] at looks
    exact looks
  · intro x member
    rw [closing.own_closing] at member
    obtain rfl := List.mem_singleton.mp member
    simp [spoken, closing.released, Op.looks]

theorem lastLook_early (closing : Closing i tr opening last early mid rest e g)
    (other : last.1.looks = false) :
    lastLook i (early ++ e :: (mid ++ [g])) = lastLook i early := by
  refine lastLook_append fun x member => ?_
  rw [closing.own_last] at member
  simp only [said_cons, said_nil, List.mem_cons, List.not_mem_nil, or_false] at member
  rcases member with rfl | rfl
  · rw [closing.spoke]
    exact other
  · simp [spoken, closing.released, Op.looks]

end Closing

end Runs

/-! ## What the looks find -/

section Looks

variable {clock : Int} {calls : List Call} {i : Nat} {kid : String} {key : library.Key}
  {tr early late : List (Event (machine library settings))}
  {d : Config (machine library settings) VerifyError (Answer library)}

theorem younger_newest {limit : Int} {x : Input} {held : library.KeySet} {t : State library}
    (run : Run (callers library settings (State.new library clock) calls) tr d)
    (looked : State.younger settings limit x d.state = (some held, t)) :
    ∃ j, Newest tr j held (State.fetchedAt d.state) ∧
      settings.age (State.fetchedAt d.state) t.clock < limit := by
  rcases State.younger_cases looked with ⟨-, impossible, -⟩ | ⟨keySet, known, rfl, found⟩
  · cases impossible
  · rcases found with ⟨impossible, -⟩ | ⟨same, young⟩
    · cases impossible
    · cases same
      rcases held_kept run known with ⟨impossible, -⟩ | ⟨early, j, s, t, late, split, quiet⟩
      · cases impossible
      · have run' := run
        rw [split] at run'
        obtain ⟨front, document, -, usable, own⟩ := history_kept run'
        refine ⟨j, ⟨early, s, t, late, document, split, quiet, ?_, ?_, usable⟩, young⟩
        · simp [own]
        · simp [own]

theorem freshKeys_newest {held : library.KeySet} {s t : State library}
    (run : Run (callers library settings (State.new library clock) calls)
      (early ++ ⟨i, .freshKeys, some held, s, t⟩ :: late) d) :
    ∃ j, Newest early j held s.fetchedAt ∧ t.clock < s.fetchedAt + settings.cacheSeconds := by
  obtain ⟨x, done⟩ := run.exec_eq _ (List.mem_append_right _ (List.mem_cons_self ..))
  obtain ⟨m, first, here⟩ := run.before_of_split
  have here : m.state = s := here
  have done : exec settings .freshKeys x s = some (some held, t) := done
  rw [← here] at done ⊢
  obtain ⟨j, newest, young⟩ := younger_newest first (Option.some.inj done)
  exact ⟨j, newest, Rounding.sub_lt_of_sub_lt settings.cache_number young⟩

theorem usableStaleKeys_newest {held : library.KeySet} {s t : State library}
    (run : Run (callers library settings (State.new library clock) calls)
      (early ++ ⟨i, .usableStaleKeys, some held, s, t⟩ :: late) d) :
    ∃ j, Newest early j held s.fetchedAt ∧
      t.clock < s.fetchedAt + settings.cacheSeconds + settings.staleGraceSeconds := by
  obtain ⟨x, done⟩ := run.exec_eq _ (List.mem_append_right _ (List.mem_cons_self ..))
  obtain ⟨m, first, here⟩ := run.before_of_split
  have here : m.state = s := here
  have done : exec settings .usableStaleKeys x s = some (some held, t) := done
  rw [← here] at done ⊢
  obtain ⟨j, newest, young⟩ := younger_newest first (Option.some.inj done)
  refine ⟨j, newest, ?_⟩
  -- The limit is rounded as the age is.
  by_contra old
  exact absurd young (not_lt.mpr (settings.floats.mono _ _ (by omega)))

/-- A look without the lock is the whole call. -/
theorem backed_cached {held : library.KeySet}
    (run : Run (callers library settings (State.new library clock) calls) tr d)
    (own : said (ofThread i tr) = [⟨.freshKeys, some held⟩])
    (known : library.getItem held kid = some key) :
    ∃ now rest, tr = now ++ rest ∧ EndsWith i now rest ∧ Backed settings now i kid key := by
  obtain ⟨e, nothing, whole, spoke, ended⟩ := List.map_eq_cons_iff.mp own
  obtain rfl := List.map_eq_nil_iff.mp ended
  have mine := (mem_ofThread.mp (whole ▸ List.mem_singleton_self e)).2
  obtain ⟨early, late, rfl, -, closed⟩ := ofThread_at (show ofThread i tr = [] ++ e :: [] from whole)
  refine ⟨early ++ [e], late, by simp, ⟨⟨early, e, rfl, mine⟩, closed⟩, ?_⟩
  obtain ⟨j, o, a, s, t⟩ := e
  cases spoke
  obtain ⟨j, newest, young⟩ := freshKeys_newest run
  refine ⟨j, held, _, t.clock, newest.append (by simp [Op.Keeps]), known,
    lastLook_snoc mine rfl, Or.inr (Or.inl young)⟩

theorem backed_found {first : Option library.KeySet} {held : library.KeySet}
    (run : Run (callers library settings (State.new library clock) calls) tr d)
    (own : said (ofThread i tr) = locked first [⟨.freshKeys, some held⟩])
    (known : library.getItem held kid = some key) :
    ∃ now rest, tr = now ++ rest ∧ EndsWith i now rest ∧ Backed settings now i kid key := by
  have own : said (ofThread i tr) = ⟨.freshKeys, first⟩ :: ⟨.acquire, ()⟩ ::
      ([] ++ [⟨.freshKeys, some held⟩, ⟨.release, ()⟩]) := own
  obtain ⟨early, mid, rest, e, g, closing⟩ := section_last run own (by simp [Op.Inside])
  obtain ⟨split, ends⟩ := closing.ends
  refine ⟨_, rest, split, ends, ?_⟩
  have look := closing.lastLook_last rfl
  have run := closing.run_last run
  obtain ⟨i', o, a, s, t⟩ := e
  cases closing.spoke
  obtain ⟨j, newest, young⟩ := freshKeys_newest run
  exact ⟨j, held, _, t.clock, closing.newest newest id, known, look, Or.inr (Or.inl young)⟩

theorem lastLook_le_asked {s₀ : State library} {asked : Int} {first : Option library.KeySet}
    {front : List (Said library)} {response : Option Json}
    (run : Run (callers library settings s₀ calls) (early ++ late) d)
    (steady : ∀ e ∈ early ++ late, State.clock e.before ≤ State.clock e.after)
    (own : said (ofThread i early) =
      ⟨.freshKeys, first⟩ :: (front ++ [⟨.begin, asked⟩, ⟨.get, response⟩])) :
    ∃ look, lastLook i early = some look ∧ look ≤ asked := by
  have split : said (ofThread i early) =
      (⟨.freshKeys, first⟩ :: front) ++ [⟨.begin, asked⟩, ⟨.get, response⟩] := by simp [own]
  obtain ⟨before, after, whole, looked, ending⟩ := List.map_eq_append_iff.mp split
  obtain ⟨b, after, rfl, spoke, got⟩ := List.map_eq_cons_iff.mp ending
  have mine : b.thread = i := (mem_ofThread.mp (whole ▸ by simp : b ∈ ofThread i early)).2
  obtain ⟨early', late', rfl, rfl, later⟩ := ofThread_at whole
  have own : said (ofThread i (b :: late')) = [⟨.begin, asked⟩, ⟨.get, response⟩] := by
    have here : ofThread i (b :: late') = b :: after := by
      rw [← later]
      simp [ofThread, mine]
    rw [here, said_cons, spoke]
    exact congrArg _ got
  rw [lastLook_append (by simp [own, Op.looks])]
  have found : (⟨.freshKeys, first⟩ : Said library) ∈ said (ofThread i early') := by
    rw [said, looked]
    exact List.mem_cons_self ..
  obtain ⟨e, member, last⟩ := lastLook_mem found rfl
  have again : early' ++ b :: late' ++ late = early' ++ b :: (late' ++ late) := by simp
  rw [again] at run steady
  have behind := clock_le run steady e member
  have moved := steady b (by simp)
  obtain ⟨x, done⟩ := run.exec_eq b (by simp)
  obtain ⟨i', o, a, s, t⟩ := b
  cases spoke
  have done : exec settings .begin x s = some (_, t) := done
  cases done
  exact ⟨_, last, behind.trans moved⟩

theorem backed_fetched {first : Option library.KeySet} {looks : List (Said library)} {asked : Int}
    {document : Json} {keySet : library.KeySet}
    (run : Run (callers library settings (State.new library clock) calls) tr d)
    (steady : ∀ e ∈ tr, State.clock e.before ≤ State.clock e.after) (lacking : Lacking kid looks)
    (usable : keySetOf document = .ok keySet)
    (own : said (ofThread i tr) = locked first (looks ++ [⟨.failedRecently, false⟩, ⟨.begin, asked⟩,
      ⟨.get, some document⟩, ⟨.keep keySet asked, ()⟩]))
    (known : library.getItem keySet kid = some key) :
    ∃ now rest, tr = now ++ rest ∧ EndsWith i now rest ∧ Backed settings now i kid key := by
  have own : said (ofThread i tr) = ⟨.freshKeys, first⟩ :: ⟨.acquire, ()⟩ ::
      ((looks ++ [⟨.failedRecently, false⟩, ⟨.begin, asked⟩, ⟨.get, some document⟩]) ++
        [⟨.keep keySet asked, ()⟩, ⟨.release, ()⟩]) := by
    simp [own, locked]
  obtain ⟨early, mid, rest, e, g, closing⟩ := section_last run own
    (by simp [lacking.within, Op.Inside])
  obtain ⟨split, ends⟩ := closing.ends
  refine ⟨_, rest, split, ends, ?_⟩
  have look := closing.lastLook_early rfl
  have opened := closing.opened
  rw [closing.split] at steady
  have asking : said (ofThread i early) = ⟨.freshKeys, first⟩ ::
      ((⟨.acquire, ()⟩ :: (looks ++ [⟨.failedRecently, false⟩])) ++
        [⟨.begin, asked⟩, ⟨.get, some document⟩]) := by
    simp [opened]
  obtain ⟨seen, last, before⟩ := lastLook_le_asked (closing.run_last run) steady asking
  have mine := closing.mine
  obtain ⟨i', o, a, s, t⟩ := e
  cases closing.spoke
  cases mine
  refine ⟨_, keySet, asked, seen, ⟨early, s, t, mid ++ [g], document, rfl, closing.quiet, ?_, ?_,
    usable⟩, known, look.trans last, Or.inl ⟨rfl, before⟩⟩
  · simp [opened]
  · simp [opened]

theorem refused_floor {s t : State library}
    (run : Run (callers library settings (State.new library clock) calls)
      (early ++ ⟨i, .failedRecently, true, s, t⟩ :: late) d)
    (steady : ∀ e ∈ early ++ ⟨i, .failedRecently, true, s, t⟩ :: late,
      State.clock e.before ≤ State.clock e.after) :
    ∃ (j : Nat) (s' t' : State library), ⟨j, .fail, (), s', t'⟩ ∈ early ∧ t'.clock ≤ t.clock ∧
      t.clock < t'.clock + settings.minRefetchSeconds := by
  have member : ⟨i, .failedRecently, true, s, t⟩ ∈ early ++ ⟨i, .failedRecently, true, s, t⟩ :: late :=
    List.mem_append_right _ (List.mem_cons_self ..)
  obtain ⟨x, done⟩ := run.exec_eq _ member
  obtain ⟨m, prior, here⟩ := run.before_of_split
  have done : exec settings .failedRecently x s = some (true, t) := done
  obtain ⟨refused, same⟩ := exec_failedRecently done
  obtain ⟨failed, known, within⟩ := withinFloor_true refused.symm
  have recent := Rounding.sub_lt_of_sub_lt settings.min_refetch_number within
  have now : t.clock = Input.monotonic x := congrArg State.clock same
  rcases failedAt_failed prior ((congrArg State.failedAt here).trans known) with
    impossible | ⟨j, s', t', failing, rfl⟩
  · cases impossible
  · have since := (clock_le run steady _ failing).trans (steady _ member)
    exact ⟨j, s', t', failing, since, by omega⟩

/-- A refresh has failed, now or recently. -/
theorem outage {story front : List (Said library)} {e : VerifyError}
    {o : Event (machine library settings)}
    (run : Run (callers library settings (State.new library clock) calls) (early ++ o :: late) d)
    (steady : ∀ e ∈ early ++ o :: late, State.clock e.before ≤ State.clock e.after)
    (refreshed : Refreshed story (.error e)) (own : said (ofThread i early) = front ++ story) :
    Outage settings i early (State.clock o.after) := by
  have before : ∀ e ∈ early, State.clock e.after ≤ State.clock o.after := fun e member =>
    (clock_le run steady e member).trans (steady o (by simp))
  have recorded : ∀ x ∈ story, ∃ e ∈ early, e.thread = i ∧ spoken e = x := by
    intro x member
    have inside : x ∈ said (ofThread i early) := own ▸ List.mem_append_right _ member
    obtain ⟨e, inside, spoke⟩ := List.mem_map.mp inside
    exact ⟨e, (mem_ofThread.mp inside).1, (mem_ofThread.mp inside).2, spoke⟩
  cases refreshed with
  | failed asked response =>
      obtain ⟨⟨i', o', a, s, t⟩, member, rfl, spoke⟩ := recorded ⟨.fail, ()⟩ (by simp)
      cases spoke
      exact .own member (before _ member)
  | refused =>
      obtain ⟨⟨i', o', a, s, t⟩, member, rfl, spoke⟩ := recorded ⟨.failedRecently, true⟩ (by simp)
      cases spoke
      have behind := before _ member
      obtain ⟨first, mid, rfl⟩ := List.append_of_mem member
      have split : first ++ ⟨i', .failedRecently, true, s, t⟩ :: mid ++ o :: late =
          first ++ ⟨i', .failedRecently, true, s, t⟩ :: (mid ++ o :: late) := by simp
      rw [split] at run steady
      obtain ⟨j, s', t', failing, since, recent⟩ := refused_floor run steady
      exact .floor (List.mem_append_left _ failing)
        (List.mem_append_right _ (List.mem_cons_self ..)) since recent behind

/-- A look under the lock that makes do with what is no longer fresh. -/
theorem backed_stale {first : Option library.KeySet} {looks story : List (Said library)}
    {e : VerifyError} {held : library.KeySet}
    (run : Run (callers library settings (State.new library clock) calls) tr d)
    (steady : ∀ e ∈ tr, State.clock e.before ≤ State.clock e.after) (lacking : Lacking kid looks)
    (refreshed : Refreshed story (.error e))
    (own : said (ofThread i tr) = locked first (looks ++ story ++ [⟨.usableStaleKeys, some held⟩]))
    (known : library.getItem held kid = some key) :
    ∃ now rest, tr = now ++ rest ∧ EndsWith i now rest ∧ Backed settings now i kid key := by
  have own : said (ofThread i tr) = ⟨.freshKeys, first⟩ :: ⟨.acquire, ()⟩ ::
      ((looks ++ story) ++ [⟨.usableStaleKeys, some held⟩, ⟨.release, ()⟩]) := by
    simp [own, locked]
  obtain ⟨early, mid, rest, o, g, closing⟩ := section_last run own
    (by simp [lacking.within, refreshed.within, Op.Inside])
  obtain ⟨split, ends⟩ := closing.ends
  refine ⟨_, rest, split, ends, ?_⟩
  have look := closing.lastLook_last rfl
  have run := closing.run_last run
  rw [closing.split] at steady
  have opened : said (ofThread i early) = (⟨.freshKeys, first⟩ :: ⟨.acquire, ()⟩ :: looks) ++ story :=
    closing.opened
  have failing := (outage run steady refreshed opened).append (o :: (mid ++ [g]))
  obtain ⟨i', op, a, s, t⟩ := o
  cases closing.spoke
  obtain ⟨j, newest, young⟩ := usableStaleKeys_newest run
  exact ⟨j, held, _, t.clock, closing.newest newest id, known, look, Or.inr (Or.inr ⟨young, failing⟩)⟩

end Looks

/-- A key that `key_for` returns was in the newest document that was fetched by then:
one that the call itself fetched, or one that was still fresh at its last look at the
cache, or one within the grace of an outage. -/
theorem key_backed {clock : Int} {calls : List Call} {i : Nat} {kid : String} {key : library.Key}
    {tr : List (Event (machine library settings))}
    {d : Config (machine library settings) VerifyError (Answer library)}
    (run : Run (callers library settings (State.new library clock) calls) tr d)
    (steady : ∀ e ∈ tr, State.clock e.before ≤ State.clock e.after)
    (called : calls[i]? = some (.keyFor kid))
    (returned : d.pool[i]? = some (.done (.ok (.key key)))) :
    ∃ now rest, tr = now ++ rest ∧ EndsWith i now rest ∧ Backed settings now i kid key := by
  have history := history_ended run called returned
  generalize own : said (ofThread i tr) = story at history
  generalize result : Except.ok (Answer.key key) = r at history
  cases history with
  | cached known =>
      cases result
      exact backed_cached run own known
  | keyFor again =>
      cases again with
      | found known =>
          cases result
          exact backed_found run own known
      | suppressed fresh unknown => cases result
      | unreachable held lacking refreshed => cases result
      | stale lacking refreshed known =>
          cases result
          exact backed_stale run steady lacking refreshed own known
      | @fetched looks story keySet lacking refreshed =>
          cases refreshed with
          | fetched usable =>
              refine backed_fetched run steady lacking usable own ?_
              simp only [answered] at result
              split at result
              · cases result
              · rename_i known
                cases result
                exact known

/-! ## A floor that passes between two readings -/

/-- An hour after the first caller's fetch that of the second fails; the third is told
so a minute later, and then looks again. -/
def lateLook : Config (machine named hourly) VerifyError (Answer named) ×
    List (Event (machine named hourly)) :=
  (callers named hourly (State.new named 0) (List.replicate 3 (.keyFor "current"))).play
    (List.replicate 9 (0, ⟨0, some published⟩) ++ List.replicate 10 (1, ⟨3700, none⟩) ++
      List.replicate 5 (2, ⟨3759, none⟩) ++ List.replicate 2 (2, ⟨3761, none⟩))

theorem lateLook_run :
    Run (callers named hourly (State.new named 0) (List.replicate 3 (.keyFor "current"))) lateLook.2
      lateLook.1 :=
  Config.play_run _ _

theorem lateLook_steady : ∀ e ∈ lateLook.2, State.clock e.before ≤ State.clock e.after := by
  decide

/-- When the documents that were kept had been asked for. -/
def askedAt : Event (machine library settings) → Option Int
  | ⟨_, .keep _ asked, _, _, _⟩ => some asked
  | _ => none

/-- When the fetches failed. -/
def failedWhen : Event (machine library settings) → Option Int
  | ⟨_, .fail, _, _, t⟩ => some (State.clock t)
  | _ => none

theorem askedAt_mem {i : Nat} {keySet : library.KeySet} {asked : Int} {s t : State library}
    {tr : List (Event (machine library settings))}
    (kept : ⟨i, .keep keySet asked, (), s, t⟩ ∈ tr) : asked ∈ tr.filterMap askedAt :=
  List.mem_filterMap.mpr ⟨_, kept, rfl⟩

theorem failedWhen_mem {i : Nat} {s t : State library}
    {tr : List (Event (machine library settings))} (failed : ⟨i, .fail, (), s, t⟩ ∈ tr) :
    t.clock ∈ tr.filterMap failedWhen :=
  List.mem_filterMap.mpr ⟨_, failed, rfl⟩

def keyReturned (p : Option (Caller library settings (Answer library))) : Option library.Key :=
  match p with
  | some (.done (.ok (.key key))) => some key
  | _ => none

theorem keyReturned_some {p : Option (Caller library settings (Answer library))} {key : library.Key}
    (returned : keyReturned p = some key) : p = some (.done (.ok (.key key))) := by
  unfold keyReturned at returned
  split at returned
  · cases returned
    rfl
  · cases returned

theorem lateLook_returned : lateLook.1.pool[2]? = some (.done (.ok (.key "current"))) :=
  keyReturned_some rfl

theorem key_backed_lateLook :
    ∃ now rest, lateLook.2 = now ++ rest ∧ EndsWith 2 now rest ∧
      Backed hourly now 2 "current" "current" :=
  key_backed lateLook_run lateLook_steady rfl lateLook_returned

/-- A key from a document of that age can be returned when the last failure is not as
recent as that: the floor is read before the stale keys are looked at. -/
theorem floor_passes : ¬ ∀ (library : KeySets) (settings : JwksSettings) (clock : Int)
    (calls : List Call) (tr : List (Event (machine library settings)))
    (d : Config (machine library settings) VerifyError (Answer library)) (i : Nat) (kid : String)
    (key : library.Key),
    Run (callers library settings (State.new library clock) calls) tr d →
    (∀ e ∈ tr, State.clock e.before ≤ State.clock e.after) → calls[i]? = some (.keyFor kid) →
    d.pool[i]? = some (.done (.ok (.key key))) →
      ∃ (j : Nat) (keySet : library.KeySet) (asked : Int) (s t : State library) (look : Int),
        ⟨j, .keep keySet asked, (), s, t⟩ ∈ tr ∧ library.getItem keySet kid = some key ∧
          lastLook i tr = some look ∧ (asked + settings.cacheSeconds ≤ look →
            ∃ (j' : Nat) (s' t' : State library), ⟨j', .fail, (), s', t'⟩ ∈ tr ∧
              look < t'.clock + settings.minRefetchSeconds) := by
  intro claimed
  obtain ⟨j, keySet, asked, s, t, look, kept, -, last, within⟩ :=
    claimed named hourly 0 _ _ _ 2 "current" "current" lateLook_run lateLook_steady rfl
      lateLook_returned
  have asking : lateLook.2.filterMap askedAt = [0] := by decide
  have failing : lateLook.2.filterMap failedWhen = [3700] := by decide
  have looking : lastLook 2 lateLook.2 = some 3761 := by decide
  have asked_zero := askedAt_mem kept
  rw [asking, List.mem_singleton] at asked_zero
  rw [looking] at last
  cases last
  obtain ⟨j', s', t', failed, recent⟩ := within (by rw [asked_zero]; decide)
  have failed_then := failedWhen_mem failed
  rw [failing, List.mem_singleton] at failed_then
  rw [failed_then] at recent
  exact absurd recent (by decide)

end JwksClient

end Keyring
