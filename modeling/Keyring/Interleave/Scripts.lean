import Keyring.Interleave.Isolation

/-!
# Callers that go through other callers' programs

A front calls programs of its own choice one after the other, and between them only
reads.  Each run of such fronts is a run of the programs they call: the same steps
with the same answers, the reading ones apart, in states that differ in nothing that
a program can see.  What a front has heard before a call says which calls it may make.
-/

set_option autoImplicit false

namespace Interleave

variable {M : Machine} {ε α β ι : Type}

/-- Run `k` on how the program has ended. -/
def Prog.andThen : Prog M ε β → (Except ε β → Prog M ε α) → Prog M ε α
  | .done r, k => k r
  | .call o next, k => .call o fun a => (next a).andThen k

theorem Prog.bind_eq_andThen (p : Prog M ε β) (f : β → Prog M ε α) :
    p >>= f = p.andThen fun
      | .ok b => f b
      | .error e => .done (.error e) := by
  induction p with
  | done r => cases r <;> rfl
  | call o next ih =>
      rw [Prog.bind_call, Prog.andThen]
      congr 1
      funext a
      exact ih a

/-- What a front has heard: how a call of its own ended, or what it has read. -/
inductive Heard (M : Machine) (ι ε β : Type) where
  | called (c : ι) (r : Except ε β)
  | read (o : M.Op) (a : M.Ans o)

/-- A program that only reads, and makes calls that it may make after what it has
heard; `ends` says how it may end. -/
inductive Script (prog : ι → Prog M ε β) (reads : M.Op → Bool)
    (may : List (Heard M ι ε β) → ι → Prop) (ends : List (Heard M ι ε β) → Except ε α → Prop) :
    List (Heard M ι ε β) → Prog M ε α → Prop where
  | ended {heard : List (Heard M ι ε β)} {r : Except ε α} (fits : ends heard r) :
      Script prog reads may ends heard (.done r)
  | read {heard : List (Heard M ι ε β)} {o : M.Op} {next : M.Ans o → Prog M ε α}
      (idle : reads o = true) (rest : ∀ a, Script prog reads may ends (heard ++ [.read o a]) (next a)) :
      Script prog reads may ends heard (.call o next)
  | calls {heard : List (Heard M ι ε β)} {c : ι} {k : Except ε β → Prog M ε α} (allowed : may heard c)
      (rest : ∀ r, Script prog reads may ends (heard ++ [.called c r]) (k r)) :
      Script prog reads may ends heard ((prog c).andThen k)

section Scripts

variable {prog : ι → Prog M ε β} {reads : M.Op → Bool}
  {may : List (Heard M ι ε β) → ι → Prop} {ends : List (Heard M ι ε β) → Except ε α → Prop}
  {heard : List (Heard M ι ε β)}

/-- A call whose exception is not caught. -/
theorem Script.bind {c : ι} {f : β → Prog M ε α} (allowed : may heard c)
    (raised : ∀ e, ends (heard ++ [.called c (.error e)]) (.error e))
    (rest : ∀ b, Script prog reads may ends (heard ++ [.called c (.ok b)]) (f b)) :
    Script prog reads may ends heard (prog c >>= f) := by
  rw [Prog.bind_eq_andThen]
  refine .calls allowed fun r => ?_
  cases r with
  | ok b => exact rest b
  | error e => exact .ended (raised e)

theorem Script.mono {may' : List (Heard M ι ε β) → ι → Prop}
    {ends' : List (Heard M ι ε β) → Except ε α → Prop} {p : Prog M ε α}
    (script : Script prog reads may ends heard p) (wider : ∀ heard c, may heard c → may' heard c)
    (weaker : ∀ heard r, ends heard r → ends' heard r) :
    Script prog reads may' ends' heard p := by
  induction script with
  | ended fits => exact .ended (weaker _ _ fits)
  | read idle rest ih => exact .read idle ih
  | calls allowed rest ih => exact .calls (wider _ _ allowed) ih

end Scripts

/-! ## The calls of a run -/

/-- Who performed it, where thread `k` is a part of `own k`, and what was answered. -/
def Event.doneBy (own : Nat → Nat) (e : Event M) : Nat × (o : M.Op) × M.Ans o :=
  (own e.thread, ⟨e.op, e.ans⟩)

/-- Where something is in a trace that is compared by what `seen` keeps of it. -/
theorem filter_map_split {κ γ : Type} {seen : κ → Bool} {f : κ → γ} {l : List κ} {a c : List γ} {b : γ}
    (split : (l.filter seen).map f = a ++ b :: c) :
    ∃ early x late, l = early ++ x :: late ∧ seen x = true ∧ f x = b ∧
      (early.filter seen).map f = a := by
  obtain ⟨front, back, parts, same, rest⟩ := List.map_eq_append_iff.mp split
  obtain ⟨x, tail, rfl, here, -⟩ := List.map_eq_cons_iff.mp rest
  obtain ⟨early, after, rfl, kept, later⟩ := List.filter_eq_append_iff.mp parts
  obtain ⟨skipped, late, rfl, unseen, visible, -⟩ := List.filter_eq_cons_iff.mp later
  refine ⟨early ++ skipped, x, late, by simp, visible, here, ?_⟩
  rw [List.filter_append, kept, List.filter_eq_nil_iff.mpr unseen, List.append_nil, same]

theorem Run.join {c d : Config M ε α} {tr : List (Event M)} (run : Run c tr d)
    (others : List (Prog M ε α)) :
    Run ⟨c.state, c.pool ++ others⟩ tr ⟨d.state, d.pool ++ others⟩ := by
  induction run with
  | refl => exact .refl
  | @snoc tr m d e init last ih =>
      cases last with
      | @perform i o next x a s waiting result =>
          have within := (List.getElem?_eq_some_iff.mp waiting).1
          have ready : (m.pool ++ others)[i]? = some (.call o next) := by
            rw [List.getElem?_append_left within, waiting]
          have step := Step.perform (c := ⟨m.state, m.pool ++ others⟩) ready result
          rw [List.set_append_left _ _ within] at step
          exact ih.snoc step

/-- The same steps by the same callers, but for those that only read. -/
def Alike (reads : M.Op → Bool) (own : Nat → Nat) (tr' tr : List (Event M)) : Prop :=
  (tr'.filter fun e => !reads e.op).map (Event.doneBy own) =
    (tr.filter fun e => !reads e.op).map (Event.doneBy id)

/-- Front `i` has heard it: the call is one of its own and has ended so, the reading is a
step of its own. -/
def Happened (own : Nat → Nat) (calls : List ι) (tr : List (Event M)) (d : Config M ε β) (i : Nat) :
    Heard M ι ε β → Prop
  | .called c r => ∃ k : Nat, own k = i ∧ calls[k]? = some c ∧ d.pool[k]? = some (.done r)
  | .read o a => ∃ e ∈ tr, e.thread = i ∧ (⟨e.op, e.ans⟩ : (o : M.Op) × M.Ans o) = ⟨o, a⟩

/-- Before call `k` began, its front had heard what allows it. -/
def Backed (prog : ι → Prog M ε β) (reads : M.Op → Bool) (s : M.State)
    (may : List (Heard M ι ε β) → ι → Prop) (own : Nat → Nat) (calls : List ι)
    (tr tr' : List (Event M)) (k : Nat) (c : ι) : Prop :=
  ∃ heard front early m, may heard c ∧ front <+: tr ∧ early <+: tr' ∧
    Run ⟨s, calls.map prog⟩ early m ∧ Alike reads own early front ∧ (∀ e ∈ early, e.thread ≠ k) ∧
    ∀ said ∈ heard, Happened own calls front m (own k) said

variable {prog : ι → Prog M ε β} {s : M.State} {reads : M.Op → Bool} {own own' : Nat → Nat}
  {calls : List ι} {tr tr' : List (Event M)} {d : Config M ε β}

theorem Happened.join {i : Nat} {said : Heard M ι ε β} (happened : Happened own calls tr d i said)
    (agree : ∀ k < calls.length, own' k = own k) (more : List ι) :
    Happened own' (calls ++ more) tr ⟨d.state, d.pool ++ more.map prog⟩ i said := by
  cases said with
  | called c r =>
      obtain ⟨k, mine, named, ended⟩ := happened
      have inside := (List.getElem?_eq_some_iff.mp named).1
      refine ⟨k, (agree k inside).trans mine, ?_, ?_⟩
      · rw [List.getElem?_append_left inside, named]
      · rw [List.getElem?_append_left (List.getElem?_eq_some_iff.mp ended).1, ended]
  | read o a => exact happened

/-- What was heard stays so while its front goes on. -/
theorem Happened.later {i : Nat} {said : Heard M ι ε β} (happened : Happened own calls tr d i said)
    (more : List (Event M)) : Happened own calls (tr ++ more) d i said := by
  cases said with
  | called c r => exact happened
  | read o a =>
      obtain ⟨e, inside, answered⟩ := happened
      exact ⟨e, List.mem_append_left _ inside, answered⟩

theorem Happened.snoc {i : Nat} {said : Heard M ι ε β} (happened : Happened own calls tr d i said)
    {e : Event M} {d' : Config M ε β} (step : Step d e d') : Happened own calls tr d' i said := by
  cases said with
  | called c r =>
      obtain ⟨k, mine, named, ended⟩ := happened
      cases step with
      | @perform j o next x a t waiting result =>
          have other : j ≠ k := by
            rintro rfl
            rw [waiting] at ended
            cases ended
          exact ⟨k, mine, named, by simp only [List.getElem?_set_ne other, ended]⟩
  | read o a => exact happened

theorem Alike.join (alike : Alike reads own tr' tr) (agree : ∀ e ∈ tr', own' e.thread = own e.thread) :
    Alike reads own' tr' tr := by
  rw [Alike, ← alike]
  refine List.map_congr_left fun e member => ?_
  rw [Event.doneBy, Event.doneBy, agree e (List.mem_filter.mp member).1]

variable {may : List (Heard M ι ε β) → ι → Prop}

theorem Backed.join {k : Nat} {c : ι} (backed : Backed prog reads s may own calls tr tr' k c)
    (inside : k < calls.length) (agree : ∀ k < calls.length, own' k = own k) (more : List ι) :
    Backed prog reads s may own' (calls ++ more) tr tr' k c := by
  obtain ⟨heard, front, early, m, allowed, before, before', run, alike, absent, happened⟩ := backed
  have known : ∀ e ∈ early, e.thread < calls.length := fun e member => by
    simpa using run.thread_lt e member
  refine ⟨heard, front, early, ⟨m.state, m.pool ++ more.map prog⟩, allowed, before, before', ?_,
    alike.join fun e member => agree _ (known e member), absent, fun said member => ?_⟩
  · rw [List.map_append]
    exact run.join _
  · rw [agree k inside]
    exact (happened said member).join agree more

theorem Backed.later {k : Nat} {c : ι} (backed : Backed prog reads s may own calls tr tr' k c)
    (more more' : List (Event M)) :
    Backed prog reads s may own calls (tr ++ more) (tr' ++ more') k c := by
  obtain ⟨heard, front, early, m, allowed, before, before', rest⟩ := backed
  exact ⟨heard, front, early, m, allowed, before.trans (List.prefix_append tr more),
    before'.trans (List.prefix_append tr' more'), rest⟩

/-! ## The run of the calls -/

section Simulation

variable (prog s) (reads : M.Op → Bool) (may : Nat → List (Heard M ι ε β) → ι → Prop)
  (ends : Nat → List (Heard M ι ε β) → Except ε α → Prop)

/-- Where front `i` stands: between two calls, or within the one of thread `κ`. -/
inductive Standing (calls : List ι) (tr : List (Event M)) (d : Config M ε β) (own : Nat → Nat)
    (i : Nat) : Prog M ε α → Prop where
  | between {heard : List (Heard M ι ε β)} {p : Prog M ε α}
      (script : Script prog reads (may i) (ends i) heard p)
      (happened : ∀ said ∈ heard, Happened own calls tr d i said) : Standing calls tr d own i p
  | within {heard : List (Heard M ι ε β)} {c : ι} {k : Except ε β → Prog M ε α} {κ : Nat}
      {q : Prog M ε β} (mine : own κ = i) (named : calls[κ]? = some c)
      (stands : d.pool[κ]? = some q) (happened : ∀ said ∈ heard, Happened own calls tr d i said)
      (rest : ∀ r, Script prog reads (may i) (ends i) (heard ++ [.called c r]) (k r)) :
      Standing calls tr d own i (q.andThen k)

/-- The run `tr` of fronts up to `d` is the run `tr'` of their calls up to `d'`; call `κ`
is one of front `own κ`. -/
structure Fronts (R : M.State → M.State → Prop) (tr : List (Event M)) (d : Config M ε α)
    (calls : List ι) (tr' : List (Event M)) (d' : Config M ε β) (own : Nat → Nat) : Prop where
  run : Run ⟨s, calls.map prog⟩ tr' d'
  related : R d.state d'.state
  same : Alike reads own tr' tr
  backed : ∀ k c, calls[k]? = some c → Backed prog reads s (may (own k)) own calls tr tr' k c
  standing : ∀ i p, d.pool[i]? = some p → Standing prog reads may ends calls tr d' own i p

variable {prog s reads} {may : Nat → List (Heard M ι ε β) → ι → Prop}
  {ends : Nat → List (Heard M ι ε β) → Except ε α → Prop} {R : M.State → M.State → Prop} {c d : Config M ε α}
  {d' : Config M ε β} {i : Nat} {heard : List (Heard M ι ε β)} {o : M.Op}
  {next : M.Ans o → Prog M ε α}

theorem update_below (own : Nat → Nat) (n i : Nat) : ∀ k < n, Function.update own n i k = own k :=
  fun k below => Function.update_of_ne (by omega) i own

theorem Fronts.call (fronts : Fronts prog s reads may ends R tr d calls tr' d' own)
    {c : ι} (allowed : may i heard c) (happened : ∀ said ∈ heard, Happened own calls tr d' i said) :
    Fronts prog s reads may ends R tr d (calls ++ [c]) tr' ⟨d'.state, d'.pool ++ [prog c]⟩
      (Function.update own calls.length i) where
  run := by
    rw [List.map_append]
    exact fronts.run.join _
  related := fronts.related
  same := by
    refine fronts.same.join fun e member => update_below own _ i _ ?_
    simpa using fronts.run.thread_lt e member
  backed k c' named := by
    by_cases inside : k < calls.length
    · rw [List.getElem?_append_left inside] at named
      rw [update_below own _ i k inside]
      exact (fronts.backed k c' named).join inside (update_below own _ i) [c]
    · have last : k = calls.length := by
        have bound := (List.getElem?_eq_some_iff.mp named).1
        simp only [List.length_append, List.length_singleton] at bound
        omega
      subst last
      simp only [List.getElem?_concat_length, Option.some.injEq] at named
      subst named
      rw [Function.update_self]
      have known : ∀ e ∈ tr', e.thread < calls.length := fun e member => by
        simpa using fronts.run.thread_lt e member
      refine ⟨heard, tr, tr', ⟨d'.state, d'.pool ++ [prog c]⟩, allowed, List.prefix_refl tr,
        List.prefix_refl tr', ?_, fronts.same.join fun e member => update_below own _ i _ (known e member),
        fun e member => Nat.ne_of_lt (known e member), fun said member => ?_⟩
      · rw [List.map_append]
        exact fronts.run.join _
      · rw [Function.update_self]
        exact (happened said member).join (update_below own _ i) [c]
  standing j p found := by
    cases fronts.standing j p found with
    | between script happened =>
        exact .between script fun said member => (happened said member).join (update_below own _ i) [c]
    | @within heard c' k κ q mine named stands happened rest =>
        have inside := (List.getElem?_eq_some_iff.mp named).1
        refine .within (κ := κ) ?_ ?_ ?_
          (fun said member => (happened said member).join (update_below own _ i) [c]) rest
        · rw [update_below own _ i κ inside, mine]
        · rw [List.getElem?_append_left inside, named]
        · rw [List.getElem?_append_left (List.getElem?_eq_some_iff.mp stands).1, stands]

/-- Front `i` has ended, reads, or is within a call that performs something. -/
inductive Settled (prog : ι → Prog M ε β)
    (reads : M.Op → Bool) (may : Nat → List (Heard M ι ε β) → ι → Prop)
    (ends : Nat → List (Heard M ι ε β) → Except ε α → Prop) (calls : List ι) (tr : List (Event M))
    (d : Config M ε β) (own : Nat → Nat) (i : Nat) : Prog M ε α → Prop where
  | ended {heard : List (Heard M ι ε β)} {r : Except ε α} (fits : ends i heard r)
      (happened : ∀ said ∈ heard, Happened own calls tr d i said) :
      Settled prog reads may ends calls tr d own i (.done r)
  | reading {heard : List (Heard M ι ε β)} {o : M.Op} {next : M.Ans o → Prog M ε α}
      (idle : reads o = true) (happened : ∀ said ∈ heard, Happened own calls tr d i said)
      (rest : ∀ a, Script prog reads (may i) (ends i) (heard ++ [.read o a]) (next a)) :
      Settled prog reads may ends calls tr d own i (.call o next)
  | calling {heard : List (Heard M ι ε β)} {c : ι} {k : Except ε β → Prog M ε α} {κ : Nat}
      {o : M.Op} {next : M.Ans o → Prog M ε β} (mine : own κ = i) (named : calls[κ]? = some c)
      (waiting : d.pool[κ]? = some (.call o next))
      (happened : ∀ said ∈ heard, Happened own calls tr d i said)
      (rest : ∀ r, Script prog reads (may i) (ends i) (heard ++ [.called c r]) (k r)) :
      Settled prog reads may ends calls tr d own i (.call o fun a => (next a).andThen k)

theorem Fronts.advance (fronts : Fronts prog s reads may ends R tr d calls tr' d' own)
    {p : Prog M ε α} (script : Script prog reads (may i) (ends i) heard p)
    (happened : ∀ said ∈ heard, Happened own calls tr d' i said) :
    ∃ more own', (∀ k < calls.length, own' k = own k) ∧
      Fronts prog s reads may ends R tr d (calls ++ more) tr' ⟨d'.state, d'.pool ++ more.map prog⟩ own' ∧
      Settled prog reads may ends (calls ++ more) tr ⟨d'.state, d'.pool ++ more.map prog⟩ own' i p := by
  induction script generalizing calls d' own with
  | ended fits =>
      exact ⟨[], own, fun _ _ => rfl, by simpa using fronts, .ended fits (by simpa using happened)⟩
  | read idle rest ih =>
      exact ⟨[], own, fun _ _ => rfl, by simpa using fronts,
        .reading idle (by simpa using happened) rest⟩
  | @calls heard c k allowed rest ih =>
      have made := fronts.call allowed happened
      have agree := update_below own calls.length i
      have kept : ∀ said ∈ heard, Happened (Function.update own calls.length i) (calls ++ [c]) tr
          ⟨d'.state, d'.pool ++ [prog c]⟩ i said :=
        fun said member => (happened said member).join agree [c]
      have length : d'.pool.length = calls.length := by
        simpa using fronts.run.pool_length
      have placed : (d'.pool ++ [prog c])[calls.length]? = some (prog c) := by
        rw [← length, List.getElem?_concat_length]
      cases begun : prog c with
      | done r =>
          obtain ⟨more, own', agree', ahead, settled⟩ := ih r made fun said member => by
            rcases List.mem_append.mp member with earlier | newest
            · exact kept said earlier
            · rw [List.mem_singleton.mp newest]
              exact ⟨calls.length, Function.update_self .., by simp, by rw [placed, begun]⟩
          refine ⟨c :: more, own', fun k below => ?_, by simpa using ahead,
            by simpa [Prog.andThen] using settled⟩
          rw [agree' k (by simp; omega), agree k below]
      | call o next =>
          refine ⟨[c], _, agree, made, .calling (κ := calls.length) (by simp) (by simp) ?_ kept rest⟩
          rw [← begun]
          exact placed

theorem Fronts.settle (fronts : Fronts prog s reads may ends R tr d calls tr' d' own)
    {p : Prog M ε α} (found : d.pool[i]? = some p) :
    ∃ more own', (∀ k < calls.length, own' k = own k) ∧
      Fronts prog s reads may ends R tr d (calls ++ more) tr' ⟨d'.state, d'.pool ++ more.map prog⟩ own' ∧
      Settled prog reads may ends (calls ++ more) tr ⟨d'.state, d'.pool ++ more.map prog⟩ own' i p := by
  cases fronts.standing i p found with
  | between script happened => exact fronts.advance script happened
  | @within heard c k κ q mine named stands happened rest =>
      cases q with
      | done r =>
          refine fronts.advance (rest r) fun said member => ?_
          rcases List.mem_append.mp member with earlier | newest
          · exact happened said earlier
          · rw [List.mem_singleton.mp newest]
            exact ⟨κ, mine, named, stands⟩
      | call o next =>
          exact ⟨[], own, fun _ _ => rfl, by simpa using fronts, .calling mine (by simpa using named)
            (by simpa using stands) (by simpa using happened) rest⟩

theorem Fronts.answered (fronts : Fronts prog s reads may ends R tr d calls tr' d' own) (n : Nat) :
    ∃ more own', Fronts prog s reads may ends R tr d (calls ++ more) tr'
        ⟨d'.state, d'.pool ++ more.map prog⟩ own' ∧
      ∀ i < n, ∀ r, d.pool[i]? = some (.done r) → ∃ heard, ends i heard r ∧
        ∀ said ∈ heard,
          Happened own' (calls ++ more) tr ⟨d'.state, d'.pool ++ more.map prog⟩ i said := by
  induction n with
  | zero => exact ⟨[], own, by simpa using fronts, fun i impossible => absurd impossible (by omega)⟩
  | succ n ih =>
      obtain ⟨more, own', ahead, before⟩ := ih
      cases found : d.pool[n]? with
      | none =>
          refine ⟨more, own', ahead, fun i bound r ended => ?_⟩
          by_cases last : i = n
          · rw [last, found] at ended
            cases ended
          · exact before i (by omega) r ended
      | some p =>
          obtain ⟨more', own'', agree, further, settled⟩ := ahead.settle found
          refine ⟨more ++ more', own'', by simpa using further, fun i bound r ended => ?_⟩
          by_cases last : i = n
          · subst last
            rw [found] at ended
            cases ended
            cases settled with
            | ended fits happened => exact ⟨_, fits, by simpa using happened⟩
          · obtain ⟨heard, fits, happened⟩ := before i (by omega) r ended
            refine ⟨heard, fits, fun said member => ?_⟩
            simpa using (happened said member).join agree more'

section Steps

variable
  (simulates : ∀ o x t a t' u, R t u → M.exec o x t = some (a, t') →
    ∃ u', M.exec o x u = some (a, u') ∧ R t' u')
  (unseen : ∀ o x t a t' u, reads o = true → R t u → M.exec o x t = some (a, t') → R t' u)
include simulates unseen

theorem Fronts.step {e : Event M} {d₁ : Config M ε α}
    (fronts : Fronts prog s reads may ends R tr d calls tr' d' own) (step : Step d e d₁) :
    ∃ calls' tr'' d'' own', Fronts prog s reads may ends R (tr ++ [e]) d₁ calls' tr'' d'' own' := by
  cases step with
  | @perform i o next x a t waiting result =>
      obtain ⟨more, own', -, ahead, settled⟩ := fronts.settle waiting
      obtain ⟨u, answered, later⟩ := simulates o x _ a t _ ahead.related result
      have inside := (List.getElem?_eq_some_iff.mp waiting).1
      cases settled with
      | @reading heard _ _ idle happened rest =>
          refine ⟨calls ++ more, tr', _, own', ahead.run, unseen o x _ a t _ idle ahead.related result,
            ?_, fun k c named => ?_, fun j p found => ?_⟩
          · rw [Alike, List.filter_append, List.filter_cons_of_neg (by simp [idle])]
            simpa [Alike] using ahead.same
          · simpa using (ahead.backed k c named).later [⟨i, o, a, d.state, t⟩] []
          · by_cases mine : i = j
            · subst mine
              simp only [List.getElem?_set_self inside, Option.some.injEq] at found
              subst found
              refine .between (rest a) fun said member => ?_
              rcases List.mem_append.mp member with earlier | newest
              · exact (happened said earlier).later _
              · rw [List.mem_singleton.mp newest]
                exact ⟨_, List.mem_append_right _ (List.mem_singleton_self _), rfl, rfl⟩
            · simp only [List.getElem?_set_ne mine] at found
              cases ahead.standing j p found with
              | between script happened' =>
                  exact .between script fun said member => (happened' said member).later _
              | within mine' named' stands happened' rest' =>
                  exact .within mine' named' stands
                    (fun said member => (happened' said member).later _) rest'
      | @calling heard c k κ _ next' mine named waiting' happened rest =>
          have within := (List.getElem?_eq_some_iff.mp waiting').1
          have step' := Step.perform waiting' answered
          refine ⟨calls ++ more, tr' ++ [_], _, own', ahead.run.snoc step', later, ?_,
            fun k' c' named' => (ahead.backed k' c' named').later _ _, fun j p found => ?_⟩
          · have same := ahead.same
            rw [Alike] at same ⊢
            simp only [List.filter_append, List.map_append, same, List.filter_cons]
            cases reads o with
            | true => rfl
            | false => simp [Event.doneBy, mine]
          · have kept : ∀ j said, Happened own' (calls ++ more) tr
                ⟨d'.state, d'.pool ++ more.map prog⟩ j said →
                  Happened own' (calls ++ more) (tr ++ [⟨i, o, a, d.state, t⟩]) _ j said :=
              fun j said happened => (happened.snoc step').later _
            by_cases same : i = j
            · subst same
              simp only [List.getElem?_set_self inside, Option.some.injEq] at found
              subst found
              exact .within mine named (by simp only [List.getElem?_set_self within])
                (fun said member => kept i said (happened said member)) rest
            · simp only [List.getElem?_set_ne same] at found
              cases ahead.standing j p found with
              | between script happened' =>
                  exact .between script fun said member => kept j said (happened' said member)
              | @within heard' c' k' κ' q' mine' named' stands happened' rest' =>
                  have other : κ ≠ κ' := by
                    intro shared
                    subst shared
                    exact same (mine.symm.trans mine')
                  refine .within mine' named' ?_
                    (fun said member => kept j said (happened' said member)) rest'
                  simp only [List.getElem?_set_ne other]
                  exact stands

theorem Run.fronts (run : Run c tr d) (start : R c.state s)
    (scripted : ∀ i (p : Prog M ε α), c.pool[i]? = some p →
      Script prog reads (may i) (ends i) [] p) :
    ∃ calls tr' d' own, Fronts prog s reads may ends R tr d calls tr' d' own := by
  induction run with
  | refl =>
      refine ⟨[], [], ⟨s, []⟩, fun _ => 0, .refl, start, rfl, by simp, fun i p found => ?_⟩
      exact .between (scripted i p found) (by simp)
  | snoc init last ih =>
      obtain ⟨calls, tr', d', own, fronts⟩ := ih
      exact fronts.step simulates unseen last

/-- Every run of fronts is a run of the calls that they make; call `k` is one of front
`own k`, which had heard what allows it.  Each front ends as it may after what it heard. -/
theorem Run.scripted (run : Run c tr d) (start : R c.state s)
    (scripted : ∀ i (p : Prog M ε α), c.pool[i]? = some p →
      Script prog reads (may i) (ends i) [] p) :
    ∃ calls tr' d' own, Run ⟨s, calls.map prog⟩ tr' d' ∧ R d.state d'.state ∧
      Alike reads own tr' tr ∧
      (∀ k c, calls[k]? = some c → Backed prog reads s (may (own k)) own calls tr tr' k c) ∧
      ∀ i r, d.pool[i]? = some (.done r) →
        ∃ heard, ends i heard r ∧ ∀ said ∈ heard, Happened own calls tr d' i said := by
  obtain ⟨calls, tr', d', own, fronts⟩ := run.fronts simulates unseen start scripted
  obtain ⟨more, own', ahead, answered⟩ := fronts.answered d.pool.length
  refine ⟨_, tr', _, own', ahead.run, ahead.related, ahead.same, ahead.backed, fun i r ended => ?_⟩
  exact answered i (List.getElem?_eq_some_iff.mp ended).1 r ended

end Steps

end Simulation

end Interleave
