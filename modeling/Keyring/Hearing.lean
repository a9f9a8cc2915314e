import Keyring.Accounts.Stored
import Keyring.Interleave.Told

/-!
# What a request was answered

A request may be allowed a step by what it was answered before it.  In states with
`I`, `p.Hears agrees I P said` says that each step of `p` agrees with the answers until
then, `said` before them, and that a value it returns has `P` with all of them.
-/

set_option autoImplicit false

namespace Keyring

open Interleave Relational

/-- What a caller was answered, oldest first. -/
abbrev Said := List ((o : Op) × o.Ans)

variable {env : Env} {α β γ : Type} {agrees : Said → Op → Prop} {I : World → Prop}
  {P : Said → α → Prop} {said : Said}

abbrev Hears (agrees : Said → Op → Prop) (I : World → Prop) (P : Said → α → Prop) (said : Said)
    (p : Service env α) : Prop :=
  p.Told (Memory.transcript (M := machine env) agrees) I P said

namespace Hears

theorem asks {o : Op} {f : o.Ans → Service env α} (may : agrees said o)
    (rest : ∀ answer, Hears agrees I P (said ++ [⟨o, answer⟩]) (f answer)) :
    Hears agrees I P said (.call o f) :=
  ⟨may, fun _ _ answer _ _ _ => rest answer⟩

theorem store {o : Op} {result : o.Ans → Except Error γ} {f : γ → Service env α}
    (may : agrees said o)
    (rest : ∀ answer v, result answer = .ok v →
      Hears agrees I P (said ++ [⟨o, answer⟩]) (f v)) :
    Hears agrees I P said ((.call o fun answer => .done (result answer)) >>= f) := by
  refine asks may fun answer => ?_
  change Hears agrees I P _ ((.done (result answer) : Service env γ) >>= f)
  cases answered : result answer with
  | error e => trivial
  | ok v => exact rest answer v answered

theorem refuses {c : Prop} [Decidable c] {e : Error} {f : Unit → Service env α}
    (rest : ¬c → Hears agrees I P said (f ())) : Hears agrees I P said (refuseIf c e >>= f) := by
  rw [refuseIf_bind]
  by_cases refused : c
  · rw [if_pos refused]
    trivial
  · rw [if_neg refused]
    exact rest refused

theorem ofExcept {r : Except Error γ} {f : γ → Service env α}
    (rest : ∀ v, r = .ok v → Hears agrees I P said (f v)) :
    Hears agrees I P said (Prog.ofExcept r >>= f) := by
  cases r with
  | error e => trivial
  | ok v => exact rest v rfl

/-- An account that is read is the one that was asked for. -/
theorem account {accountId : String} {f : Option Account → Service env α}
    (may : agrees said (.accounts (.get accountId)))
    (rest : ∀ found, (∀ account, found = some account → account.accountId = accountId) →
      Hears agrees I P (said ++ [⟨.accounts (.get accountId), .ok found⟩]) (f found)) :
    Hears agrees I P said (accountStore (.get accountId) >>= f) := by
  refine ⟨may, fun w x answer w' _ done => ?_⟩
  have read : exec env (.accounts (.get accountId)) x w = some (answer, w') := done
  rw [exec_get, Option.some.injEq, Prod.mk.injEq] at read
  obtain ⟨rfl, rfl⟩ := read
  refine rest _ fun account found => ?_
  exact (Table.find?_eq_some.mp (readAccount_row found)).2

/-- A program whose steps agree with whatever was said. -/
theorem apart {allowed : Op → Prop} {p : Service env α} (uses : p.Uses allowed)
    (free : ∀ o, allowed o → ∀ said, agrees said o) :
    Hears agrees I (fun said' _ => said <+: said') said p := by
  refine Prog.Told.mono (fun said' a held => held.1) (Prog.Told.of_under_kept (K := (said <+: ·))
    (Prog.Under.of_uses uses) (List.prefix_refl said) fun o ok said' more => ?_)
  exact ⟨free o ok said', fun answer => more.trans (List.prefix_append said' _)⟩

/-- A call may go on in another way than with its answer. -/
theorem of_returning {Q : Said → β → Prop} {R : Said → Answer → Prop} {p : Service env γ}
    {answer : γ → Answer} (told : Hears agrees I R said (returning p answer))
    {f : γ → Service env β} (rest : ∀ v said', Hears agrees I Q said' (f v)) :
    Hears agrees I Q said (p >>= f) :=
  Prog.Told.bind told.of_bind fun v said' _ => rest v said'

theorem of_run {ρ : Type} {agrees : ρ → Said → Op → Prop} {prog : ρ → Service env β} {requests : List ρ}
    (each : ∀ request, Hears (agrees request) I (fun _ _ => True) [] (prog request))
    (always : ∀ w, I w) {w : World} {d : Config (machine env) Error β}
    {early late : List (Event (machine env))} {e : Event (machine env)}
    (run : Run ⟨w, requests.map prog⟩ (early ++ e :: late) d) :
    ∃ request, requests[e.thread]? = some request ∧
      agrees request ((ofThread e.thread early).map fun e => ⟨e.op, e.ans⟩) e.op := by
  have told : ∀ (i : Nat) (p : Service env β),
      (requests.map prog)[i]? = some p → p.Told
        (Memory.transcript (M := machine env) fun said o =>
          ∃ request, requests[i]? = some request ∧ agrees request said o) I (fun _ _ => True) [] := by
    intro i p found
    rw [List.getElem?_map, Option.map_eq_some_iff] at found
    obtain ⟨request, here, rfl⟩ := found
    refine Prog.Told.mono (fun _ _ _ => trivial) (Prog.Told.along (fun known seen => known = seen)
      (each request) rfl fun known seen o same agreed => ?_)
    subst same
    exact ⟨⟨request, here, agreed⟩, fun _ => rfl⟩
  have agreed := (run.told_at (fun _ _ _ _ _ _ _ t _ _ => always t) told (always w)).2
  rw [Memory.transcript_after, List.nil_append] at agreed
  exact agreed

end Hears

end Keyring
