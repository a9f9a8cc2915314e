import Keyring.Calls
import Keyring.Interleave.Tickets

/-!
# Strings drawn at random

Ids and tokens are made of strings that are drawn at random.  Where no two draws
of a run have the same hash, what is made of a drawn string is made once.
-/

set_option autoImplicit false

namespace Keyring

open Interleave

variable {env : Env}

/-- The string that a step draws. -/
def drawnString : Event (machine env) → Option String
  | ⟨_, .draw, hex, _, _⟩ => some hex
  | _ => none

def drawnStrings (tr : List (Event (machine env))) : List String := tr.filterMap drawnString

/-- The tickets of a kind of string, and of the operations that are given one. -/
def drawing (env : Env) (drawn : String → Bool) (given : Op → Bool) : Tickets (machine env) where
  draws
    | .draw, hex => drawn hex
    | _, _ => false
  spends := given

/-- The draws of the run hash to different values. -/
def DrawnApart (env : Env) (tr : List (Event (machine env))) : Prop :=
  ((drawnStrings tr).map env.hashToken).Nodup

theorem drawn_eq_countP (drawn : String → Bool) (given : Op → Bool)
    (tr : List (Event (machine env))) :
    (drawing env drawn given).drawn tr = (drawnStrings tr).countP drawn := by
  induction tr with
  | nil => rfl
  | cons e tr ih =>
      obtain ⟨i, o, a, s, s'⟩ := e
      rw [Tickets.drawn] at ih ⊢
      cases o with
      | draw =>
          have here : drawnStrings (⟨i, .draw, a, s, s'⟩ :: tr) = a :: drawnStrings tr := rfl
          rw [here, List.countP_cons, List.countP_cons, ih]
          rfl
      | _ => rwa [List.countP_cons_of_neg (by exact Bool.false_ne_true)]

theorem drawnStrings_append (early late : List (Event (machine env))) :
    drawnStrings (early ++ late) = drawnStrings early ++ drawnStrings late :=
  List.filterMap_append

theorem DrawnApart.early {early late : List (Event (machine env))}
    (apart : DrawnApart env (early ++ late)) : DrawnApart env early := by
  rw [DrawnApart, drawnStrings_append, List.map_append] at apart
  exact apart.sublist (List.sublist_append_left _ _)

theorem DrawnApart.once {tr : List (Event (machine env))} (apart : DrawnApart env tr)
    {drawn : String → Bool} (given : Op → Bool)
    (single : ∀ x y, drawn x = true → drawn y = true → env.hashToken x = env.hashToken y) :
    (drawing env drawn given).drawn tr ≤ 1 := by
  rw [drawn_eq_countP]
  by_cases some : ∃ x ∈ drawnStrings tr, drawn x = true
  · obtain ⟨x, -, kind⟩ := some
    have once := List.nodup_iff_count_le_one.mp apart (env.hashToken x)
    rw [List.count, List.countP_map] at once
    apply (List.countP_mono_left _).trans once
    intro y _ same
    simpa using single y x same kind
  · have nothing : (drawnStrings tr).countP drawn = 0 := by
      rw [List.countP_eq_zero]
      exact fun x member kind => some ⟨x, member, kind⟩
    omega

section Runs

variable {c d : Config (machine env) Error Answer} {tr : List (Event (machine env))}
  {drawn : String → Bool} {given : Op → Bool}

theorem drawn_of_given (run : Run c tr d)
    (each : ∀ p ∈ c.pool, p.Minds (drawing env drawn given).purse 0)
    {e : Event (machine env)} (member : e ∈ tr) (spends : given e.op = true) :
    ∃ x ∈ drawnStrings tr, drawn x = true := by
  have covered := Tickets.run_spent_le run each
  have some : 0 < (drawing env drawn given).spent tr :=
    List.countP_pos_iff.mpr ⟨e, member, spends⟩
  rw [drawn_eq_countP] at covered
  exact List.countP_pos_iff.mp (by omega)

theorem DrawnApart.given_once (apart : DrawnApart env tr) (run : Run c tr d)
    (each : ∀ p ∈ c.pool, p.Minds (drawing env drawn given).purse 0)
    (single : ∀ x y, drawn x = true → drawn y = true → env.hashToken x = env.hashToken y)
    {e e' : Event (machine env)} (member : e ∈ tr) (spends : given e.op = true)
    (member' : e' ∈ tr) (spends' : given e'.op = true) : e' = e := by
  obtain ⟨early, late, rfl⟩ := List.append_of_mem member
  have others := Tickets.spent_once run each (apart.once given single) spends
  by_contra different
  have elsewhere : e' ∈ early ++ late := by
    simp only [List.mem_append, List.mem_cons] at member' ⊢
    tauto
  have unspent := others e' elsewhere
  change given e'.op = false at unspent
  rw [spends'] at unspent
  cases unspent

end Runs

theorem draw_minds {α : Type} {drawn : String → Bool} {given : Op → Bool} {held : Nat}
    {f : String → Service env α} (free : given .draw = false)
    (rest : ∀ hex, (f hex).Minds (drawing env drawn given).purse
      (held + if drawn hex then 1 else 0)) :
    (draw >>= f).Minds (drawing env drawn given).purse held := by
  constructor
  · intro spends
    rw [show (drawing env drawn given).spends .draw = given .draw from rfl, free] at spends
    cases spends
  · intro hex
    have held' : (drawing env drawn given).purse.note held .draw hex =
        held + if drawn hex then 1 else 0 := by
      change held - (if given .draw then 1 else 0) + (if drawn hex then 1 else 0) = _
      rw [free]
      rfl
    rw [held']
    exact rest hex

end Keyring
