import Keyring.Accounts.SessionOrigin
import Keyring.Api.Served
import Keyring.Api.Vouched

/-!
# Who is signed in has logged in

A request whose bearer string was found to be the one of a session of some account comes
after a request that logged in with the password of this account and was handed this very
string.
-/

set_option autoImplicit false

namespace Keyring

open Interleave Relational

variable {env : Env} {container : Container} {requests : List Request} {w : World}
  {d : Config (machine env) Error Reply} {tr : List (Event (machine env))}

/-- A request in `tr` opened a session of the account under the hash of the string, and
had earned it: it was a login, and the password was right. -/
inductive LoggedIn (env : Env) (requests : List Request) (tr : List (Event (machine env)))
    (presented accountId : String) : Prop where
  | intro {early late : List (Event (machine env))} {e : Event (machine env)}
      {email password caller : String} {session : Session} {cap : Nat}
      (split : tr = early ++ e :: late)
      (login : requests[e.thread]? = some (.login email password caller))
      (opens : e.op = .sessions (.addWithinCap session cap))
      (hashed : session.tokenHash = env.hashToken presented) (owner : session.accountId = accountId)
      (earned : session.Earned email password (ofThread e.thread early))

theorem Entitled.login_request {heard : List (Heard (machine env) Call Error Answer)}
    {request : Request} {email password caller : String}
    (entitled : Entitled container heard request (.account (.login email password caller))) :
    request = .login email password caller := by
  generalize asked : Call.account (.login email password caller) = call at entitled
  cases entitled with
  | login email password caller =>
      cases asked
      rfl
  | own owns calls => cases calls <;> cases asked
  | session resolved =>
      rename_i c
      cases c <;> cases asked
  | _ => cases asked

/-- What a request has done is done by the calls that are part of it, and the other way
around, but for what the routes look up. -/
theorem FindsAccount.of_done {account : Account} {address : String} {own : Nat → Nat}
    {e e' : Event (machine env)} (finds : FindsAccount account address e')
    (same : e.doneBy id = e'.doneBy own) : FindsAccount account address e := by
  obtain ⟨i, o, a, s, s'⟩ := e
  obtain ⟨⟩ := finds
  rw [Event.doneBy, Event.doneBy, Prod.mk.injEq] at same
  cases same.2
  exact .found

theorem DrawsToken.of_done {token : String} {own : Nat → Nat} {e e' : Event (machine env)}
    (draws : DrawsToken token e') (same : e.doneBy id = e'.doneBy own) : DrawsToken token e := by
  obtain ⟨i, o, a, s, s'⟩ := e
  obtain ⟨⟩ := draws
  rw [Event.doneBy, Event.doneBy, Prod.mk.injEq] at same
  cases same.2
  exact .drawn

theorem Session.Earned.carried {own : Nat → Nat} {tr' : List (Event (machine env))}
    {session : Session} {email password : String} {k : Nat}
    (earned : session.Earned email password (ofThread k tr'))
    (same : Alike Op.consults own tr' tr) :
    session.Earned email password (ofThread (own k) tr) := by
  have carried : ∀ e' ∈ ofThread k tr', e'.op.consults = false →
      ∃ e ∈ ofThread (own k) tr, e.doneBy id = e'.doneBy own := by
    intro e' member visible
    obtain ⟨inside, rfl⟩ := mem_ofThread.mp member
    have listed : e'.doneBy own ∈ (tr'.filter fun e => !e.op.consults).map (Event.doneBy own) :=
      List.mem_map_of_mem (List.mem_filter.mpr ⟨inside, by simp [visible]⟩)
    rw [show _ = _ from same] at listed
    obtain ⟨e, found, done⟩ := List.mem_map.mp listed
    exact ⟨e, mem_ofThread.mpr ⟨(List.mem_filter.mp found).1, congrArg Prod.fst done⟩, done⟩
  cases earned with
  | login named found active verified owner drawn hashed =>
      obtain ⟨e', inside, finds⟩ := found
      obtain ⟨e'', inside', draws⟩ := drawn
      have visible : e'.op.consults = false := by
        obtain ⟨⟩ := finds
        rfl
      have visible' : e''.op.consults = false := by
        obtain ⟨⟩ := draws
        rfl
      obtain ⟨e, here, done⟩ := carried e' inside visible
      obtain ⟨e₁, here', done'⟩ := carried e'' inside' visible'
      exact .login named ⟨e, here, finds.of_done done⟩ active verified owner
        ⟨e₁, here', draws.of_done done'⟩ hashed

/-- In every run of HTTP requests, a request that was answered that its string is one of a
session of the account comes after a request that logged in to it and was handed the
string, unless the first state has such a session. -/
theorem signedIn_earned (run : Run (serve env container w requests) tr d) {i : Nat}
    {presented accountId : String}
    (signed : SignedIn env ((ofThread i tr).map fun e => ⟨e.op, e.ans⟩) presented accountId) :
    (∃ session ∈ w.db.sessions, session.tokenHash = env.hashToken presented ∧
      session.accountId = accountId) ∨ LoggedIn env requests tr presented accountId := by
  cases signed with
  | @intro now session account read found owner known active =>
      obtain ⟨e, member, said⟩ := List.mem_map.mp found
      obtain ⟨early, late, rfl⟩ := List.append_of_mem (mem_ofThread.mp member).1
      -- the run up to the lookup, as a run of calls
      have whole : early ++ e :: late = (early ++ [e]) ++ late := by simp
      rw [whole] at run
      obtain ⟨m, first, -⟩ := run.split
      obtain ⟨calls, tr', d', own, ran, -, same, backed, -⟩ := serve_scripted first
      obtain ⟨j, o, a, s, s'⟩ := e
      cases said
      rw [Alike, List.filter_append, List.map_append, List.filter_cons_of_pos rfl, List.filter_nil,
        List.map_cons, List.map_nil] at same
      obtain ⟨before, lookup, since, rfl, -, done, earlier⟩ := filter_map_split same
      obtain ⟨k, o, a, t, t'⟩ := lookup
      rw [Event.doneBy, Event.doneBy, Prod.mk.injEq] at done
      cases done.2
      obtain ⟨x, performed⟩ := ran.exec_eq _ (List.mem_append_right _ (List.mem_cons_self ..))
      obtain ⟨-, -, tokenHash, asked, hashed⟩ := LooksUp.found.stored (x := x) performed
      cases asked
      rcases session_earned ran .found with old | ⟨before', opening, since', email, password, caller,
        opened, cap, rfl, called, opens, token, own', earned⟩
      · obtain ⟨opened, stored, token, own'⟩ := old
        exact Or.inl ⟨opened, stored, token.trans hashed, own'.trans owner⟩
      · -- the opening, as a step of the request that made the call
        have visible : (!opening.op.consults) = true := by
          rw [opens]
          rfl
        rw [List.filter_append, List.map_append, List.filter_cons, if_pos visible, List.map_cons]
          at earlier
        obtain ⟨front, step, back, rfl, -, done', carried⟩ := filter_map_split earlier.symm
        rw [Event.doneBy, Event.doneBy, Prod.mk.injEq] at done'
        obtain ⟨heard, -, -, -, ⟨request, here, entitled⟩, -⟩ := backed _ _ called
        cases entitled.login_request
        have login : requests[step.thread]? = some (.login email password caller) := by
          rw [show step.thread = own opening.thread from done'.1]
          exact here
        have opens' : step.op = .sessions (.addWithinCap opened cap) :=
          (congrArg Sigma.fst done'.2).trans opens
        refine Or.inr (.intro (List.append_assoc front (step :: back) _) login opens'
          (token.trans hashed) (own'.trans owner) ?_)
        rw [show step.thread = own opening.thread from done'.1]
        exact earned.carried carried.symm

open Scenario in
theorem signedIn_earned_home : LoggedIn deployment homeRequests homeRun.2 "tok" "bob" := by
  have signed : SignedIn deployment ((ofThread 1 homeRun.2).map fun e => ⟨e.op, e.ans⟩) "tok" "bob" :=
    .intro (List.mem_of_getElem? (i := 0) rfl) (List.mem_of_getElem? (i := 1) rfl) rfl
      (List.mem_of_getElem? (i := 2) rfl) rfl
  refine (signedIn_earned (Config.play_run _ _) signed).resolve_left fun before => ?_
  obtain ⟨session, stored, -⟩ := before
  cases stored

end Keyring
