import Mathlib.Data.List.Dedup
import Keyring.Domain.Errors
import Keyring.Domain.Text
import Keyring.Python.Dict

/-!
# Which service is calling

Each service has a token of its own, and a bearer string is the service that it is the
token of.  A token that is too short, or that two services share, is refused when the
configuration is read and again when the authenticator is built from it.
-/

set_option autoImplicit false

namespace Keyring

def badService : String := "service credentials were not accepted"

def minServiceTokenChars : Nat := 32

def bearerPrefix : String := "Bearer "

def checkServiceToken (value : String) : Except String String :=
  if strip value ≠ value then .error "a service token must not have surrounding whitespace"
  else if value.length < minServiceTokenChars then
    .error s!"a service token must be at least {minServiceTokenChars} characters"
  else .ok value

/-- A string that no check of a service token refuses. -/
def FitToken (value : String) : Prop := strip value = value ∧ minServiceTokenChars ≤ value.length

theorem checkServiceToken_ok {value checked : String} :
    checkServiceToken value = .ok checked ↔ FitToken value ∧ checked = value := by
  rw [checkServiceToken, FitToken]
  split
  · rename_i padded
    simp [padded]
  · rename_i bare
    split
    · rename_i short
      simp only [reduceCtorEq, false_iff, not_and]
      intro fit
      omega
    · rename_i long
      simp only [Except.ok.injEq]
      constructor
      · intro same
        exact ⟨⟨not_not.mp bare, Nat.not_lt.mp long⟩, same.symm⟩
      · intro fit
        exact fit.2.symm

/-- `len(set(values)) == len(values)` -/
theorem dedup_length_iff (values : List String) :
    values.dedup.length = values.length ↔ values.Nodup := by
  constructor
  · intro same
    rw [← List.dedup_eq_self]
    exact (List.dedup_sublist values).eq_of_length same
  · intro distinct
    rw [List.dedup_eq_self.mpr distinct]

/-- Every token is fit, and it is one service's. -/
def FitTokens (tokens : List (String × String)) : Prop :=
  (∀ item ∈ tokens, FitToken item.2) ∧ (tokens.map Prod.snd).Nodup

/-! ## In the configuration -/

/-- `_check_service_tokens` of the settings; `tokens` is a dict from names. -/
def checkServiceTokens (tokens : List (String × String)) : Except String (List (String × String)) :=
  let secrets := tokens.map Prod.snd
  if secrets.any fun secret => strip secret ≠ secret || secret.length < minServiceTokenChars then
    .error (s!"each service token must be at least {minServiceTokenChars} " ++
      "characters, with no surrounding whitespace")
  else if secrets.dedup.length ≠ secrets.length then
    .error "two services share a service token; each needs its own"
  else .ok tokens

theorem checkServiceTokens_ok (tokens : List (String × String)) :
    checkServiceTokens tokens = .ok tokens ↔ FitTokens tokens := by
  have unfit : ((tokens.map Prod.snd).any fun secret =>
      strip secret ≠ secret || secret.length < minServiceTokenChars) = true ↔
        ¬ ∀ item ∈ tokens, FitToken item.2 := by
    rw [List.any_map, List.any_eq_true]
    simp only [Function.comp, Bool.or_eq_true, decide_eq_true_eq, FitToken, not_forall]
    constructor
    · intro found
      obtain ⟨item, listed, bad⟩ := found
      exact ⟨item, listed, fun fit => bad.elim (fun padded => padded fit.1) (by omega)⟩
    · intro found
      obtain ⟨item, listed, bad⟩ := found
      refine ⟨item, listed, ?_⟩
      by_cases padded : strip item.2 = item.2
      · exact Or.inr (Nat.lt_of_not_le fun long => bad ⟨padded, long⟩)
      · exact Or.inl padded
  rw [checkServiceTokens, FitTokens]
  by_cases fit : ∀ item ∈ tokens, FitToken item.2
  · rw [if_neg fun bad => unfit.mp bad fit]
    by_cases apart : (tokens.map Prod.snd).Nodup
    · rw [if_neg (not_not.mpr ((dedup_length_iff _).mpr apart))]
      exact iff_of_true rfl ⟨fit, apart⟩
    · rw [if_pos (mt (dedup_length_iff _).mp apart)]
      exact iff_of_false nofun fun both => apart both.2
  · rw [if_pos (unfit.mpr fit)]
    exact iff_of_false nofun fun both => fit both.1

/-! ## At a request -/

/-- The names are the keys of a dict, and no two of them share a token. -/
structure ServiceAuthenticator where
  tokens : List (String × String)
  named : (tokens.map Prod.fst).Nodup
  apart : (tokens.map Prod.snd).Nodup

namespace ServiceAuthenticator

/-- `__init__`; the tokens are checked in their order, and then against each other. -/
def build (tokens : List (String × String)) (named : (tokens.map Prod.fst).Nodup) :
    Except String ServiceAuthenticator := do
  tokens.forM fun item => discard (checkServiceToken item.2)
  if apart : (tokens.map Prod.snd).dedup.length = (tokens.map Prod.snd).length then
    .ok ⟨tokens, named, (dedup_length_iff _).mp apart⟩
  else .error "two services share a service token; each needs its own"

theorem checked_iff (tokens : List (String × String)) :
    (tokens.forM fun item => discard (checkServiceToken item.2)) = .ok () ↔
      ∀ item ∈ tokens, FitToken item.2 := by
  induction tokens with
  | nil => simp [List.forM_nil, pure, Except.pure]
  | cons item rest ih =>
      rw [List.forall_mem_cons, ← ih]
      change (discard (checkServiceToken item.2) >>= fun _ => rest.forM _) = .ok () ↔ _
      cases checked : checkServiceToken item.2 with
      | error message =>
          refine iff_of_false nofun fun both => ?_
          have fit := checkServiceToken_ok.mpr ⟨both.1, rfl⟩
          rw [checked] at fit
          cases fit
      | ok value =>
          have fit := (checkServiceToken_ok.mp checked).1
          exact ⟨fun done => ⟨fit, done⟩, fun both => both.2⟩

theorem build_ok (tokens : List (String × String)) (named : (tokens.map Prod.fst).Nodup)
    (authenticator : ServiceAuthenticator) :
    build tokens named = .ok authenticator ↔ FitTokens tokens ∧ authenticator.tokens = tokens := by
  rw [build, FitTokens, ← checked_iff]
  cases checked : tokens.forM fun item => discard (checkServiceToken item.2) with
  | error message => exact iff_of_false nofun fun both => nomatch both.1.1
  | ok nothing =>
      change (if apart : _ then Except.ok _ else Except.error _) = _ ↔ _
      by_cases apart : (tokens.map Prod.snd).Nodup
      · rw [dif_pos ((dedup_length_iff _).mpr apart), Except.ok.injEq]
        constructor
        · intro same
          rw [← same]
          exact ⟨⟨rfl, apart⟩, rfl⟩
        · intro both
          cases authenticator
          cases both.2
          rfl
      · rw [dif_neg (mt (dedup_length_iff _).mp apart)]
        exact iff_of_false nofun fun both => apart both.1.2

variable (authenticator : ServiceAuthenticator)

/-- The comparison does not stop at a match: the last one counts. -/
def matched (candidate : String) : Option String :=
  authenticator.tokens.foldl
    (fun found item => if candidate = item.2 then some item.1 else found) none

def identify (presented : Option String) : Except Error String :=
  match presented with
  | none => .error (.authentication badService)
  | some candidate =>
      if candidate = "" then .error (.authentication badService)
      else
        match authenticator.matched candidate with
        | none => .error (.authentication badService)
        | some name => .ok name

def identifyAuthorization (authorization : Option String) : Except Error String :=
  match authorization with
  | none => .error (.authentication badService)
  | some header =>
      if header.toList.take bearerPrefix.length = bearerPrefix.toList then
        authenticator.identify (some (String.ofList (header.toList.drop bearerPrefix.length)))
      else .error (.authentication badService)

variable {authenticator}

theorem matched_eq_some {candidate name : String} :
    authenticator.matched candidate = some name ↔ (name, candidate) ∈ authenticator.tokens := by
  have apart := authenticator.apart
  rw [matched]
  generalize authenticator.tokens = tokens at apart ⊢
  induction tokens using List.reverseRecOn with
  | nil => simp
  | append_singleton tokens item ih =>
      rw [List.map_append, List.nodup_append] at apart
      rw [List.foldl_append, List.foldl_cons, List.foldl_nil, List.mem_append, List.mem_singleton]
      by_cases here : candidate = item.2
      · rw [if_pos here]
        constructor
        · intro found
          exact Or.inr (Prod.ext (Option.some.inj found).symm here)
        · intro listed
          rcases listed with earlier | last
          · have before : candidate ∈ tokens.map Prod.snd := List.mem_map.mpr ⟨_, earlier, rfl⟩
            exact absurd here (apart.2.2 candidate before item.2 (by simp))
          · rw [← last]
      · have before := ih apart.1
        rw [if_neg here]
        constructor
        · intro found
          exact Or.inl (before.mp found)
        · intro listed
          rcases listed with earlier | last
          · exact before.mpr earlier
          · exact absurd (congrArg Prod.snd last) here

theorem identify_ok (fit : FitTokens authenticator.tokens) {token name : String} :
    authenticator.identify (some token) = .ok name ↔ (name, token) ∈ authenticator.tokens := by
  rw [← matched_eq_some, identify]
  by_cases empty : token = ""
  · subst empty
    rw [if_pos rfl]
    refine iff_of_false nofun fun found => ?_
    have long : minServiceTokenChars ≤ "".length := (fit.1 _ (matched_eq_some.mp found)).2
    exact absurd long (by decide)
  · rw [if_neg empty]
    cases authenticator.matched token with
    | none => exact iff_of_false nofun nofun
    | some found => simp

theorem identify_error {presented : Option String} {e : Error}
    (refused : authenticator.identify presented = .error e) : e = .authentication badService := by
  cases presented with
  | none =>
      cases refused
      rfl
  | some token =>
      rw [identify] at refused
      split at refused
      · cases refused
        rfl
      · split at refused <;> cases refused
        rfl

theorem identifyAuthorization_ok (fit : FitTokens authenticator.tokens) {header : Option String}
    {name : String} : authenticator.identifyAuthorization header = .ok name ↔
      ∃ token, header = some (bearerPrefix ++ token) ∧ (name, token) ∈ authenticator.tokens := by
  cases header with
  | none => exact iff_of_false nofun fun found => by simp at found
  | some header =>
      rw [identifyAuthorization]
      by_cases scheme : header.toList.take bearerPrefix.length = bearerPrefix.toList
      · rw [if_pos scheme, identify_ok fit]
        have split : header =
            bearerPrefix ++ String.ofList (header.toList.drop bearerPrefix.length) := by
          rw [← String.toList_inj, String.toList_append, String.toList_ofList, ← scheme,
            List.take_append_drop]
        constructor
        · intro listed
          exact ⟨_, congrArg some split, listed⟩
        · intro found
          obtain ⟨token, same, listed⟩ := found
          rw [Option.some.inj same, String.toList_append] at *
          simpa [← String.length_toList] using listed
      · rw [if_neg scheme]
        refine iff_of_false nofun fun found => ?_
        obtain ⟨token, same, -⟩ := found
        rw [Option.some.inj same, String.toList_append] at scheme
        exact scheme (by simp [← String.length_toList])

theorem identifyAuthorization_error {header : Option String} {e : Error}
    (refused : authenticator.identifyAuthorization header = .error e) :
    e = .authentication badService := by
  cases header with
  | none =>
      cases refused
      rfl
  | some header =>
      rw [identifyAuthorization] at refused
      split at refused
      · exact identify_error refused
      · cases refused
        rfl

end ServiceAuthenticator

/-- The configuration accepts the tokens that the authenticator can be built from, and then
a header is a service's exactly when it carries the token that the service is configured
with. -/
theorem accepted_identifies (pairs : List (String × String)) :
    (checkServiceTokens (dictOf pairs) = .ok (dictOf pairs) ↔
      ∃ authenticator, ServiceAuthenticator.build (dictOf pairs) (nodup_dictOf pairs) =
        .ok authenticator) ∧
    ∀ authenticator, ServiceAuthenticator.build (dictOf pairs) (nodup_dictOf pairs) =
      .ok authenticator → ∀ header,
        (∀ name, authenticator.identifyAuthorization header = .ok name ↔
          ∃ token, header = some (bearerPrefix ++ token) ∧ (dictOf pairs).lookup name = some token) ∧
        ∀ e, authenticator.identifyAuthorization header = .error e → e = .authentication badService := by
  have same : ∀ authenticator, ServiceAuthenticator.build (dictOf pairs) (nodup_dictOf pairs) =
      .ok authenticator ↔ FitTokens (dictOf pairs) ∧ authenticator.tokens = dictOf pairs :=
    ServiceAuthenticator.build_ok _ _
  constructor
  · rw [checkServiceTokens_ok]
    constructor
    · intro fit
      exact ⟨⟨_, nodup_dictOf pairs, fit.2⟩, (same _).mpr ⟨fit, rfl⟩⟩
    · intro built
      obtain ⟨authenticator, built⟩ := built
      exact ((same _).mp built).1
  · intro authenticator built header
    obtain ⟨fit, configured⟩ := (same _).mp built
    constructor
    · intro name
      rw [ServiceAuthenticator.identifyAuthorization_ok (by rwa [configured]), configured]
      simp only [lookup_iff_mem (nodup_dictOf pairs)]
    · intro e refused
      exact ServiceAuthenticator.identifyAuthorization_error refused

end Keyring
