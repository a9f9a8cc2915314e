import Keyring.Percent

/-!
# What the messages say

A message carries its token in a link where there is a page to link to, and bare
where there is none.
-/

set_option autoImplicit false

namespace Keyring

structure EmailMessage where
  toAddress : String
  subject : String
  body : String
  deriving DecidableEq

def inviteSubject : String := "You have been invited to keyring"
def resetSubject : String := "Reset your keyring password"

/-- `str.rstrip("/")` -/
def rstripSlashes (s : String) : String :=
  String.ofList (s.toList.reverse.dropWhile (· = '/')).reverse

namespace Templates

def link (linkBaseUrl path token : String) : String :=
  rstripSlashes linkBaseUrl ++ "/" ++ path ++ "?token=" ++ String.ofList (Percent.quote [] token)

/-- A link when one can be built, otherwise the bare token. -/
def action (linkBaseUrl path token fallback : String) : String :=
  if linkBaseUrl.isEmpty then fallback ++ "\n\n    " ++ token
  else "Open this link:\n\n    " ++ link linkBaseUrl path token

def inviteAction (token linkBaseUrl : String) : String :=
  action linkBaseUrl "invite" token "Your invite code is:"

def resetAction (token linkBaseUrl : String) : String :=
  action linkBaseUrl "reset" token "Your reset code is:"

/-- The text before the action, the action on lines of its own, and the text after it. -/
def compose (before action after : String) : String := before ++ action ++ "\n" ++ after

def inviteBefore : String :=
  "Someone with access to a keyring server has invited you to create an account on it.\n" ++
  "keyring stores the logins and API keys your services use on your behalf.\n\n"

def inviteMessage (toAddress token : String) (expiresInDays : Int) (linkBaseUrl : String) :
    EmailMessage where
  toAddress := toAddress
  subject := inviteSubject
  body := compose inviteBefore (inviteAction token linkBaseUrl)
    (s!"\nThis invite works once and expires in {expiresInDays} days. Anyone who has it can\n" ++
    "create the account, so treat it like a password until you have used it.\n\n" ++
    "If you were not expecting this, ignore it -- the invite expires on its own and no\n" ++
    "account is created.\n")

def resetBefore : String := "Someone asked to reset the keyring password for this address.\n\n"

def resetMessage (toAddress token : String) (expiresInMinutes : Int) (linkBaseUrl : String) :
    EmailMessage where
  toAddress := toAddress
  subject := resetSubject
  body := compose resetBefore (resetAction token linkBaseUrl)
    (s!"\nThis works once and expires in {expiresInMinutes} minutes. Using it will also sign\n" ++
    "this account out everywhere else.\n\n" ++
    "If you did not ask for this, ignore this message. Your password has not changed and the\n" ++
    "code above expires unused. Nobody needs to do anything.\n")

/-! ## The link -/

theorem form_token (token : String) :
    Percent.form ("token=".toList ++ Percent.quote [] token) =
      [("token", token)].map fun p => (Percent.utf8 p.1, Percent.utf8 p.2) := by
  have safe : ∀ {c : Char}, c ∉ Percent.alwaysSafe → c ≠ '%' → c ∉ Percent.quote [] token :=
    fun other marker => Percent.quote_not_mem other (by simp) marker token
  have whole : "token=".toList ++ Percent.quote [] token =
      ['&'].intercalate ([token].map fun t => "token".toList ++ '=' :: Percent.quote [] t) := by
    simp
  rw [whole, Percent.form_intercalate _ [token]]
  · have name : ∀ s : List Char, '+' ∉ s → Percent.unplus s = s := fun s => Percent.unplus_eq_self
    have value : Percent.unquote (Percent.quote [] token ++ []) =
        Percent.utf8 token ++ Percent.unquote [] := Percent.unquote_quote (Percent.plain_of_all rfl) token []
    rw [List.append_nil, show Percent.unquote [] = [] from rfl, List.append_nil] at value
    simp only [List.map_cons, List.map_nil, Percent.field, Percent.cut_eq (by decide : '=' ∉ "token".toList),
      name _ (safe (by decide) (by decide)), value]
    rw [name _ (by decide)]
    rfl
  · intro t listed member
    rw [List.mem_singleton.mp listed] at member
    rcases List.mem_append.mp member with impossible | rest
    · exact absurd impossible (by decide)
    · rcases List.mem_cons.mp rest with impossible | written
      · exact absurd impossible (by decide)
      · exact safe (by decide) (by decide) written
  · simp

theorem link_toList (linkBaseUrl path token : String) :
    (link linkBaseUrl path token).toList =
      ((rstripSlashes linkBaseUrl).toList ++ '/' :: path.toList) ++
        '?' :: ("token=".toList ++ Percent.quote [] token) := by
  simp [link]

theorem quote_token_not_mem {c : Char} (other : c ∉ Percent.alwaysSafe)
    (written : c ∉ "%token=".toList) (token : String) :
    c ∉ "token=".toList ++ Percent.quote [] token := by
  intro member
  rcases List.mem_append.mp member with name | value
  · exact written (List.mem_cons_of_mem _ name)
  · refine Percent.quote_not_mem other (by simp) (fun same => written ?_) token value
    exact same ▸ List.mem_cons_self

/-- Whoever opens the link presents the token that it was made for, whatever the token is,
exactly when the base has neither a query nor a fragment. -/
theorem link_carries_iff {path : String} (plain : '?' ∉ path.toList ∧ '#' ∉ path.toList)
    (linkBaseUrl : String) :
    (∀ token, Percent.Carries (link linkBaseUrl path token).toList [("token", token)]) ↔
      '?' ∉ (rstripSlashes linkBaseUrl).toList ∧ '#' ∉ (rstripSlashes linkBaseUrl).toList := by
  have asked : '#' ∉ (rstripSlashes linkBaseUrl).toList → ∀ token,
      (Percent.Carries (link linkBaseUrl path token).toList [("token", token)] ↔
        '?' ∉ (rstripSlashes linkBaseUrl).toList) := by
    intro hash token
    have tail := quote_token_not_mem (by decide : '#' ∉ Percent.alwaysSafe) (by decide) token
    rw [link_toList, Percent.carries_append_iff _ (form_token token)]
    · simp [plain.1]
    · simp only [List.mem_append, List.mem_cons, not_or] at tail ⊢
      exact ⟨⟨hash, by decide, plain.2⟩, by decide, tail⟩
  constructor
  · intro carries
    have hash : '#' ∉ (rstripSlashes linkBaseUrl).toList := by
      intro fragment
      -- The query ends before the token, so two tokens would be read alike.
      have first := carries "a"
      have second := carries "b"
      rw [link_toList, List.append_assoc, Percent.carries_of_fragment fragment] at first second
      exact absurd (first.unique second) (by decide)
    exact ⟨(asked hash "").mp (carries ""), hash⟩
  · rintro ⟨mark, hash⟩ token
    exact (asked hash token).mpr mark

/-! ## The message -/

/-- What a message sets off from its text: its first line that is indented. -/
def indented (body : String) : List Char :=
  (((body.toList.splitOn '\n').find? ("    ".toList.isPrefixOf ·)).getD []).drop 4

theorem indented_eq (before after : List Char) {body : String} {line : List Char}
    (whole : body.toList = before ++ '\n' :: ("    ".toList ++ line) ++ '\n' :: after)
    (plain : ((before.splitOn '\n').find? ("    ".toList.isPrefixOf ·)) = none)
    (single : '\n' ∉ line) : indented body = line := by
  have alone : ("    ".toList ++ line).splitOn '\n' = ["    ".toList ++ line] := by
    refine List.splitOn_eq_singleton ?_
    simp only [List.mem_append, not_or]
    exact ⟨by decide, single⟩
  have here : "    ".toList.isPrefixOf ("    ".toList ++ line) = true :=
    List.isPrefixOf_iff_prefix.mpr (List.prefix_append _ _)
  rw [indented, whole, List.append_assoc, List.cons_append, List.splitOn_append_cons_self,
    List.splitOn_append_cons_self, List.find?_append, plain, alone, List.singleton_append,
    List.find?_cons_of_pos here]
  rfl

/-- The base is there, and is one line without a query or a fragment. -/
def Linkable (linkBaseUrl : String) : Prop :=
  linkBaseUrl ≠ "" ∧ ∀ c ∈ ['\n', '?', '#'], c ∉ (rstripSlashes linkBaseUrl).toList

/-- What comes before the indented line has no such line itself. -/
abbrev Unindented (before : String) : Prop :=
  (before.toList.splitOn '\n').find? ("    ".toList.isPrefixOf ·) = none

theorem compose_carries_iff {before fallback path after : String}
    (opening : Unindented (before ++ "Open this link:\n")) (code : Unindented (before ++ fallback ++ "\n"))
    (plain : '?' ∉ path.toList ∧ '#' ∉ path.toList ∧ '\n' ∉ path.toList) (linkBaseUrl : String) :
    (∀ token, Percent.Carries (indented (compose before (action linkBaseUrl path token fallback) after))
      [("token", token)]) ↔ Linkable linkBaseUrl := by
  by_cases missing : linkBaseUrl = ""
  · -- The token itself is on the line, and a text without a question mark asks for nothing.
    refine iff_of_false (fun carries => ?_) fun linkable => linkable.1 missing
    have bare := carries "a"
    have line : indented (compose before (action linkBaseUrl path "a" fallback) after) = ['a'] := by
      refine indented_eq (before ++ fallback ++ "\n").toList after.toList ?_ code (by decide)
      rw [compose, action, missing]
      simp
    rw [line] at bare
    exact absurd bare (by simp [Percent.Carries, Percent.query, Percent.form])
  · have present : linkBaseUrl.isEmpty = false := by simpa using missing
    have text : ∀ token, (compose before (action linkBaseUrl path token fallback) after).toList =
        (before ++ "Open this link:\n").toList ++ '\n' ::
          ("    ".toList ++ (link linkBaseUrl path token).toList) ++ '\n' :: after.toList := by
      intro token
      rw [compose, action, present]
      simp
    by_cases break' : '\n' ∈ (rstripSlashes linkBaseUrl).toList
    · -- The line ends within the base, so two tokens would be read alike.
      refine iff_of_false (fun carries => ?_) fun linkable => linkable.2 '\n' (by simp) break'
      obtain ⟨front, back, split, without⟩ := List.eq_append_cons_of_mem break'
      have cut : ∀ token, indented (compose before (action linkBaseUrl path token fallback) after) =
          front := by
        intro token
        refine indented_eq (before ++ "Open this link:\n").toList
          (back ++ '/' :: path.toList ++ '?' :: ("token=".toList ++ Percent.quote [] token) ++
            '\n' :: after.toList) ?_ opening without
        rw [text, link_toList, split]
        simp
      have first := carries "a"
      have second := carries "b"
      rw [cut] at first second
      exact absurd (first.unique second) (by decide)
    · have line : ∀ token, indented (compose before (action linkBaseUrl path token fallback) after) =
          (link linkBaseUrl path token).toList := by
        intro token
        refine indented_eq _ _ (text token) opening ?_
        have tail := quote_token_not_mem (by decide : '\n' ∉ Percent.alwaysSafe) (by decide) token
        rw [link_toList]
        simp only [List.mem_append, List.mem_cons, not_or] at tail ⊢
        exact ⟨⟨break', by decide, plain.2.2⟩, by decide, tail⟩
      simp only [line, link_carries_iff ⟨plain.1, plain.2.1⟩, Linkable, List.forall_mem_cons,
        List.not_mem_nil, break']
      simp [missing]

/-- Both messages bring whoever opens their link to the page with the token they are about,
whatever the token is, exactly when the configured base is fit to be linked to. -/
theorem messages_carry_iff (toAddress : String) (expiry : Int) (linkBaseUrl : String) :
    ((∀ token, Percent.Carries (indented (inviteMessage toAddress token expiry linkBaseUrl).body)
      [("token", token)]) ↔ Linkable linkBaseUrl) ∧
    ((∀ token, Percent.Carries (indented (resetMessage toAddress token expiry linkBaseUrl).body)
      [("token", token)]) ↔ Linkable linkBaseUrl) := by
  constructor
  · exact compose_carries_iff (by decide +kernel) (by decide +kernel) (by decide) linkBaseUrl
  · exact compose_carries_iff (by decide +kernel) (by decide +kernel) (by decide) linkBaseUrl

end Templates

end Keyring
