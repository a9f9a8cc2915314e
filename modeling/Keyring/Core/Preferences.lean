import Keyring.World

/-!
# What one person has chosen

A login and a credential change ask settings-api for the person's choices.  What
comes back is clamped to the bounds of the catalogue and to this deployment's
own values, so that a person may narrow a ceiling and never raise it.
-/

set_option autoImplicit false

namespace Keyring

def secondsPerDay : Int := 24 * 3600
def sessionTtlDaysMin : Int := 1
def sessionTtlDaysMax : Int := 90
def sessionAbsoluteTtlDaysMin : Int := 1
def sessionAbsoluteTtlDaysMax : Int := 365
def maxSessionsMin : Int := 1
def maxSessionsMax : Int := 20

def emailNotificationsKey : String := "email_notifications"
def notifyOnNewSessionKey : String := "notify_on_new_session"
def notifyOnCredentialChangeKey : String := "notify_on_credential_change"
def requireReauthKey : String := "require_reauth_for_credential_changes"

def settingsRefusedMessage : String :=
  "settings-api did not accept this service's request for your settings"
def settingNotGuessed : String :=
  "one of your settings could not be read from settings-api and must not be guessed"

/-- What a resolved namespace has under a key. -/
inductive Setting where
  | missing
  | refused
  | value (v : Json)

abbrev ResolvedSettings := String → Setting

/-- The key of an entry that must not be guessed. -/
structure SettingsRefused where
  key : String

/-- `resolved.get(key, default)` -/
def ResolvedSettings.get (resolved : ResolvedSettings) (key : String) (default : Json) :
    Except SettingsRefused Json :=
  match resolved key with
  | .missing => .ok default
  | .refused => .error ⟨key⟩
  | .value v => .ok v

def wholeNumber (resolved : ResolvedSettings) (key : String) (minimum : Int) :
    Except SettingsRefused (Option Int) := do
  match ← resolved.get key .null with
  | .int n => if n ≥ minimum then .ok (some n) else .ok none
  | _ => .ok none

def switch (resolved : ResolvedSettings) (key : String) (default : Bool) :
    Except SettingsRefused Bool := do
  match ← resolved.get key .null with
  | .bool b => .ok b
  | _ => .ok default

/-- A value that cannot be used is unknown, and so is a refused one. -/
def reauthentication (resolved : ResolvedSettings) : Option Bool :=
  match resolved.get requireReauthKey (.bool false) with
  | .ok (.bool b) => some b
  | _ => none

def narrowTtl (deployment : Int) (chosenDays : Option Int) (minimumDays maximumDays : Int) : Int :=
  match chosenDays with
  | none => deployment
  | some days => min deployment (max minimumDays (min days maximumDays) * secondsPerDay)

def narrowCount (deployment : Nat) (chosen : Option Int) (minimum maximum : Int) : Nat :=
  match chosen with
  | none => deployment
  | some n => (min (deployment : Int) (max minimum (min n maximum))).toNat

def deploymentPreferences (settings : Settings) : Preferences where
  sessionTtlSeconds := settings.sessionTtlSeconds
  sessionAbsoluteTtlSeconds := settings.sessionAbsoluteTtlSeconds
  maxSessions := settings.maxSessionsPerAccount

/-- `_apply`.  When a person sets the absolute ceiling below the idle one, idle
wins. -/
def applySettings (settings : Settings) (resolved : ResolvedSettings) :
    Except SettingsRefused Preferences := do
  let deployment := deploymentPreferences settings
  let idleDays ← wholeNumber resolved "session_ttl_days" 1
  let absoluteDays ← wholeNumber resolved "session_absolute_ttl_days" 1
  let maxSessions ← wholeNumber resolved "max_sessions" 1
  let idle := narrowTtl deployment.sessionTtlSeconds idleDays sessionTtlDaysMin sessionTtlDaysMax
  let absolute := narrowTtl deployment.sessionAbsoluteTtlSeconds absoluteDays
    sessionAbsoluteTtlDaysMin sessionAbsoluteTtlDaysMax
  let absolute := max absolute idle
  let emailNotifications ← switch resolved emailNotificationsKey deployment.emailNotifications
  let notifyOnNewSession ← switch resolved notifyOnNewSessionKey deployment.notifyOnNewSession
  let notifyOnCredentialChange ←
    switch resolved notifyOnCredentialChangeKey deployment.notifyOnCredentialChange
  .ok {
    sessionTtlSeconds := idle
    sessionAbsoluteTtlSeconds := absolute
    maxSessions := narrowCount deployment.maxSessions maxSessions maxSessionsMin maxSessionsMax
    emailNotifications := emailNotifications
    notifyOnNewSession := notifyOnNewSession
    notifyOnCredentialChange := notifyOnCredentialChange
    requireReauthForCredentialChanges := reauthentication resolved }

/-- How a resolve at settings-api can end. -/
inductive Resolution where
  | unavailable
  | rejected (statusCode : Nat)
  | resolved (settings : ResolvedSettings)

/-- `SettingsApiPreferences.for_account`: an outage stands for the configuration,
a refusal is none. -/
def forAccount (settings : Settings) : Resolution → Except String Preferences
  | .unavailable => .ok { deploymentPreferences settings with
      requireReauthForCredentialChanges := none }
  | .rejected _ => .error settingsRefusedMessage
  | .resolved resolved =>
      match applySettings settings resolved with
      | .ok preferences => .ok preferences
      | .error _ => .error settingNotGuessed

/-- What a source of preferences may answer: the configuration where nobody's own
choices are read, and otherwise what `for_account` makes of a resolve. -/
def Chosen (settings : Settings) (answered : Except String Preferences) : Prop :=
  answered = .ok (deploymentPreferences settings) ∨ ∃ outcome, answered = forAccount settings outcome

/-! ## A person may narrow a ceiling and never raise it -/

/-- The choices are inside the deployment's ceilings. -/
structure Preferences.Within (preferences : Preferences) (settings : Settings) : Prop where
  idle_pos : 0 < preferences.sessionTtlSeconds
  idle_le : preferences.sessionTtlSeconds ≤ preferences.sessionAbsoluteTtlSeconds
  absolute_le : preferences.sessionAbsoluteTtlSeconds ≤ settings.sessionAbsoluteTtlSeconds
  sessions_le : preferences.maxSessions ≤ settings.maxSessionsPerAccount

theorem narrowTtl_le (deployment : Int) (chosen : Option Int) (minimum maximum : Int) :
    narrowTtl deployment chosen minimum maximum ≤ deployment := by
  unfold narrowTtl
  split
  · exact le_refl _
  · exact min_le_left _ _

theorem narrowTtl_pos {deployment minimum : Int} (positive : 0 < deployment) (least : 0 < minimum)
    (chosen : Option Int) (maximum : Int) : 0 < narrowTtl deployment chosen minimum maximum := by
  unfold narrowTtl
  split
  · exact positive
  · rename_i days
    have clamped : minimum ≤ max minimum (min days maximum) := le_max_left _ _
    apply lt_min positive
    unfold secondsPerDay
    omega

theorem narrowCount_le (deployment : Nat) (chosen : Option Int) (minimum maximum : Int) :
    narrowCount deployment chosen minimum maximum ≤ deployment := by
  unfold narrowCount
  split
  · exact le_refl _
  · omega

theorem deploymentPreferences_within (settings : Settings) :
    (deploymentPreferences settings).Within settings where
  idle_pos := settings.ttls_pos.1
  idle_le := settings.absolute_ge
  absolute_le := le_refl _
  sessions_le := le_refl _

theorem narrowCount_pos {deployment : Nat} {minimum : Int} (positive : 0 < deployment)
    (least : 0 < minimum) (chosen : Option Int) (maximum : Int) :
    0 < narrowCount deployment chosen minimum maximum := by
  unfold narrowCount
  split
  · exact positive
  · omega

theorem bind_succeeds {ε α β : Type} {x : Except ε α} {f : α → Except ε β} {b : β}
    (done : x >>= f = .ok b) : ∃ a, x = .ok a ∧ f a = .ok b := by
  cases x with
  | ok a => exact ⟨a, rfl, done⟩
  | error e => cases done

/-- What `_apply` returns, over the numbers and switches that it could read. -/
theorem applySettings_ok {settings : Settings} {resolved : ResolvedSettings}
    {preferences : Preferences} (applied : applySettings settings resolved = .ok preferences) :
    ∃ idleDays absoluteDays maxSessions,
      preferences.sessionTtlSeconds = narrowTtl settings.sessionTtlSeconds idleDays
        sessionTtlDaysMin sessionTtlDaysMax ∧
      preferences.sessionAbsoluteTtlSeconds = max (narrowTtl settings.sessionAbsoluteTtlSeconds
        absoluteDays sessionAbsoluteTtlDaysMin sessionAbsoluteTtlDaysMax)
          preferences.sessionTtlSeconds ∧
      preferences.maxSessions = narrowCount settings.maxSessionsPerAccount maxSessions
        maxSessionsMin maxSessionsMax ∧
      preferences.requireReauthForCredentialChanges = reauthentication resolved := by
  obtain ⟨idleDays, -, afterIdle⟩ := bind_succeeds applied
  obtain ⟨absoluteDays, -, afterAbsolute⟩ := bind_succeeds afterIdle
  obtain ⟨maxSessions, -, afterSessions⟩ := bind_succeeds afterAbsolute
  obtain ⟨_, -, afterEmail⟩ := bind_succeeds afterSessions
  obtain ⟨_, -, afterNew⟩ := bind_succeeds afterEmail
  obtain ⟨_, -, afterChange⟩ := bind_succeeds afterNew
  cases afterChange
  exact ⟨idleDays, absoluteDays, maxSessions, rfl, rfl, rfl, rfl⟩

theorem applySettings_within {settings : Settings} {resolved : ResolvedSettings}
    {preferences : Preferences} (applied : applySettings settings resolved = .ok preferences) :
    preferences.Within settings := by
  obtain ⟨idleDays, absoluteDays, maxSessions, idle, absolute, sessions, -⟩ :=
    applySettings_ok applied
  have below := narrowTtl_le settings.sessionTtlSeconds idleDays sessionTtlDaysMin sessionTtlDaysMax
  have ceiling := narrowTtl_le settings.sessionAbsoluteTtlSeconds absoluteDays
    sessionAbsoluteTtlDaysMin sessionAbsoluteTtlDaysMax
  have ordered := settings.absolute_ge
  constructor
  · rw [idle]
    exact narrowTtl_pos settings.ttls_pos.1 (by decide) idleDays _
  · omega
  · omega
  · rw [sessions]
    exact narrowCount_le _ _ _ _

theorem Chosen.within {settings : Settings} {preferences : Preferences}
    (chosen : Chosen settings (.ok preferences)) : preferences.Within settings := by
  rcases chosen with same | ⟨outcome, same⟩
  · cases same
    exact deploymentPreferences_within settings
  · cases outcome with
    | unavailable =>
        cases same
        have deployment := deploymentPreferences_within settings
        exact ⟨deployment.1, deployment.2, deployment.3, deployment.4⟩
    | rejected statusCode => cases same
    | resolved resolved =>
        simp only [forAccount] at same
        split at same
        · cases same
          exact applySettings_within (by assumption)
        · cases same

end Keyring
