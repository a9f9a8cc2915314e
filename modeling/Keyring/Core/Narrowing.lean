import Keyring.Core.Preferences
import Keyring.Scenario

/-!
# Personal settings only narrow

Three numbers pass the bounds of the catalogue in days, the ceilings of the
deployment in seconds, and the repair that lets the idle timeout win.  The
re-authentication flag has a rule of its own: it is off only where settings-api
has answered.
-/

set_option autoImplicit false

namespace Keyring

theorem reauthentication_off {resolved : ResolvedSettings} :
    reauthentication resolved = some false ↔
      resolved requireReauthKey = .value (.bool false) ∨ resolved requireReauthKey = .missing := by
  unfold reauthentication ResolvedSettings.get
  cases resolved requireReauthKey with
  | missing => simp
  | refused => simp
  | value v => cases v <;> simp

theorem reauthentication_unknown {resolved : ResolvedSettings} :
    reauthentication resolved = none ↔ resolved requireReauthKey = .refused ∨
      ∃ v, resolved requireReauthKey = .value v ∧ ∀ b, v ≠ .bool b := by
  unfold reauthentication ResolvedSettings.get
  cases resolved requireReauthKey with
  | missing => simp
  | refused => simp
  | value v => cases v <;> simp

/-- What `for_account` returns comes from an outage or from an answered namespace. -/
theorem forAccount_ok {settings : Settings} {outcome : Resolution} {preferences : Preferences} :
    forAccount settings outcome = .ok preferences ↔
      (outcome = .unavailable ∧ preferences =
        { deploymentPreferences settings with requireReauthForCredentialChanges := none }) ∨
      ∃ resolved, outcome = .resolved resolved ∧
        applySettings settings resolved = .ok preferences := by
  cases outcome with
  | unavailable => simp [forAccount, eq_comm]
  | rejected statusCode => simp [forAccount]
  | resolved resolved =>
      simp only [forAccount]
      cases applied : applySettings settings resolved with
      | ok found => simp [applied]
      | error refused => simp [applied]

/-- Personal settings narrow the ceilings of the deployment, and nothing but an answer
turns re-authentication off. -/
theorem preferences_only_narrow {settings : Settings} {outcome : Resolution}
    {preferences : Preferences} (answered : forAccount settings outcome = .ok preferences) :
    (0 < preferences.sessionTtlSeconds ∧
      preferences.sessionTtlSeconds ≤ settings.sessionTtlSeconds) ∧
    (preferences.sessionTtlSeconds ≤ preferences.sessionAbsoluteTtlSeconds ∧
      preferences.sessionAbsoluteTtlSeconds ≤ settings.sessionAbsoluteTtlSeconds) ∧
    (1 ≤ preferences.maxSessions ∧ preferences.maxSessions ≤ settings.maxSessionsPerAccount) ∧
    (preferences.requireReauthForCredentialChanges = some false ↔
      ∃ resolved, outcome = .resolved resolved ∧
        (resolved requireReauthKey = .value (.bool false) ∨
          resolved requireReauthKey = .missing)) ∧
    (preferences.requireReauthForCredentialChanges = none ↔ outcome = .unavailable ∨
      ∃ resolved, outcome = .resolved resolved ∧ (resolved requireReauthKey = .refused ∨
        ∃ v, resolved requireReauthKey = .value v ∧ ∀ b, v ≠ .bool b)) := by
  rcases forAccount_ok.mp answered with ⟨rfl, rfl⟩ | ⟨resolved, rfl, applied⟩
  · have deployment := deploymentPreferences_within settings
    refine ⟨⟨deployment.idle_pos, le_refl _⟩, ⟨deployment.idle_le, le_refl _⟩,
      ⟨settings.caps_pos.1, le_refl _⟩, ?_, ?_⟩
    · simp
    · simp
  · obtain ⟨idleDays, absoluteDays, maxSessions, idle, absolute, sessions, flag⟩ :=
      applySettings_ok applied
    have within := applySettings_within applied
    refine ⟨⟨within.idle_pos, ?_⟩, ⟨within.idle_le, within.absolute_le⟩,
      ⟨?_, within.sessions_le⟩, ?_, ?_⟩
    · rw [idle]
      exact narrowTtl_le _ _ _ _
    · rw [sessions]
      exact narrowCount_pos settings.caps_pos.1 (by decide) _ _
    · rw [flag, reauthentication_off]
      simp
    · rw [flag, reauthentication_unknown]
      simp

/-- A person who chose 400 days, an absolute ceiling of one day and no session at all. -/
def overreachingSettings : ResolvedSettings := fun key =>
  match key with
  | "session_ttl_days" => .value (.int 400)
  | "session_absolute_ttl_days" => .value (.int 1)
  | "max_sessions" => .value (.int 0)
  | _ => .missing

open Scenario in
theorem preferences_only_narrow_overreaching :
    let preferences : Preferences :=
      { deploymentPreferences settings with
        sessionAbsoluteTtlSeconds := settings.sessionTtlSeconds
        requireReauthForCredentialChanges := some false }
    (0 < preferences.sessionTtlSeconds ∧
      preferences.sessionTtlSeconds ≤ settings.sessionTtlSeconds) ∧
    (preferences.sessionTtlSeconds ≤ preferences.sessionAbsoluteTtlSeconds ∧
      preferences.sessionAbsoluteTtlSeconds ≤ settings.sessionAbsoluteTtlSeconds) ∧
    (1 ≤ preferences.maxSessions ∧ preferences.maxSessions ≤ settings.maxSessionsPerAccount) ∧
    (preferences.requireReauthForCredentialChanges = some false ↔
      ∃ resolved, Resolution.resolved overreachingSettings = .resolved resolved ∧
        (resolved requireReauthKey = .value (.bool false) ∨
          resolved requireReauthKey = .missing)) ∧
    (preferences.requireReauthForCredentialChanges = none ↔
      Resolution.resolved overreachingSettings = .unavailable ∨
      ∃ resolved, Resolution.resolved overreachingSettings = .resolved resolved ∧
        (resolved requireReauthKey = .refused ∨
          ∃ v, resolved requireReauthKey = .value v ∧ ∀ b, v ≠ .bool b)) :=
  @preferences_only_narrow _ (.resolved overreachingSettings) _ rfl

end Keyring
