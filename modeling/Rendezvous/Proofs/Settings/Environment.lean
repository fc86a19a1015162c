import Rendezvous.Settings.Service

/-!
# Settings that are read

An environment can be refused for two reasons only: who holds the session tokens, and the list of
development tokens. Everything else that is configured has a value, whatever the variables hold. So
the settings are what was gathered from the variables, once these two are known
(`Settings.ofEnvironment_eq_ok_iff`), and each of them can be looked at alone.

A number of seconds is what its variable holds, if that is a positive number of 64 bits, and the
usual one otherwise; it is never zero (`Settings.seconds_pos`).
-/

namespace Rendezvous.Settings

variable {env : Environment} {settings : Settings} {name text : String} {usual n : Nat}

/-! ### What is gathered -/

/-- The development tokens that are listed; none without a list. -/
def listedTokens (env : Environment) : Except SettingsError (List (String × UserId)) :=
  match env.get? "DEV_ACCESS_TOKENS" with
  | some text => readAccessTokens text
  | none => .ok []

/-- The settings of an environment with this holder of session tokens and these development
tokens. -/
def gathered (env : Environment) (holder : SessionHolder) (tokens : List (String × UserId)) :
    Settings where
  databaseUrl := (env.get? "DATABASE_URL").filter (!isAllBlank ·)
  port := (env.number? "PORT" greatest16).getD Limit.port
  holder := holder
  sessionSeconds := seconds env "SESSION_TOKEN_TTL_SECS" Limit.sessionSeconds
  heartbeatSeconds := seconds env "HEARTBEAT_INTERVAL_SECS" Limit.heartbeatSeconds
  connectionOrigins := readOrigins env
  accessTokens := tokens

theorem ofEnvironment_eq (env : Environment) :
    ofEnvironment env = (readHolder env).bind fun holder =>
      (listedTokens env).bind fun tokens => .ok (gathered env holder tokens) := by
  unfold ofEnvironment listedTokens
  cases readHolder env with
  | error e => rfl
  | ok holder =>
    cases env.get? "DEV_ACCESS_TOKENS" with
    | none => rfl
    | some text => rfl

/-- **The settings are what is gathered**, once the holder and the development tokens are known. -/
theorem ofEnvironment_eq_ok_iff : ofEnvironment env = .ok settings ↔
    ∃ holder tokens, readHolder env = .ok holder ∧ listedTokens env = .ok tokens ∧
      settings = gathered env holder tokens := by
  rw [ofEnvironment_eq]
  cases readHolder env with
  | error e => simp [Except.bind]
  | ok holder =>
    cases listedTokens env with
    | error e => simp [Except.bind]
    | ok tokens => simp [Except.bind, eq_comm]

theorem sessionSeconds_of_environment (henv : ofEnvironment env = .ok settings) :
    settings.sessionSeconds = seconds env "SESSION_TOKEN_TTL_SECS" Limit.sessionSeconds := by
  obtain ⟨holder, tokens, -, -, rfl⟩ := ofEnvironment_eq_ok_iff.1 henv
  rfl

theorem connectionOrigins_of_environment (henv : ofEnvironment env = .ok settings) :
    settings.connectionOrigins = readOrigins env := by
  obtain ⟨holder, tokens, -, -, rfl⟩ := ofEnvironment_eq_ok_iff.1 henv
  rfl

theorem accessTokens_of_environment (henv : ofEnvironment env = .ok settings) :
    listedTokens env = .ok settings.accessTokens := by
  obtain ⟨holder, tokens, -, htokens, rfl⟩ := ofEnvironment_eq_ok_iff.1 henv
  exact htokens

/-! ### Seconds -/

/-- **A positive number of seconds is taken as it is.** -/
theorem seconds_of_number (hnumber : env.number? name greatest64 = some n) (hpos : 0 < n) :
    (seconds env name usual).toNat = n := by
  have hle : n ≤ greatest64 := by
    obtain ⟨text, -, hread⟩ := Option.bind_eq_some_iff.1 hnumber
    simpa using (Option.filter_eq_some_iff.1 hread).2
  unfold greatest64 at hle
  simp only [seconds, hnumber, if_pos hpos, UInt64.toNat_ofNat']
  omega

/-- **The seconds are never zero**, if the usual ones are none. -/
theorem seconds_pos (hpos : 0 < usual) (hle : usual ≤ greatest64) :
    0 < (seconds env name usual).toNat := by
  have husual : (UInt64.ofNat usual).toNat = usual := by
    unfold greatest64 at hle
    rw [UInt64.toNat_ofNat']
    omega
  cases hnumber : env.number? name greatest64 with
  | none => simpa [seconds, hnumber, husual] using hpos
  | some n =>
    rcases Nat.eq_zero_or_pos n with rfl | hn
    · simpa [seconds, hnumber, husual] using hpos
    · rwa [seconds_of_number hnumber hn]

end Rendezvous.Settings
