import Rendezvous.Identity
import Rendezvous.Settings.Environment
import Rendezvous.Settings.Origins
import Rendezvous.Text.Lowercase

/-!
# What is configured

The settings of the service and of its database, read from the environment. A variable that is not
set has its usual value. Most variables that make no sense count as not set; three stop the program:
a holder of session tokens that is none, one that has no address, and development tokens that name
no user.
-/

namespace Rendezvous

/-- Who holds the session tokens. -/
inductive SessionHolder where
  /-- The service itself. -/
  | process
  /-- A key server. -/
  | keyServer (url : String)
  deriving DecidableEq, Repr

/-- Why the settings are refused. -/
inductive SettingsError where
  /-- No address is given for the key server. -/
  | noKeyServer
  /-- There is no such holder of session tokens. -/
  | unknownHolder (word : String)
  /-- A development token without a user. -/
  | tokenWithoutUser (entry : String)
  /-- A development token whose user is no number. -/
  | tokenOfNobody (entry : String)
  /-- No address is given for the database. -/
  | noDatabase
  deriving DecidableEq, Repr

/-- What is said of refused settings. -/
def SettingsError.message : SettingsError → String
  | .noKeyServer => "REDIS_URL must be set when SESSION_BACKEND=redis"
  | .unknownHolder word =>
    "Unknown SESSION_BACKEND '" ++ word ++ "', expected 'memory' or 'redis'"
  | .tokenWithoutUser entry => "DEV_ACCESS_TOKENS entry '" ++ entry ++ "' is not token:user_id"
  | .tokenOfNobody entry => "DEV_ACCESS_TOKENS entry '" ++ entry ++ "' has a non-numeric user id"
  | .noDatabase => "DATABASE_URL must be set"

/-- The settings of the service. -/
structure Settings where
  /-- The address of the database; without one, everything is kept in the process. -/
  databaseUrl : Option String
  /-- The port of the server. -/
  port : Nat
  /-- Who holds the session tokens. -/
  holder : SessionHolder
  /-- The life of a session token in seconds. -/
  sessionSeconds : UInt64
  /-- The time between two heartbeat rounds in seconds. -/
  heartbeatSeconds : UInt64
  /-- From where connections may be opened, if that is restricted. -/
  connectionOrigins : Option (List String)
  /-- The bearer tokens that are known from the start. -/
  accessTokens : List (String × UserId)
  deriving DecidableEq, Repr

namespace Settings

/-- The settings when nothing is configured. -/
def default : Settings where
  databaseUrl := none
  port := Limit.port
  holder := .process
  sessionSeconds := UInt64.ofNat Limit.sessionSeconds
  heartbeatSeconds := UInt64.ofNat Limit.heartbeatSeconds
  connectionOrigins := none
  accessTokens := []

/-- The greatest natural number of 64 bits. -/
def greatest64 : Nat := 18446744073709551615

/-- The greatest natural number of 32 bits. -/
def greatest32 : Nat := 4294967295

/-- The greatest natural number of 16 bits. -/
def greatest16 : Nat := 65535

/-- A number of seconds: what the variable holds if that is positive. -/
def seconds (env : Environment) (name : String) (usual : Nat) : UInt64 :=
  match env.number? name greatest64 with
  | some n => UInt64.ofNat (if 0 < n then n else usual)
  | none => UInt64.ofNat usual

/-- One development token: a token and the number of its user around the last colon. -/
def accessToken (entry : String) : Except SettingsError (String × UserId) :=
  match splitLast ':' entry.toList with
  | none => .error (.tokenWithoutUser entry)
  | some (token, user) =>
    match Numeral.readInt64 (String.ofList (trimChars user)) with
    | none => .error (.tokenOfNobody entry)
    | some id => .ok (String.ofList (trimChars token), id)

/-- The development tokens of a list between commas. The first entry that makes no sense is the one
that is named. -/
def readAccessTokens (text : String) : Except SettingsError (List (String × UserId)) :=
  (listEntries text).mapM accessToken

/-- Who holds the session tokens. The word for it may be written in any case. -/
def readHolder (env : Environment) : Except SettingsError SessionHolder :=
  let word := Lowercase.lower ((env.get? "SESSION_BACKEND").getD "memory")
  if word = "memory" then .ok .process
  else if word = "redis" then
    match env.get? "REDIS_URL" with
    | some url => .ok (.keyServer url)
    | none => .error .noKeyServer
  else .error (.unknownHolder word)

/-- The origins from where connections may be opened. -/
def readOrigins (env : Environment) : Option (List String) :=
  ((env.get? "WS_ALLOWED_ORIGINS").map listEntries).filter (!·.isEmpty)

/-- The settings of an environment. -/
def ofEnvironment (env : Environment) : Except SettingsError Settings := do
  let holder ← readHolder env
  let accessTokens ←
    match env.get? "DEV_ACCESS_TOKENS" with
    | some text => readAccessTokens text
    | none => .ok []
  .ok {
    databaseUrl := (env.get? "DATABASE_URL").filter (!isAllBlank ·)
    port := (env.number? "PORT" greatest16).getD Limit.port
    holder
    sessionSeconds := seconds env "SESSION_TOKEN_TTL_SECS" Limit.sessionSeconds
    heartbeatSeconds := seconds env "HEARTBEAT_INTERVAL_SECS" Limit.heartbeatSeconds
    connectionOrigins := readOrigins env
    accessTokens }

/-- Whether a request from `origin` may open a connection. -/
def admits (s : Settings) (origin : Option String) : Bool :=
  mayConnect s.connectionOrigins origin

end Settings

/-- What the answering of requests depends on. -/
structure Terms where
  /-- How long a session token lives. -/
  sessionLife : Nanos
  /-- From where connections may be opened, if that is restricted. -/
  connectionOrigins : Option (List String)
  /-- To whom a browser may show the answers. -/
  sharing : Sharing
  deriving DecidableEq, Repr

/-- The terms on which a service with these settings answers requests. -/
def Settings.terms (s : Settings) (sharing : Sharing) : Terms :=
  ⟨ofSeconds s.sessionSeconds.toNat, s.connectionOrigins, sharing⟩

/-- The settings of the database. -/
structure DatabaseSettings where
  /-- The address of the database. -/
  url : String
  /-- How many connections are kept at most. -/
  connections : Nat
  deriving DecidableEq, Repr

/-- The settings of the database in an environment. -/
def DatabaseSettings.ofEnvironment (env : Environment) : Except SettingsError DatabaseSettings :=
  match env.get? "DATABASE_URL" with
  | none => .error .noDatabase
  | some url =>
    .ok ⟨url, (env.number? "DB_MAX_CONNECTIONS" Settings.greatest32).getD Limit.poolDefault⟩

end Rendezvous
