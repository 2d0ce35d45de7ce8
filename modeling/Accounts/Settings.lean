import Accounts.Service.Operations
import Accounts.Session.Address
import Accounts.Text.UpperCase

/-! # Settings

The service is set up from the environment. Each variable has a default; an empty secret is replaced
by a fresh one. What looks like a mistake is warned about and does not stop the service.
-/
namespace Accounts

inductive Variable where
  | databaseUrl
  | sessionUrl
  | secret
  | algorithm
  | issuer
  | accessMinutes
  | refreshHours
  | resetMinutes
  | resetBase
  | rounds
  | environment
  | logLevel
  | debug
  deriving DecidableEq, Repr

def Variable.name : Variable → String
  | .databaseUrl => "DATABASE_URL"
  | .sessionUrl => "REDIS_URL"
  | .secret => "JWT_SECRET_KEY"
  | .algorithm => "JWT_ALGORITHM"
  | .issuer => "JWT_ISSUER"
  | .accessMinutes => "ACCESS_TOKEN_EXPIRE_MINUTES"
  | .refreshHours => "REFRESH_TOKEN_EXPIRE_HOURS"
  | .resetMinutes => "RESET_TOKEN_EXPIRE_MINUTES"
  | .resetBase => "RESET_URL_BASE"
  | .rounds => "BCRYPT_ROUNDS"
  | .environment => "APP_ENV"
  | .logLevel => "LOG_LEVEL"
  | .debug => "DEBUG"

def Variable.default : Variable → String
  | .databaseUrl => "sqlite:///./gatekeeper.db"
  | .sessionUrl => ""
  | .secret => ""
  | .algorithm => "HS256"
  | .issuer => "gatekeeper"
  | .accessMinutes => "15"
  | .refreshHours => "168"
  | .resetMinutes => "30"
  | .resetBase => "http://localhost:8000/reset-password"
  | .rounds => "12"
  | .environment => "development"
  | .logLevel => "INFO"
  | .debug => "false"

def Variable.all : List Variable :=
  [.databaseUrl, .sessionUrl, .secret, .algorithm, .issuer, .accessMinutes, .refreshHours,
    .resetMinutes, .resetBase, .rounds, .environment, .logLevel, .debug]

abbrev Environment := String → Option String

def Environment.isPossible (env : Environment) : Bool :=
  Variable.all.all fun v => !(env v.name).any fun value => value.toList.contains '\x00'

def Environment.value (env : Environment) (v : Variable) : String :=
  (env v.name).getD v.default

def Environment.count (env : Environment) (v : Variable) : Except Breakage Int :=
  match Text.Integer.ofDecimal? (env.value v) with
  | some n => .ok n
  | none => .error .value

structure Settings where
  databaseUrl : String
  sessionUrl : String
  secret : String
  algorithm : String
  issuer : String
  accessMinutes : Int
  refreshHours : Int
  resetMinutes : Int
  resetBase : String
  rounds : Int
  environment : String
  logLevel : String
  debug : Bool
  secretGenerated : Bool
  deriving DecidableEq, Repr

def Settings.secretSize : Nat := 32

/-- The settings of an environment. A fresh secret is the first draw of a secret. -/
def Settings.ofEnvironment (source : Source) (env : Environment) : Except Breakage Settings := do
  if !env.isPossible then throw .value
  let accessMinutes ← env.count .accessMinutes
  let refreshHours ← env.count .refreshHours
  let resetMinutes ← env.count .resetMinutes
  let rounds ← env.count .rounds
  let given := env.value .secret
  pure
    { databaseUrl := env.value .databaseUrl
      sessionUrl := env.value .sessionUrl
      secret := if given.isEmpty then Service.secretText (source.secret 0 secretSize) else given
      algorithm := env.value .algorithm
      issuer := env.value .issuer
      accessMinutes := accessMinutes
      refreshHours := refreshHours
      resetMinutes := resetMinutes
      resetBase := env.value .resetBase
      rounds := rounds
      environment := env.value .environment
      logLevel := Text.upper (env.value .logLevel)
      debug := Text.lower (env.value .debug) == "true"
      secretGenerated := given.isEmpty }

inductive Warning where
  | generatedSecret
  | notPositive (v : Variable)
  | noSessionServer
  deriving DecidableEq, Repr

def Warning.message : Warning → String
  | .generatedSecret => Variable.secret.name ++
      " is not set - using auto-generated key (not persistent across restarts)"
  | .notPositive v => v.name ++ " must be positive"
  | .noSessionServer => Variable.sessionUrl.name ++
      " is not set - sessions are kept in process memory"

namespace Settings

variable (s : Settings)

def warnings : List Warning :=
  (if s.secretGenerated then [.generatedSecret] else []) ++
    (if s.accessMinutes ≤ 0 then [.notPositive .accessMinutes] else []) ++
    (if s.refreshHours ≤ 0 then [.notPositive .refreshHours] else []) ++
    (if s.resetMinutes ≤ 0 then [.notPositive .resetMinutes] else []) ++
    (if s.sessionUrl.isEmpty then [.noSessionServer] else [])

def authority : Token.Authority :=
  ⟨s.secret, s.algorithm, s.issuer⟩

def lifetimes : Except Breakage Lifetimes :=
  Lifetimes.ofCounts s.accessMinutes s.refreshHours s.resetMinutes

def backing : Session.Backing :=
  if s.sessionUrl.isEmpty then .memory else .server

def addressBreakage : Session.AddressFault → Breakage
  | .value => .value
  | .name => .type
  | .part => .member
  | .caching => .caching

/-- The options for the connection to the session server; none when sessions are kept in memory. -/
def connection : Except Breakage (Option Session.Options) :=
  match s.backing with
  | .memory => .ok none
  | .server => ((Session.Options.toConnect s.sessionUrl).mapError addressBreakage).map some

end Settings

end Accounts
