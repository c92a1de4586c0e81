import Mathlib.Data.Rat.Floor
import Taramandal.Core.Text

/-! # Operators, sessions and logins (`auth.py`)

An `OperatorStore` keeps a copy of the operators file and reads it again when its
modification time or its size has changed; sessions live in a table under the hash of
their token; a throttle counts the failed logins of each origin. A call that looks at the
file looks twice, at its stamp and at its text, and the file may be replaced in between. -/
namespace Taramandal.Gcs.Auth

open Lib.Dict Core.Text

/-! ## Operators -/

inductive Role where
  | viewer | choreographer | flightCommander
  deriving DecidableEq

def Role.name : Role → String
  | .viewer => "VIEWER"
  | .choreographer => "CHOREOGRAPHER"
  | .flightCommander => "FLIGHT_COMMANDER"

/-- `parse_role`, of ASCII letters. -/
def parseRole (value : String) : Option Role :=
  let name := String.ofList ((strip value.toList).map fun c =>
    if c.toUpper = '-' then '_' else c.toUpper)
  [Role.viewer, .choreographer, .flightCommander].find? fun role => role.name = name

structure Operator where
  id : String
  role : Role
  deriving DecidableEq

/-- The cost parameters of a passphrase hash. -/
structure Scrypt where
  n : ℕ := 2 ^ 14
  r : ℕ := 8
  p : ℕ := 1
  dklen : ℕ := 32
  deriving DecidableEq

/-- An account, as the operators file has it. -/
structure Record where
  id : String
  role : String
  salt : String
  hash : String
  scrypt : Scrypt := {}
  deriving DecidableEq

/-- `(st_mtime, st_size)`. -/
structure Stamp where
  mtime : ℚ
  size : ℕ
  deriving DecidableEq

/-- The operators file: who may access it, and its accounts if its text is a list of
them. -/
structure File where
  stamp : Stamp
  ownerOnly : Bool := true
  operators : Option (List Record)
  deriving DecidableEq

abbrev Disk := Option File

inductive Raised where
  | fileNotFound
  | insecureFile
  | badFile
  | unknownRole (value : String)
  | osError
  | valueError (text : String)
  deriving DecidableEq

structure OperatorStore where
  records : Dict String Record := []
  stamp : Option Stamp := none

def table (operators : List Record) : Dict String Record :=
  operators.foldl (fun records r => assign records r.id r) []

def File.load (file : File) : Except Raised (Dict String Record) :=
  if !file.ownerOnly then .error .insecureFile
  else
    match file.operators with
    | none => .error .badFile
    | some operators =>
      match operators.find? fun r => parseRole r.role = none with
      | some r => .error (.unknownRole r.role)
      | none => .ok (table operators)

namespace OperatorStore

/-- `_refresh`, which looks at the stamp and then at the text. -/
def refresh (store : OperatorStore) (stat read : Disk) : Except Raised OperatorStore :=
  match stat with
  | none => .ok {}
  | some file =>
    if store.stamp = some file.stamp then .ok store
    else
      match read with
      | none => .error .fileNotFound
      | some text => text.load.map fun records => { records := records, stamp := some file.stamp }

def operatorOf (r : Record) : Except Raised Operator :=
  match parseRole r.role with
  | some role => .ok ⟨r.id, role⟩
  | none => .error (.unknownRole r.role)

/-- What `get` answers from the records it has. -/
def lookup (store : OperatorStore) (operatorId : String) : Except Raised (Option Operator) :=
  match find store.records operatorId with
  | none => .ok none
  | some r => (operatorOf r).map some

/-- What `verify` answers from the records it has. -/
def check (store : OperatorStore) (scrypt : String → String → Scrypt → String)
    (operatorId passphrase : String) : Except Raised (Option Operator) :=
  match find store.records operatorId with
  | none => .ok none
  | some r => if scrypt passphrase r.salt r.scrypt = r.hash then (operatorOf r).map some else .ok none

/-- A call that refreshes the records and answers from them. -/
def refreshed {α : Type} (store : OperatorStore) (stat read : Disk)
    (answer : OperatorStore → Except Raised α) : OperatorStore × Except Raised α :=
  match store.refresh stat read with
  | .error e => (store, .error e)
  | .ok store => (store, answer store)

def get (store : OperatorStore) (stat read : Disk) (operatorId : String) :
    OperatorStore × Except Raised (Option Operator) :=
  store.refreshed stat read fun store => store.lookup operatorId

def verify (store : OperatorStore) (scrypt : String → String → Scrypt → String)
    (stat read : Disk) (operatorId passphrase : String) :
    OperatorStore × Except Raised (Option Operator) :=
  store.refreshed stat read fun store => store.check scrypt operatorId passphrase

end OperatorStore

structure Session where
  operatorId : String
  issuedAt : ℚ
  expiresAt : ℚ

/-- `_key`: the hash of a token, which no two tokens share. -/
structure TokenHash where
  key : String → String
  injective : Function.Injective key

abbrev SessionStore := Dict String Session

namespace SessionStore

section

variable (sessions : SessionStore)

def sweep (now : ℚ) : SessionStore :=
  removeAll sessions (((items sessions).filter fun s => s.2.expiresAt ≤ now).map Prod.fst)

/-- `issue`, of a token that was drawn. -/
def issue (hash : TokenHash) (ttlS : ℚ) (operator : Operator)
    (token : String) (now : ℚ) : SessionStore :=
  assign (sessions.sweep now) (hash.key token) ⟨operator.id, now, now + ttlS⟩

/-- `resolve`: a session that has expired is dropped. -/
def resolve (hash : TokenHash) (token : String) (now : ℚ) : SessionStore × Option Session :=
  match find sessions (hash.key token) with
  | none => (sessions, none)
  | some s =>
    if s.expiresAt ≤ now then (remove sessions (hash.key token), none) else (sessions, some s)

def revoke (hash : TokenHash) (token : String) : SessionStore :=
  remove sessions (hash.key token)

end

end SessionStore

structure ThrottleConfig where
  maxFailures : ℕ := 5
  windowS : ℚ := 60

abbrev LoginThrottle := Dict String (List ℚ)

namespace LoginThrottle

def failures (throttle : LoginThrottle) (origin : String) : List ℚ :=
  (find throttle origin).getD []

section

variable (throttle : LoginThrottle) (cfg : ThrottleConfig) (origin : String) (now : ℚ)

/-- `_recent`: what is older than the window is dropped. -/
def recent : List ℚ :=
  (throttle.failures origin).dropWhile fun t => cfg.windowS < now - t

/-- `retry_after`; with no failures allowed there is no oldest one to wait for (`none`). -/
def retryAfter : LoginThrottle × Option ℚ :=
  let q := throttle.recent cfg origin now
  (assign throttle origin q,
    if q.length < cfg.maxFailures then some 0
    else q.head?.map fun oldest => max 0 (cfg.windowS - (now - oldest)))

def failed : LoginThrottle :=
  assign throttle origin (throttle.recent cfg origin now ++ [now])

end

def succeeded (throttle : LoginThrottle) (origin : String) : LoginThrottle :=
  remove throttle origin

end LoginThrottle

/-! ## The service -/

structure AuthConfig where
  ttlS : ℚ := 12 * 3600
  throttle : ThrottleConfig := {}
  hash : TokenHash
  /-- `_hash_passphrase`, of a passphrase, a salt and the cost. -/
  scrypt : String → String → Scrypt → String

structure AuthService where
  store : OperatorStore := {}
  sessions : SessionStore := []
  throttle : LoginThrottle := []

inductive AuthError where
  | authError (text : String)
  | loginThrottled (text : String) (retryAfterS : ℤ)
  | indexError
  | raised (e : Raised)
  deriving DecidableEq

def operatorGone : AuthError := .authError "Operator no longer exists; log in again."

namespace AuthService

/-- `login`, asked at one reading of the clock and answered at another. -/
def login (m : AuthService) (cfg : AuthConfig) (operatorId passphrase origin token : String)
    (asked answered : ℚ) (stat read : Disk) :
    AuthService × Except AuthError (Session × Operator) :=
  match m.throttle.retryAfter cfg.throttle origin asked with
  | (throttle, none) => ({ m with throttle := throttle }, .error .indexError)
  | (throttle, some wait) =>
    if wait ≠ 0 then
      let seconds := ⌊wait⌋ + 1
      ({ m with throttle := throttle },
        .error (.loginThrottled ("Too many failed logins from " ++ origin ++ "; try again in " ++
          toString seconds ++ "s.") seconds))
    else
      match m.store.verify cfg.scrypt stat read operatorId passphrase with
      | (store, .error e) => ({ m with throttle := throttle, store := store }, .error (.raised e))
      | (store, .ok none) =>
        ({ m with throttle := throttle.failed cfg.throttle origin answered, store := store },
          .error (.authError "Unknown operator or wrong passphrase."))
      | (store, .ok (some operator)) =>
        ({ store := store
           sessions := m.sessions.issue cfg.hash cfg.ttlS operator token answered
           throttle := throttle.succeeded origin },
          .ok (⟨operator.id, answered, answered + cfg.ttlS⟩, operator))

def authenticate (m : AuthService) (cfg : AuthConfig) (token : String) (now : ℚ)
    (stat read : Disk) : AuthService × Except AuthError Operator :=
  if token = "" then (m, .error (.authError "Not logged in."))
  else
    match m.sessions.resolve cfg.hash token now with
    | (sessions, none) =>
      ({ m with sessions := sessions },
        .error (.authError "Session expired or invalid; log in again."))
    | (sessions, some session) =>
      match m.store.get stat read session.operatorId with
      | (store, .error e) => ({ m with sessions := sessions, store := store }, .error (.raised e))
      | (store, .ok none) =>
        ({ m with sessions := sessions.revoke cfg.hash token, store := store }, .error operatorGone)
      | (store, .ok (some operator)) =>
        ({ m with sessions := sessions, store := store }, .ok operator)

/-- The handler of a logout: who may see the fleet may leave. -/
def logout (m : AuthService) (cfg : AuthConfig) (token : String) (now : ℚ) (stat read : Disk) :
    AuthService × Except AuthError Operator :=
  match m.authenticate cfg token now stat read with
  | (m, .ok operator) => ({ m with sessions := m.sessions.revoke cfg.hash token }, .ok operator)
  | (m, .error e) => (m, .error e)

end AuthService

end Taramandal.Gcs.Auth
