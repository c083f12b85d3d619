import DeliveryCycle.Number.IntegerText
import DeliveryCycle.Settings.Environment
import DeliveryCycle.Text.Quoted

/-!
# Settings of the database

The address of the database is given as a whole or put together from five parts. An address that
names no driver gets the one that works without blocking. The size of the connection pool, the
overflow and the batch of a cursor are integers.
-/

namespace DeliveryCycle.Settings

/-- Beginnings of addresses without a driver, and what takes their place. -/
def driverlessBeginnings : List (String × String) :=
  [("postgres://", "postgresql+asyncpg://"), ("postgresql://", "postgresql+asyncpg://"),
    ("sqlite://", "sqlite+aiosqlite://")]

/-- The text behind its beginning, if it begins that way. -/
def dropBeginning? (beginning text : List Char) : Option (List Char) :=
  if beginning.isPrefixOf text then some (text.drop beginning.length) else none

def withDriver (address : String) : String :=
  let replaced := driverlessBeginnings.findSome? fun (beginning, replacement) =>
    (dropBeginning? beginning.toList address.toList).map fun rest =>
      replacement ++ String.ofList rest
  replaced.getD address

structure AddressParts where
  user : String
  password : String
  host : String
  port : String
  database : String
deriving DecidableEq, Repr

def AddressParts.address (parts : AddressParts) : String :=
  "postgresql+asyncpg://" ++ parts.user ++ ":" ++ parts.password ++ "@" ++ parts.host ++ ":" ++
    parts.port ++ "/" ++ parts.database

def addressParts (environment : Environment) : AddressParts where
  user := environment.getD "DB_USER" "postgres"
  password := environment.getD "DB_PASSWORD" "postgres"
  host := environment.getD "DB_HOST" "localhost"
  port := environment.getD "DB_PORT" "5432"
  database := environment.getD "DB_NAME" "business_cycle_metrics"

def databaseAddress (environment : Environment) : String :=
  match environment.given? "DATABASE_URL" with
  | some address => withDriver address
  | none => (addressParts environment).address

/-- A setting that should be an integer and is none. -/
structure UnreadableInteger where
  text : String
  cause : Number.IntegerError
deriving DecidableEq, Repr

/-- What a user reads about an unreadable setting; a long text is cut. -/
def UnreadableInteger.message (error : UnreadableInteger) : String :=
  match error.cause with
  | .malformed =>
      "invalid literal for int() with base 10: " ++
        String.ofList ((Text.quoted error.text).toList.take 200)
  | .tooManyDigits count => Number.tooManyDigitsMessage count

/-- An integer from the environment, or another one if the variable is not set. -/
def integer (environment : Environment) (name : String) (otherwise : Int) :
    Except UnreadableInteger Int :=
  match environment.get? name with
  | none => .ok otherwise
  | some text => (Number.settingInteger text).mapError fun cause => ⟨text, cause⟩

/-- How the connections to a database are kept; a database in a file has no pool. -/
structure EngineOptions where
  echo : Bool
  pool : Option (Int × Int)
deriving DecidableEq, Repr

def engineOptions (environment : Environment) (address : String) :
    Except UnreadableInteger EngineOptions := do
  let echo := (environment.getD "DB_ECHO" "").toList.map Char.toLower = "true".toList
  if "sqlite".toList.isPrefixOf address.toList then return ⟨echo, none⟩
  else
    let size ← integer environment "DB_POOL_SIZE" 5
    let overflow ← integer environment "DB_MAX_OVERFLOW" 10
    return ⟨echo, some (size, overflow)⟩

/-- The number of rows that a cursor fetches at a time. -/
def batchSize (environment : Environment) : Except UnreadableInteger Int :=
  integer environment "CANDIDATE_BATCH_SIZE" 100

/-- A kind of database that records cannot be written to. -/
structure UnsupportedDialect where
  name : String
deriving DecidableEq, Repr

def UnsupportedDialect.message (error : UnsupportedDialect) : String :=
  "Upsert not supported for dialect " ++ Text.quoted error.name

/-- The kinds of databases that records can be written to. -/
def supportedDialects : List String := ["postgresql", "sqlite"]

/-- Lets a kind of database pass if records can be written to it. -/
def checkDialect (name : String) : Except UnsupportedDialect Unit :=
  if supportedDialects.contains name then .ok () else .error ⟨name⟩

end DeliveryCycle.Settings
