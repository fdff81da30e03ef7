import Concierge.Number.Reading
import Concierge.Text.Letter
import Concierge.Text.Replace

/-!
# Places of stores

A store is kept in memory or in a file. An address names the kind of its database, and the file behind
three slashes; a database of another kind needs a driver, and no such driver is at hand.
-/

namespace Concierge

/-- The site that explains the errors of stores. -/
def explainingSite : String := "sqlalche.me"

/-- The words that tell where an error is explained. -/
def explained (topic : String) : String :=
  "(Background on this error at: https://" ++ explainingSite ++ "/e/21/" ++ topic ++ ")"

/-- Why a store cannot be opened. -/
inductive PlaceError where
  /-- The text is no address. -/
  | unparsable
  /-- What stands for the port number in an address is no number. -/
  | port (error : NumberError)
  /-- No database is of this kind. -/
  | unknownKind (kind : String)
  /-- The driver for a kind of database is not there. -/
  | noDriver (driver : String)
  /-- A database in a file has a host. -/
  | hosted (address : String)
  /-- The file cannot be opened. -/
  | unopenable
  /-- The file holds something else than a store. -/
  | notStore
  deriving DecidableEq, Repr

namespace PlaceError

/-- The class that the error is reported under. -/
def label : PlaceError → String
  | unparsable | hosted _ => "ArgumentError"
  | port e => e.label
  | unknownKind _ => "NoSuchModuleError"
  | noDriver _ => "ModuleNotFoundError"
  | unopenable => "OperationalError"
  | notStore => "DatabaseError"

/-- The wording of the error. -/
def message : PlaceError → String
  | unparsable => "Could not parse SQLAlchemy URL from given URL string"
  | port e => e.message
  | unknownKind kind => "Can't load plugin: sqlalchemy.dialects:" ++ kind
  | noDriver driver => "No module named '" ++ driver ++ "'"
  | hosted address =>
    "Invalid SQLite URL: " ++ address ++ "\nValid SQLite URL forms are sqlite:///:memory: or " ++
      "sqlite:////absolute/path/to/file.db"
  | unopenable =>
    "(sqlite3.OperationalError) unable to open database file\n" ++
      explained "e3q8"
  | notStore =>
    "(sqlite3.DatabaseError) file is not a database\n" ++
      explained "4xp6"

end PlaceError

/-- Where a store is kept. -/
inductive Place where
  | memory
  | file (path : String)
  deriving DecidableEq, Repr

namespace Place

/-- The place at a path. -/
def ofPath (path : String) : Place :=
  if path = "" ∨ path = ":memory:" then memory else file path

/-- The kinds of databases with the drivers that they need. -/
def drivers : List (String × String) :=
  [("postgresql", "psycopg"), ("postgresql+psycopg", "psycopg"),
   ("postgresql+psycopg2", "psycopg2"), ("postgresql+asyncpg", "asyncpg"),
   ("postgresql+pg8000", "pg8000"), ("postgresql+psycopg2cffi", "psycopg2cffi"),
   ("mysql", "MySQLdb"), ("mysql+mysqldb", "MySQLdb"), ("mariadb", "MySQLdb"),
   ("mariadb+mysqldb", "MySQLdb"), ("mysql+pymysql", "pymysql"), ("mariadb+pymysql", "pymysql"),
   ("mysql+mysqlconnector", "mysql"), ("mysql+asyncmy", "asyncmy"), ("mysql+aiomysql", "aiomysql"),
   ("mariadb+mariadbconnector", "mariadb"), ("mysql+pyodbc", "pyodbc"),
   ("oracle", "oracledb"), ("oracle+oracledb", "oracledb"), ("oracle+cx_oracle", "cx_Oracle"),
   ("mssql", "pyodbc"), ("mssql+pyodbc", "pyodbc"), ("mssql+pymssql", "pymssql"),
   ("mssql+aioodbc", "aioodbc"), ("sqlite+aiosqlite", "aiosqlite")]

/-- The kinds of databases that are kept in files. -/
def fileKinds : List String := ["sqlite", "sqlite+pysqlite"]

/-- A character of the name of a kind. -/
def isKindChar (c : Char) : Bool := Text.isWordChar c || c == '+'

/-- What stands in an address between the kind and the path: the text of the host and the user, and
behind it the port number. -/
def splitHost (cs : List Char) : List Char × List Char :=
  let host := cs.takeWhile fun c => c != '/' && c != '?'
  let (name, port) := (Text.cutAt? ':' host).getD (host, [])
  match Text.cutAt? '@' host with
  | some ([], []) => ([], [])
  | some _ => (host, [])
  | none => (name, port)

/-- The place that an address of a database in a file names; `rest` is what follows the kind. -/
def ofFileAddress (address : String) (rest : List Char) : Except PlaceError Place := do
  let (host, port) := splitHost rest
  if !port.isEmpty then
    let _ ← (Reading.integer (String.ofList port)).mapError .port
    throw (.hosted address)
  if !host.isEmpty then throw (.hosted address)
  match rest.dropWhile fun c => c != '/' && c != '?' with
  | '/' :: path => return ofPath (String.ofList (path.takeWhile (· != '?')))
  | _ => return memory

/-- The place that an address names. -/
def ofAddress (address : String) : Except PlaceError Place :=
  let kind := address.toList.takeWhile isKindChar
  match kind, address.toList.drop kind.length with
  | _ :: _, ':' :: '/' :: '/' :: rest =>
    let name := String.ofList kind
    if fileKinds.contains name then ofFileAddress address rest
    else
      match drivers.lookup name with
      | some driver => .error (.noDriver driver)
      | none => .error (.unknownKind (String.ofList (kind.map fun c => if c == '+' then '.' else c)))
  | _, _ => .error .unparsable

/-- The name of a file in the current directory; `none` for a file elsewhere and for a directory. -/
def nearName? (path : String) : Option String :=
  let parts := Text.split (· == '/') path.toList
  match parts.getLast? with
  | none | some [] | some ['.'] | some ['.', '.'] => none
  | some name => if parts.dropLast.all (· == ['.']) then some (String.ofList name) else none

/-- A place in the current directory, under the plain name of its file; nothing else can be opened
when no other directory is known. -/
def near : Place → Except PlaceError Place
  | memory => .ok memory
  | file path =>
    match nearName? path with
    | some name => .ok (file name)
    | none => .error .unopenable

end Place

end Concierge
