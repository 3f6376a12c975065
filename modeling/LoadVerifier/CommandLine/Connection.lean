/-
This file holds where a run finds its server, and the two texts that say so: the one the database
is asked with, and the command that opens a shell on the same server.

A parameter counts only when it is given, and neither blank nor the empty text; a port counts when
it is not zero. A text that names the server as a whole takes the place of all single parameters.
Values are written as they are, so one that holds a space is not read back as a whole.
-/
import LoadVerifier.Given
import LoadVerifier.Text.Digits

namespace LoadVerifier

/-- Where to find the server. -/
structure Connection where
  dsn : Option (Given String) := none
  host : Option (Given String) := none
  port : Option (Given Int) := none
  user : Option (Given String) := none
  dbname : Option (Given String) := none
  password : Option (Given String) := none
  sslmode : Option (Given String) := none
  options : Option (Given String) := none
  deriving DecidableEq

/-- A text that is given, and neither blank nor empty. -/
def givenText (text : Option (Given String)) : Option String :=
  (text.bind Given.value?).filter (· ≠ "")

namespace Connection

/-- The text of a port that is not zero. -/
def portText (connection : Connection) : Option String :=
  ((connection.port.bind Given.value?).filter (· ≠ 0)).map fun port =>
    String.ofList (Text.decimal port)

/-- The parameters that count, with their values. -/
def parameters (connection : Connection) : List (String × String) :=
  [("host", givenText connection.host), ("port", connection.portText),
    ("user", givenText connection.user), ("dbname", givenText connection.dbname),
    ("password", givenText connection.password), ("sslmode", givenText connection.sslmode),
    ("options", givenText connection.options)].filterMap
    fun parameter => parameter.2.map fun value => (parameter.1, value)

/-- The text the database is asked with. -/
def target (connection : Connection) : String :=
  match givenText connection.dsn with
  | some dsn => dsn
  | none => " ".intercalate (connection.parameters.map fun parameter =>
      parameter.1 ++ "=" ++ parameter.2)

/-- A flag of the shell with its value. -/
def shellFlag (flag : String) (value : Option String) : List String :=
  match value with
  | some value => [flag, value]
  | none => []

/-- The settings in front of the shell command. The password is not shown. -/
def shellSettings (connection : Connection) : String :=
  (match givenText connection.password with
    | some _ => "PGPASSWORD='***' "
    | none => "") ++
  (match givenText connection.sslmode with
    | some mode => s!"PGSSLMODE='{mode}' "
    | none => "")

/-- The command that opens a shell on the server. -/
def shellCommand (connection : Connection) : String :=
  connection.shellSettings ++ " ".intercalate ("psql" ::
    shellFlag "-h" (givenText connection.host) ++ shellFlag "-p" connection.portText ++
    shellFlag "-U" (givenText connection.user) ++ shellFlag "-d" (givenText connection.dbname))

end Connection

end LoadVerifier
