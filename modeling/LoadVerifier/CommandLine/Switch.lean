/-
This file lists the options of the command line with their names.

An option either stands alone, which makes it a flag, or takes one value, which makes it a
parameter. Every option has one long name, and some have a short one of a single letter. No name
belongs to two options, so a full name always says which option is meant.
-/

namespace LoadVerifier

/-- An option that stands alone. -/
inductive Flag
  | help
  | printPsql
  | memory
  | logged
  | dropExisting
  | synchronousCommit
  | multiPut
  deriving DecidableEq

/-- The names of a flag, in the order in which messages give them. -/
def Flag.names : Flag → List String
  | .help => ["--help", "-?"]
  | .printPsql => ["--print-psql"]
  | .memory => ["--memory"]
  | .logged => ["--logged"]
  | .dropExisting => ["--drop-existing"]
  | .synchronousCommit => ["--synchronous-commit"]
  | .multiPut => ["--multiput"]

/-- An option that takes one value. -/
inductive Parameter
  | dsn
  | host
  | port
  | user
  | dbname
  | password
  | sslmode
  | options
  | table
  | schema
  | compression
  | write
  | read
  | data
  | maxReadErrors
  | keyWindow
  | startKey
  | numKeys
  | progressInterval
  | seed
  deriving DecidableEq

/-- The names of a parameter, in the order in which messages give them. -/
def Parameter.names : Parameter → List String
  | .dsn => ["--dsn"]
  | .host => ["-h", "--host"]
  | .port => ["-p", "--port"]
  | .user => ["-U", "--user"]
  | .dbname => ["-d", "--dbname"]
  | .password => ["--password"]
  | .sslmode => ["--sslmode"]
  | .options => ["--options"]
  | .table => ["--table"]
  | .schema => ["--schema"]
  | .compression => ["--compression"]
  | .write => ["--write"]
  | .read => ["--read"]
  | .data => ["--data"]
  | .maxReadErrors => ["--max-read-errors"]
  | .keyWindow => ["--key-window"]
  | .startKey => ["--start-key"]
  | .numKeys => ["--num-keys"]
  | .progressInterval => ["--progress-interval"]
  | .seed => ["--seed"]

/-- An option of the command line. -/
inductive Switch
  | flag (flag : Flag)
  | parameter (parameter : Parameter)
  deriving DecidableEq

namespace Switch

/-- The names of an option, in the order in which messages give them. -/
def names : Switch → List String
  | .flag standing => standing.names
  | .parameter taking => taking.names

/-- All options, in the order in which messages list them. -/
def all : List Switch := [
    .flag .help, .parameter .dsn, .parameter .host, .parameter .port, .parameter .user,
    .parameter .dbname, .parameter .password, .parameter .sslmode, .parameter .options,
    .flag .printPsql, .flag .memory, .parameter .table, .parameter .schema, .flag .logged,
    .flag .dropExisting, .parameter .compression, .flag .synchronousCommit, .parameter .write,
    .parameter .read, .parameter .data, .flag .multiPut, .parameter .maxReadErrors,
    .parameter .keyWindow, .parameter .startKey, .parameter .numKeys,
    .parameter .progressInterval, .parameter .seed]

/-- How a message calls an option: all its names. -/
def title (switch : Switch) : String := "/".intercalate switch.names

/-- Every name together with its option. -/
def namesOfAll : List (String × Switch) :=
  all.flatMap fun switch => switch.names.map fun name => (name, switch)

/-- The option of a name. -/
def named? (name : String) : Option Switch := namesOfAll.lookup name

end Switch

end LoadVerifier
