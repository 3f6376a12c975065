/-
This file writes the statements sent to the database.

Schema and table names are arbitrary texts. A name is written in double quotes with every double
quote inside it doubled, so it is read back as the very same name and never as part of a
statement. A statement is a list of pieces, plain text and names, and only its rendering joins
them.
-/
import LoadVerifier.Error

namespace LoadVerifier

/-- One piece of a statement. -/
inductive Piece
  | plain (text : String)
  | identifier (name : String)
  deriving DecidableEq

namespace Piece

/-- The inside of a quoted name. -/
def doubleQuotes : List Char → List Char
  | [] => []
  | character :: rest =>
    if character = '"' then '"' :: '"' :: doubleQuotes rest else character :: doubleQuotes rest

/-- The text of a piece. -/
def render : Piece → List Char
  | .plain text => text.toList
  | .identifier name => '"' :: doubleQuotes name.toList ++ ['"']

end Piece

/-- A statement in pieces. -/
abbrev Statement := List Piece

/-- The text of a statement. -/
def Statement.text (statement : Statement) : String :=
  String.ofList (statement.flatMap Piece.render)

/-- A table of a schema. -/
structure Table where
  schema : String
  name : String
  deriving DecidableEq

namespace Table

/-- The schema of a table that does not say which. -/
def defaultSchema : String := "kv"

/-- The name of a table that does not say which. -/
def defaultName : String := "load_test"

/-- The qualified name of a table. -/
def pieces (table : Table) : Statement :=
  [.identifier table.schema, .plain ".", .identifier table.name]

/-- Stores a cell, in place of the one that was there. -/
def insertStatement (table : Table) : Statement :=
  [.plain "INSERT INTO "] ++ table.pieces ++
    [.plain (" (key, col, value) VALUES (%s, %s, %s) " ++
      "ON CONFLICT (key, col) DO UPDATE SET value = EXCLUDED.value")]

/-- Reads the cells of a key. -/
def selectStatement (table : Table) : Statement :=
  [.plain "SELECT col, value FROM "] ++ table.pieces ++ [.plain " WHERE key = %s ORDER BY col"]

/-- Counts the keys of the table. -/
def countStatement (table : Table) : Statement :=
  [.plain "SELECT count(DISTINCT key) FROM "] ++ table.pieces

/-- The compression methods a table may ask for. -/
def compressions : List String := ["pglz", "lz4"]

/-- How a table is created. -/
structure Creation where
  logged : Bool
  dropExisting : Bool := false
  compression : Option String := none
  deriving DecidableEq

/-- Drops the table if that is asked for. -/
def dropPieces (table : Table) (creation : Creation) : Statement :=
  if creation.dropExisting then
    [.plain "DROP TABLE IF EXISTS "] ++ table.pieces ++ [.plain ";"]
  else []

/-- Sets the compression of the values if one is given. -/
def compressionPieces (table : Table) (creation : Creation) : Statement :=
  match creation.compression with
  | none => []
  | some compression =>
    [.plain "ALTER TABLE "] ++ table.pieces ++
      [.plain " ALTER COLUMN value SET COMPRESSION ", .plain compression, .plain ";"]

/-- Creates schema and table. -/
def creationPieces (table : Table) (creation : Creation) : Statement :=
  [.plain "\nCREATE SCHEMA IF NOT EXISTS ", .identifier table.schema, .plain ";\n\n"] ++
    table.dropPieces creation ++
    [.plain "\n\n",
      .plain (if creation.logged then "CREATE TABLE" else "CREATE UNLOGGED TABLE"),
      .plain " IF NOT EXISTS "] ++
    table.pieces ++
    [.plain (" (\n  key    bigint NOT NULL,\n  col    int    NOT NULL,\n" ++
      "  value  bytea  NOT NULL,\n  PRIMARY KEY (key, col)\n);\n\n")] ++
    table.compressionPieces creation ++ [.plain "\n"]

/-- The statement that creates schema and table, unless the compression is unknown. -/
def creationStatement (table : Table) (creation : Creation) : Except ConfigError Statement :=
  match creation.compression with
  | some compression =>
    if compression ∈ compressions then .ok (table.creationPieces creation)
    else .error (.unknownCompression compression)
  | none => .ok (table.creationPieces creation)

end Table

end LoadVerifier
