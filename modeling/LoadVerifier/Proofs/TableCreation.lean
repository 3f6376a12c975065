/-
This file says what the statement that creates a table is, token by token, whatever schema and table
are called. It is a row of commands, each up to its semicolon: the schema is created, the old table
is dropped if that is asked for, the table is created, and its compression is set if one is given.
The names of schema and table stand in fixed places of the commands, as one token each, so no part
of a name is ever read as anything else.

All that was asked for can be read back from the text: the two names, and how the table is created.
-/
import LoadVerifier.Proofs.StatementTemplate

namespace LoadVerifier

/-! ### The commands -/

/-- The text of a token that is a name. -/
def Token.name? : Token → Option String
  | .name text => some text
  | _ => none

/-- The text of a token that is a word. -/
def Token.word? : Token → Option String
  | .word text => some text
  | _ => none

/-- A token without its text if it is a name. -/
def Token.masked : Token → Token
  | .name _ => .name ""
  | token => token

/-- A place of a command: for a token that is always the same, or for a name. -/
inductive Slot
  | fixed (token : Token)
  | schema
  | table
  deriving DecidableEq

/-- The token in a place, for a table. -/
def Slot.fill (table : Table) : Slot → Token
  | .fixed token => token
  | .schema => .name table.schema
  | .table => .name table.name

namespace Table.Creation

/-- Words as tokens. -/
def words (texts : List String) : List Token := texts.map .word

/-- Places for tokens that are always the same. -/
def fixed (tokens : List Token) : List Slot := tokens.map .fixed

/-- The places of a qualified name. -/
def qualified : List Slot := [.schema, .fixed (.symbol '.'), .table]

/-- The columns of the table, and its key. -/
def columns : List Token :=
  .symbol '(' :: words ["key", "bigint", "NOT", "NULL"] ++
    .symbol ',' :: words ["col", "int", "NOT", "NULL"] ++
    .symbol ',' :: words ["value", "bytea", "NOT", "NULL"] ++
    .symbol ',' :: words ["PRIMARY", "KEY"] ++
    [.symbol '(', .word "key", .symbol ',', .word "col", .symbol ')', .symbol ')']

/-- Creates the schema. -/
def createSchema : List Slot :=
  fixed (words ["CREATE", "SCHEMA", "IF", "NOT", "EXISTS"]) ++ [.schema]

/-- Drops the table. -/
def dropTable : List Slot := fixed (words ["DROP", "TABLE", "IF", "EXISTS"]) ++ qualified

/-- Creates the table. -/
def createTable (logged : Bool) : List Slot :=
  fixed (words (if logged then ["CREATE", "TABLE"] else ["CREATE", "UNLOGGED", "TABLE"]) ++
    words ["IF", "NOT", "EXISTS"]) ++ qualified ++ fixed columns

/-- Sets the compression of the values. -/
def setCompression (compression : String) : List Slot :=
  fixed (words ["ALTER", "TABLE"]) ++ qualified ++
    fixed (words ["ALTER", "COLUMN", "value", "SET", "COMPRESSION", compression])

/-- The commands that create a table, in their order. -/
def commands (creation : Creation) : List (List Slot) :=
  createSchema :: (if creation.dropExisting then [dropTable] else []) ++
    createTable creation.logged :: creation.compression.toList.map setCompression

/-- A command up to its semicolon. -/
def closed (command : List Slot) : List Slot := command ++ fixed [.symbol ';']

/-- The places of the statement that creates a table. -/
def slots (creation : Creation) : List Slot := creation.commands.flatMap closed

/-- The tokens of the statement that creates a table. -/
def tokens (creation : Creation) (table : Table) : List Token :=
  creation.slots.map (Slot.fill table)

/-- A creation that asks for no other than the known compressions. -/
def Accepted (creation : Creation) : Prop :=
  ∀ compression ∈ creation.compression, compression ∈ compressions

theorem fill_fixed (table : Table) (tokens : List Token) :
    (fixed tokens).map (Slot.fill table) = tokens := by
  rw [fixed, List.map_map]
  exact List.map_id tokens

/-- A command is plain text up to a qualified name, and plain text behind it. -/
theorem lexes_command (table : Table) {front back : Statement} {before after : List Token}
    (lexesFront : front.Lexes before) (lexesBack : back.Lexes after)
    (unquoted : back.Unquoted) :
    Statement.Lexes (front ++ table.pieces ++ back)
      ((fixed before ++ qualified ++ fixed after).map (Slot.fill table)) := by
  rw [List.map_append, List.map_append, fill_fixed, fill_fixed, List.append_assoc,
    List.append_assoc]
  exact lexesFront.append (table.lexes_pieces_append lexesBack unquoted)

theorem closed_fixed_append (slots : List Slot) (tokens : List Token) :
    closed (slots ++ fixed tokens) = slots ++ fixed (tokens ++ [.symbol ';']) := by
  simp [closed, fixed]

theorem lexes_createSchema (table : Table) :
    Statement.Lexes [.plain "\nCREATE SCHEMA IF NOT EXISTS ", .identifier table.schema,
      .plain ";\n\n"] ((closed createSchema).map (Slot.fill table)) := by
  have front : Statement.Lexes [.plain "\nCREATE SCHEMA IF NOT EXISTS "]
      (words ["CREATE", "SCHEMA", "IF", "NOT", "EXISTS"]) := by
    decide
  have back : Statement.Lexes [.plain ";\n\n"] [.symbol ';'] := by decide
  exact front.append (back.identifier_cons table.schema ⟨';', rfl, by decide⟩)

theorem lexes_dropPieces (table : Table) (creation : Creation) :
    (table.dropPieces creation).Lexes
      (((if creation.dropExisting then [dropTable] else []).flatMap closed).map
        (Slot.fill table)) := by
  unfold dropPieces
  split
  · have front : Statement.Lexes [.plain "DROP TABLE IF EXISTS "]
        (words ["DROP", "TABLE", "IF", "EXISTS"]) := by
      decide
    have back : Statement.Lexes [.plain ";"] [.symbol ';'] := by decide
    exact lexes_command table front back ⟨';', rfl, by decide⟩
  · rfl

theorem lexes_createTable (table : Table) (logged : Bool) :
    Statement.Lexes
      ([.plain "\n\n", .plain (if logged then "CREATE TABLE" else "CREATE UNLOGGED TABLE"),
        .plain " IF NOT EXISTS "] ++ table.pieces ++
        [.plain (" (\n  key    bigint NOT NULL,\n  col    int    NOT NULL,\n" ++
          "  value  bytea  NOT NULL,\n  PRIMARY KEY (key, col)\n);\n\n")])
      ((closed (createTable logged)).map (Slot.fill table)) := by
  have front : Statement.Lexes
      [.plain "\n\n", .plain (if logged then "CREATE TABLE" else "CREATE UNLOGGED TABLE"),
        .plain " IF NOT EXISTS "]
      (words (if logged then ["CREATE", "TABLE"] else ["CREATE", "UNLOGGED", "TABLE"]) ++
        words ["IF", "NOT", "EXISTS"]) := by
    cases logged <;> decide
  have back : Statement.Lexes
      [.plain (" (\n  key    bigint NOT NULL,\n  col    int    NOT NULL,\n" ++
        "  value  bytea  NOT NULL,\n  PRIMARY KEY (key, col)\n);\n\n")]
      (columns ++ [.symbol ';']) := by
    decide +kernel
  rw [createTable, closed_fixed_append]
  exact lexes_command table front back ⟨' ', rfl, by decide⟩

theorem lexes_compressionPieces (table : Table) {creation : Creation}
    (accepted : creation.Accepted) :
    (table.compressionPieces creation).Lexes
      (((creation.compression.toList.map setCompression).flatMap closed).map
        (Slot.fill table)) := by
  unfold compressionPieces
  unfold Accepted at accepted
  cases asked : creation.compression with
  | none => rfl
  | some compression =>
    have known : compression ∈ compressions := accepted compression asked
    have front : Statement.Lexes [.plain "ALTER TABLE "] (words ["ALTER", "TABLE"]) := by decide
    have everyBack : ∀ compression ∈ compressions, Statement.Lexes
        [.plain " ALTER COLUMN value SET COMPRESSION ", .plain compression, .plain ";"]
        (words ["ALTER", "COLUMN", "value", "SET", "COMPRESSION", compression] ++
          [.symbol ';']) := by
      decide
    have command := lexes_command table front (everyBack compression known)
      ⟨' ', rfl, by decide⟩
    rw [← closed_fixed_append] at command
    simpa [setCompression] using command

/-- Whatever schema and table are called, the tokens of the statement are those of the commands. -/
theorem lexes_creationPieces (table : Table) {creation : Creation}
    (accepted : creation.Accepted) :
    (table.creationPieces creation).Lexes (creation.tokens table) := by
  have blank : Statement.Lexes [.plain "\n"] [] := by decide
  have all := (lexes_createSchema table).append ((lexes_dropPieces table creation).append
    ((lexes_createTable table creation.logged).append
      ((lexes_compressionPieces table accepted).append blank)))
  simpa [creationPieces, tokens, slots, commands] using all

/-! ### What the tokens tell -/

/-- What the words of a statement tell of what was asked for: the table is dropped once or never,
and before any other command has to do with it; it is unlogged, or not; and its compression is set
once to the one that is asked for, or never. -/
structure Tells (creation : Creation) (words : List String) : Prop where
  drops : words.count "DROP" = if creation.dropExisting then 1 else 0
  drops_first : creation.dropExisting = true → words.idxOf "DROP" < words.idxOf "TABLE"
  unlogged : words.count "UNLOGGED" = if creation.logged then 0 else 1
  compresses : words.count "COMPRESSION" = if creation.compression.isSome then 1 else 0
  compression_iff : ∀ compression ∈ compressions,
    compression ∈ words ↔ creation.compression = some compression

instance (creation : Creation) (words : List String) : Decidable (creation.Tells words) :=
  decidable_of_iff (_ ∧ _ ∧ _ ∧ _ ∧ _)
    ⟨fun ⟨drops, first, unlogged, compresses, compression⟩ =>
      ⟨drops, first, unlogged, compresses, compression⟩,
      fun tells => ⟨tells.drops, tells.drops_first, tells.unlogged, tells.compresses,
        tells.compression_iff⟩⟩

theorem masked_tokens (creation : Creation) (table other : Table) :
    (creation.tokens table).map Token.masked = (creation.tokens other).map Token.masked := by
  rw [tokens, tokens, List.map_map, List.map_map]
  refine List.map_congr_left fun slot _ => ?_
  cases slot <;> rfl

theorem word?_masked (token : Token) : token.masked.word? = token.word? := by
  cases token <;> rfl

/-- The words of the statement do not depend on the names. -/
theorem words_tokens (creation : Creation) (table other : Table) :
    (creation.tokens table).filterMap Token.word? =
      (creation.tokens other).filterMap Token.word? := by
  have unmasked : ∀ tokens : List Token,
      tokens.filterMap Token.word? = (tokens.map Token.masked).filterMap Token.word? := by
    intro tokens
    rw [List.filterMap_map]
    exact (congrArg (List.filterMap · tokens) (funext word?_masked)).symm
  rw [unmasked, unmasked (creation.tokens other), masked_tokens creation table other]

theorem tells_tokens (table : Table) {creation : Creation} (accepted : creation.Accepted) :
    creation.Tells ((creation.tokens table).filterMap Token.word?) := by
  rw [words_tokens creation table ⟨"", ""⟩]
  have everyCreation : ∀ logged dropExisting : Bool,
      ∀ compression ∈ none :: compressions.map some,
        Tells ⟨logged, dropExisting, compression⟩
          ((tokens ⟨logged, dropExisting, compression⟩ ⟨"", ""⟩).filterMap Token.word?) := by
    decide
  obtain ⟨logged, dropExisting, compression⟩ := creation
  refine everyCreation logged dropExisting compression ?_
  cases compression with
  | none => exact List.mem_cons_self
  | some known => exact List.mem_cons_of_mem none (List.mem_map_of_mem (accepted known rfl))

/-- The names among the tokens are the schema that is created, and the qualified name in each of the
other commands. -/
theorem names_tokens (creation : Creation) (table : Table) :
    (creation.tokens table).filterMap Token.name? =
      table.schema :: creation.commands.tail.flatMap fun _ => [table.schema, table.name] := by
  obtain ⟨logged, dropExisting, compression⟩ := creation
  cases logged <;> cases dropExisting <;> cases compression <;> rfl

theorem creationStatement_eq_ok_iff (table : Table) (creation : Creation) (statement : Statement) :
    table.creationStatement creation = .ok statement ↔
      creation.Accepted ∧ statement = table.creationPieces creation := by
  unfold creationStatement Accepted
  cases creation.compression with
  | none => simp [eq_comm]
  | some compression =>
    by_cases known : compression ∈ compressions
    · simp [known, eq_comm]
    · simp [known]

/-- All that was asked for can be read back from the words of the statement. -/
theorem Tells.unique {creation other : Creation} {words : List String}
    (tells : creation.Tells words) (otherTells : other.Tells words)
    (accepted : creation.Accepted) (otherAccepted : other.Accepted) : creation = other := by
  have sameDrop : ∀ asked otherAsked : Bool,
      (if asked then 1 else 0) = (if otherAsked then 1 else 0 : Nat) → asked = otherAsked := by
    decide
  have sameLog : ∀ logged otherLogged : Bool,
      (if logged then 0 else 1) = (if otherLogged then 0 else 1 : Nat) → logged = otherLogged := by
    decide
  have dropped := sameDrop _ _ (tells.drops.symm.trans otherTells.drops)
  have logged := sameLog _ _ (tells.unlogged.symm.trans otherTells.unlogged)
  have compressed : creation.compression = other.compression := by
    refine Option.ext fun compression => ⟨fun asked => ?_, fun asked => ?_⟩
    · have known := accepted compression asked
      exact (otherTells.compression_iff compression known).mp
        ((tells.compression_iff compression known).mpr asked)
    · have known := otherAccepted compression asked
      exact (tells.compression_iff compression known).mp
        ((otherTells.compression_iff compression known).mpr asked)
  obtain ⟨_, _, _⟩ := creation
  cases logged
  cases dropped
  cases compressed
  rfl

theorem table_eq_of_tokens {creation : Creation} {table other : Table}
    (equal : creation.tokens table = creation.tokens other) : table = other := by
  have filled := List.map_inj_left.mp equal
  have schema : Slot.schema ∈ creation.slots := by
    simp [slots, commands, closed, createSchema]
  have name : Slot.table ∈ creation.slots := by
    simp [slots, commands, closed, createTable, qualified]
  have sameSchema := Token.name.inj (filled .schema schema)
  have sameName := Token.name.inj (filled .table name)
  obtain ⟨_, _⟩ := table
  cases sameSchema
  cases sameName
  rfl

/-- No name of a schema or a table is read as anything else. Whatever they are called, the statement
that creates a table is its template with the slots filled, and its tokens are those of the
commands, with the two names in their places. So the tokens for different names are the same but
for these names, the words tell what was asked for, and statements with one text are of one table
that is created in one way. -/
theorem names_stay_in_place {creation : Creation} (accepted : creation.Accepted) :
    (∀ table : Table, ∃ statement, table.creationStatement creation = .ok statement ∧
      statement.text =
        String.ofList (fillTemplate creationTemplate (table.creationSlots creation)) ∧
      lex statement.text = some (creation.tokens table) ∧
      (creation.tokens table).filterMap Token.name? =
        table.schema :: creation.commands.tail.flatMap (fun _ => [table.schema, table.name]) ∧
      creation.Tells ((creation.tokens table).filterMap Token.word?)) ∧
    (∀ table other : Table,
      (creation.tokens table).map Token.masked = (creation.tokens other).map Token.masked) ∧
    ∀ (table other : Table) (otherCreation : Creation) (statement otherStatement : Statement),
      table.creationStatement creation = .ok statement →
        other.creationStatement otherCreation = .ok otherStatement →
          statement.text = otherStatement.text → table = other ∧ creation = otherCreation := by
  refine ⟨fun table => ?_, creation.masked_tokens, ?_⟩
  · refine ⟨_, (creationStatement_eq_ok_iff _ _ _).mpr ⟨accepted, rfl⟩, ?_,
      (lexes_creationPieces table accepted).lex_text, names_tokens creation table,
      tells_tokens table accepted⟩
    rw [fillTemplate_creationTemplate]
    rfl
  · intro table other otherCreation statement otherStatement written otherWritten same
    obtain ⟨-, rfl⟩ := (creationStatement_eq_ok_iff _ _ _).mp written
    obtain ⟨otherAccepted, rfl⟩ := (creationStatement_eq_ok_iff _ _ _).mp otherWritten
    have tokens_eq : creation.tokens table = otherCreation.tokens other := by
      have lexed := (lexes_creationPieces table accepted).lex_text
      rw [same, (lexes_creationPieces other otherAccepted).lex_text] at lexed
      exact (Option.some.inj lexed).symm
    have tells := tells_tokens table accepted
    rw [tokens_eq] at tells
    have sameCreation := tells.unique (tells_tokens other otherAccepted) accepted otherAccepted
    rw [← sameCreation] at tokens_eq
    exact ⟨table_eq_of_tokens tokens_eq, sameCreation⟩

/-- Names with quotes, braces and semicolons, for a table that is dropped and compressed. -/
theorem names_stay_in_place_of_quoted_names :
    ∃ statement, Table.creationStatement ⟨"we\"ird", "t\"; DROP \x7btable\x7d --"⟩
        ⟨false, true, some "lz4"⟩ = .ok statement ∧
      ∃ tokens, lex statement.text = some tokens ∧
        tokens.filterMap Token.name? =
          ["we\"ird", "we\"ird", "t\"; DROP \x7btable\x7d --", "we\"ird",
            "t\"; DROP \x7btable\x7d --", "we\"ird", "t\"; DROP \x7btable\x7d --"] ∧
        (tokens.filterMap Token.word?).count "DROP" = 1 := by
  have accepted : Accepted ⟨false, true, some "lz4"⟩ := by
    rintro compression ⟨⟩
    decide
  obtain ⟨statement, written, -, lexed, named, tells⟩ :=
    (names_stay_in_place accepted).1 ⟨"we\"ird", "t\"; DROP \x7btable\x7d --"⟩
  exact ⟨statement, written, _, lexed, named, tells.drops⟩

end Table.Creation

end LoadVerifier
