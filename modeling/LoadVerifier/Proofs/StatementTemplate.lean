/-
This file writes the statement that creates a table as a template with slots, and shows that filling
the slots gives its text. A slot is a name in braces. The template is read once, from front to back,
and what a slot is filled with is passed over, so braces in the name of a schema or a table are
characters as any others.
-/
import LoadVerifier.Proofs.StatementTokens

namespace LoadVerifier

/-- Fills the slots of the rest of a template. The name is that of the slot that is being read, as
far as it is read. -/
def fillFrom (slot : List Char → List Char) : Option (List Char) → List Char → List Char
  | _, [] => []
  | none, character :: rest =>
    if character = '\x7b' then fillFrom slot (some []) rest
    else character :: fillFrom slot none rest
  | some name, character :: rest =>
    if character = '\x7d' then slot name ++ fillFrom slot none rest
    else fillFrom slot (some (name ++ [character])) rest

/-- Fills the slots of a template with statements. -/
def fillTemplate (template : String) (slots : List (String × Statement)) : List Char :=
  fillFrom (fun name => ((slots.lookup (String.ofList name)).getD []).characters) none
    template.toList

/-- A name in braces. -/
def braced (name : String) : String := "\x7b" ++ name ++ "\x7d"

theorem fillFrom_text (slot : List Char → List Char) (text rest : List Char)
    (unbraced : '\x7b' ∉ text) :
    fillFrom slot none (text ++ rest) = text ++ fillFrom slot none rest := by
  induction text with
  | nil => rfl
  | cons character later inductionHypothesis =>
    obtain ⟨different, laterUnbraced⟩ := not_or.mp (mt List.mem_cons.mpr unbraced)
    rw [List.cons_append, fillFrom, if_neg (Ne.symm different),
      inductionHypothesis laterUnbraced, List.cons_append]

theorem fillFrom_name (slot : List Char → List Char) (read name rest : List Char)
    (unbraced : '\x7d' ∉ name) :
    fillFrom slot (some read) (name ++ '\x7d' :: rest) =
      slot (read ++ name) ++ fillFrom slot none rest := by
  induction name generalizing read with
  | nil => rw [List.nil_append, fillFrom, if_pos rfl, List.append_nil]
  | cons character later inductionHypothesis =>
    obtain ⟨different, laterUnbraced⟩ := not_or.mp (mt List.mem_cons.mpr unbraced)
    rw [List.cons_append, fillFrom, if_neg (Ne.symm different),
      inductionHypothesis _ laterUnbraced, List.append_assoc, List.singleton_append]

/-- A slot behind plain text is filled, and the rest of the template is read behind it. -/
theorem fillFrom_slot (slot : List Char → List Char) (text name : String) (rest : List Char)
    (unbracedText : '\x7b' ∉ text.toList) (unbracedName : '\x7d' ∉ name.toList) :
    fillFrom slot none (text.toList ++ ((braced name).toList ++ rest)) =
      text.toList ++ (slot name.toList ++ fillFrom slot none rest) := by
  have opened : (braced name).toList ++ rest = '\x7b' :: (name.toList ++ '\x7d' :: rest) := by
    simp [braced]
  rw [fillFrom_text slot text.toList _ unbracedText, opened, fillFrom, if_pos rfl,
    fillFrom_name slot [] name.toList rest unbracedName, List.nil_append]

namespace Table

/-- What stands behind the name of the table that is created. -/
def columnsText : String :=
  " (\n  key    bigint NOT NULL,\n  col    int    NOT NULL,\n" ++
    "  value  bytea  NOT NULL,\n  PRIMARY KEY (key, col)\n);\n\n"

/-- The statement that creates a table, with slots. -/
def creationTemplate : String :=
  "\nCREATE SCHEMA IF NOT EXISTS " ++ braced "schema" ++ ";\n\n" ++ braced "drop" ++ "\n\n" ++
    braced "create_table" ++ " IF NOT EXISTS " ++ braced "table" ++ columnsText ++
    braced "compression" ++ "\n"

/-- What the slots are filled with. -/
def creationSlots (table : Table) (creation : Creation) : List (String × Statement) :=
  [("schema", [.identifier table.schema]), ("drop", table.dropPieces creation),
    ("create_table",
      [.plain (if creation.logged then "CREATE TABLE" else "CREATE UNLOGGED TABLE")]),
    ("table", table.pieces), ("compression", table.compressionPieces creation)]

/-- The statement that creates a table is the template with its slots filled, whatever schema and
table are called. -/
theorem fillTemplate_creationTemplate (table : Table) (creation : Creation) :
    fillTemplate creationTemplate (table.creationSlots creation) =
      (table.creationPieces creation).characters := by
  have filled : ∀ name statement, (table.creationSlots creation).lookup name = some statement →
      (((table.creationSlots creation).lookup (String.ofList name.toList)).getD []).characters =
        statement.characters := by
    intro name statement found
    rw [String.ofList_toList, found, Option.getD_some]
  have last : ∀ slot, fillFrom slot none "\n".toList = "\n".toList := fun _ => rfl
  unfold fillTemplate creationTemplate
  simp only [String.toList_append, List.append_assoc]
  rw [fillFrom_slot _ _ _ _ (by decide) (by decide), fillFrom_slot _ _ _ _ (by decide) (by decide),
    fillFrom_slot _ _ _ _ (by decide) (by decide), fillFrom_slot _ _ _ _ (by decide) (by decide),
    fillFrom_slot _ _ _ _ (by decide +kernel) (by decide), last, filled "schema" _ rfl,
    filled "drop" _ rfl, filled "create_table" _ rfl, filled "table" _ rfl,
    filled "compression" _ rfl]
  simp only [creationPieces, Statement.characters, List.flatMap_append, List.flatMap_cons,
    List.flatMap_nil, Piece.render, List.append_assoc, List.append_nil]
  rfl

end Table

end LoadVerifier
