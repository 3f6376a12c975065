/-
This file reads the text of a statement as the database does, up to its tokens: words, symbols,
names in double quotes and constants in single quotes. A quote that is doubled stands for one quote
of the name or the constant, and a comment stands for a blank.

The reader goes through a text one character at a time. So what it makes of a text depends on where
it stands, and of the text behind it on nothing else. A name in double quotes takes it from any
place where a name may begin to the closing quote, and whatever the name is, it becomes one token.
A statement whose plain texts begin and end between tokens is therefore read piece by piece.
-/
import LoadVerifier.Table.Statement
import LoadVerifier.Text.Integer

namespace LoadVerifier

/-! ### The reader -/

/-- A token of a statement. -/
inductive Token
  | word (text : String)
  | symbol (character : Char)
  | name (text : String)
  | constant (text : String)
  deriving DecidableEq

/-- Whether a character may stand in a word. -/
def isWordCharacter (character : Char) : Bool :=
  character.isAlphanum || character = '_' || character = '$' || 128 ≤ character.toNat

/-- Where a reader of statements stands: between tokens, in a token of which some characters are
read, behind a character that may begin or end something, or in a comment. Comments between slash
and star may stand in each other. -/
inductive Place
  | between
  | word (read : List Char)
  | name (read : List Char)
  | nameQuote (read : List Char)
  | constant (read : List Char)
  | constantQuote (read : List Char)
  | dash
  | line
  | slash
  | comment (around : Nat)
  | commentSlash (around : Nat)
  | commentStar (around : Nat)
  deriving DecidableEq

namespace Place

/-- Reads a character that stands between tokens. -/
def begin (character : Char) : Place × List Token :=
  if Text.isPadding character then (.between, [])
  else if character = '"' then (.name [], [])
  else if character = '\'' then (.constant [], [])
  else if character = '-' then (.dash, [])
  else if character = '/' then (.slash, [])
  else if isWordCharacter character then (.word [character], [])
  else (.between, [.symbol character])

/-- A token has ended in front of a character. -/
def follow (token : Token) (character : Char) : Place × List Token :=
  ((begin character).1, token :: (begin character).2)

/-- Reads a character: the next place, and the tokens that have ended. -/
def step : Place → Char → Place × List Token
  | .between, character => begin character
  | .word read, character =>
    if isWordCharacter character then (.word (read ++ [character]), [])
    else follow (.word (String.ofList read)) character
  | .name read, character =>
    if character = '"' then (.nameQuote read, []) else (.name (read ++ [character]), [])
  | .nameQuote read, character =>
    if character = '"' then (.name (read ++ [character]), [])
    else follow (.name (String.ofList read)) character
  | .constant read, character =>
    if character = '\'' then (.constantQuote read, []) else (.constant (read ++ [character]), [])
  | .constantQuote read, character =>
    if character = '\'' then (.constant (read ++ [character]), [])
    else follow (.constant (String.ofList read)) character
  | .dash, character => if character = '-' then (.line, []) else follow (.symbol '-') character
  | .line, character => if character = '\n' then (.between, []) else (.line, [])
  | .slash, character =>
    if character = '*' then (.comment 0, []) else follow (.symbol '/') character
  | .comment around, character =>
    if character = '/' then (.commentSlash around, [])
    else if character = '*' then (.commentStar around, [])
    else (.comment around, [])
  | .commentSlash around, character =>
    if character = '*' then (.comment (around + 1), [])
    else if character = '/' then (.commentSlash around, [])
    else (.comment around, [])
  | .commentStar around, character =>
    if character = '/' then
      match around with
      | 0 => (.between, [])
      | outer + 1 => (.comment outer, [])
    else if character = '*' then (.commentStar around, [])
    else (.comment around, [])

/-- The token that ends with the text, unless the text may not end there. -/
def finish : Place → Option (List Token)
  | .between | .line => some []
  | .word read => some [.word (String.ofList read)]
  | .nameQuote read => some [.name (String.ofList read)]
  | .constantQuote read => some [.constant (String.ofList read)]
  | .dash => some [.symbol '-']
  | .slash => some [.symbol '/']
  | .name _ | .constant _ | .comment _ | .commentSlash _ | .commentStar _ => none

/-- Reads a text: the place behind it, and the tokens that have ended. -/
def advance : Place → List Char → Place × List Token
  | place, [] => (place, [])
  | place, character :: rest =>
    let next := place.step character
    let last := next.1.advance rest
    (last.1, next.2 ++ last.2)

end Place

/-- The tokens of a text, unless it ends within a name, a constant or a comment. -/
def lex (text : String) : Option (List Token) :=
  let last := Place.between.advance text.toList
  last.1.finish.map (last.2 ++ ·)

namespace Place

theorem advance_append (place : Place) (text rest : List Char) :
    place.advance (text ++ rest) =
      (((place.advance text).1.advance rest).1,
        (place.advance text).2 ++ ((place.advance text).1.advance rest).2) := by
  induction text generalizing place with
  | nil => rfl
  | cons character later inductionHypothesis =>
    simp only [List.cons_append, advance, inductionHypothesis, List.append_assoc]

/-- Inside a name every quote is doubled, so the whole name is read. -/
theorem advance_doubleQuotes (read name : List Char) :
    (Place.name read).advance (Piece.doubleQuotes name) = (.name (read ++ name), []) := by
  induction name generalizing read with
  | nil => simp [Piece.doubleQuotes, advance]
  | cons character rest inductionHypothesis =>
    rw [Piece.doubleQuotes]
    split
    · rename_i quote
      simp [advance, step, inductionHypothesis, quote]
    · rename_i ordinary
      simp [advance, step, inductionHypothesis, ordinary]

theorem advance_identifier (name : String) :
    Place.between.advance (Piece.identifier name).render = (.nameQuote name.toList, []) := by
  rw [Piece.render, List.cons_append, advance, advance_append]
  have opened : step .between '"' = (.name [], []) := rfl
  rw [opened, advance_doubleQuotes]
  rfl

/-- Behind a closing quote, a character that is no quote ends the name. -/
theorem advance_nameQuote (name : String) {character : Char} (rest : List Char)
    (ordinary : character ≠ '"') :
    (Place.nameQuote name.toList).advance (character :: rest) =
      ((Place.between.advance (character :: rest)).1,
        .name name :: (Place.between.advance (character :: rest)).2) := by
  have ended : step (.nameQuote name.toList) character = follow (.name name) character := by
    rw [step, if_neg ordinary, String.ofList_toList]
  rw [advance, ended]
  rfl

end Place

/-! ### Statements piece by piece -/

/-- The characters of a statement. -/
def Statement.characters (statement : Statement) : List Char :=
  statement.flatMap Piece.render

/-- Read between tokens, a statement ends between tokens, and these are its tokens. -/
def Statement.Lexes (statement : Statement) (tokens : List Token) : Prop :=
  Place.between.advance statement.characters = (.between, tokens)

namespace Statement

instance (statement : Statement) (tokens : List Token) : Decidable (statement.Lexes tokens) :=
  inferInstanceAs (Decidable (_ = _))

theorem Lexes.append {statement later : Statement} {tokens laterTokens : List Token}
    (lexes : statement.Lexes tokens) (laterLexes : later.Lexes laterTokens) :
    Statement.Lexes (statement ++ later) (tokens ++ laterTokens) := by
  unfold Lexes characters at *
  rw [List.flatMap_append, Place.advance_append, lexes, laterLexes]

/-- A statement that begins with something else than a quote. -/
def Unquoted (statement : Statement) : Prop :=
  ∃ character ∈ statement.characters.head?, character ≠ '"'

/-- A name is one token, whatever it is, in front of anything but another quote. -/
theorem Lexes.identifier_cons (name : String) {statement : Statement} {tokens : List Token}
    (lexes : statement.Lexes tokens) (unquoted : statement.Unquoted) :
    Statement.Lexes (.identifier name :: statement) (.name name :: tokens) := by
  obtain ⟨character, isHead, ordinary⟩ := unquoted
  obtain ⟨rest, split⟩ := List.head?_eq_some_iff.mp isHead
  have behind : (Place.nameQuote name.toList).advance statement.characters =
      (.between, .name name :: tokens) := by
    rw [Lexes, split] at lexes
    rw [split, Place.advance_nameQuote name rest ordinary, lexes]
  unfold characters at behind
  rw [Lexes, characters, List.flatMap_cons, Place.advance_append, Place.advance_identifier, behind,
    List.nil_append]

/-- The text of a statement that ends between tokens has its tokens. -/
theorem Lexes.lex_text {statement : Statement} {tokens : List Token}
    (lexes : statement.Lexes tokens) : lex statement.text = some tokens := by
  unfold Lexes at lexes
  rw [lex, Statement.text, String.toList_ofList, ← characters, lexes]
  exact congrArg some (List.append_nil tokens)

end Statement

/-- The qualified name of a table is three tokens, whatever its two names are. -/
theorem Table.lexes_pieces_append (table : Table) {statement : Statement} {tokens : List Token}
    (lexes : statement.Lexes tokens) (unquoted : statement.Unquoted) :
    Statement.Lexes (table.pieces ++ statement)
      (.name table.schema :: .symbol '.' :: .name table.name :: tokens) := by
  have dot : Statement.Lexes [.plain "."] [.symbol '.'] := by decide
  have name := lexes.identifier_cons table.name unquoted
  exact (dot.append name).identifier_cons table.schema ⟨'.', rfl, by decide⟩

end LoadVerifier
