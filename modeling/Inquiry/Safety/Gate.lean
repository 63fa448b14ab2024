import Inquiry.Fault
import Inquiry.Safety.Keyword
import Inquiry.Safety.Placeholder
import Inquiry.Text.Case

/-!
# The safety gate

The last check before a statement is handed out looks at its text, its
parameters and the vocabulary, and at nothing else.  It lists every violation
it finds; an empty list lets the statement pass.
-/

namespace Inquiry.Safety

/-- The keyword of every statement that may pass. -/
def selectKeyword : Text := "SELECT"

/-- The text begins, in capitals, with the keyword of a selection. -/
def isSelect (sql : Text) : Bool :=
  selectKeyword.isPrefixOf (Text.upper sql)

/-- A selection of all columns. -/
def selectsStar (sql : Text) : Bool :=
  (find? (fun previous text => do
    if !startsWord previous then none
    let (_, rest) ← spelled? selectKeyword text
    let (_, rest) ← blanks? rest
    if rest.head? == some '*' then some () else none) sql).isSome

/-- The keywords that change data, structure or rights. -/
def dangerousPhrases : List (List Text) :=
  [["DROP"], ["ALTER"], ["TRUNCATE"], ["INSERT"], ["UPDATE"], ["DELETE"],
   ["MERGE"], ["GRANT"], ["REVOKE"], ["CREATE"], ["REPLACE"], ["EXECUTE"],
   ["EXEC"], ["CALL"], ["COPY"], ["SET", "ROLE"], ["RESET", "ROLE"]]

/-- The first dangerous keyword, as it is spelled. -/
def dangerous? (sql : Text) : Option Text :=
  find? (fun previous text =>
    if !startsWord previous then none
    else
      dangerousPhrases.findSome? fun phrase =>
        match phrase? phrase text with
        | some (found, rest) => if endsWord rest then some found else none
        | none => none) sql

/-- The words that may stand before the keyword of a join. -/
def joinKinds : List Text :=
  ["INNER", "LEFT", "RIGHT", "FULL", "CROSS"]

/-- The phrases that a table name follows. -/
def tablePhrases : List (List Text) :=
  ["FROM"] :: ["JOIN"] :: joinKinds.map fun kind => [kind, "JOIN"]

/-- A character of a table name. -/
def isNameChar (c : Char) : Bool :=
  Text.isWord c || c == '.'

/-- A table name after one of its phrases: the name, and what follows it. -/
def tableName? (text : Text) : Option (Text × Text) :=
  tablePhrases.findSome? fun phrase => do
    let (_, rest) ← phrase? phrase text
    let (_, rest) ← blanks? rest
    let name := rest.takeWhile isNameChar
    if name.isEmpty then none else some (name, rest.dropWhile isNameChar)

/-- The tables named at the starts of lines.  `covered` counts the characters
that belong to the previous finding. -/
def tablesFrom (lineStart : Bool) : (covered : Nat) → Text → List Text
  | _, [] => []
  | covered + 1, c :: rest => tablesFrom (c == '\n') covered rest
  | 0, c :: rest =>
      match if lineStart then tableName? (c :: rest) else none with
      | some (name, after) =>
          name :: tablesFrom (c == '\n') (rest.length - after.length) rest
      | none => tablesFrom (c == '\n') 0 rest

/-- The tables that a text names at the starts of its lines. -/
def tables (sql : Text) : List Text :=
  tablesFrom true 0 sql

/-- The keyword of row limits. -/
def limitKeyword : Text := "LIMIT"

/-- The text holds the keyword of row limits. -/
def hasLimit (sql : Text) : Bool :=
  (find? (fun previous text => do
    if !startsWord previous then none
    let (_, rest) ← spelled? limitKeyword text
    if endsWord rest then some () else none) sql).isSome

/-- The last word of the text, if the keyword of row limits stands before it. -/
def finalLimit? (sql : Text) : Option Text :=
  find? (fun previous text => do
    if !startsWord previous then none
    let (_, rest) ← spelled? limitKeyword text
    let (_, literal) ← blanks? rest
    if literal.isEmpty || literal.any Text.isBlank then none else some literal) sql

/-- The violation of a row limit, if there is one. -/
def limitViolations (maximum : Nat) (sql : Text) :
    Except Fault (List Violation) :=
  if !hasLimit sql then .ok []
  else
    let literal := (finalLimit? sql).getD []
    if !Decimal.isPlain literal then .ok [.limitNotLiteral literal]
    else
      match Decimal.readNat literal with
      | .error error => .error (.ofIntegerError literal error)
      | .ok number =>
          .ok (if maximum < number then [.limitTooLarge literal maximum] else [])

/-- The numbers of the numbered placeholders. -/
def placeholderNumbers (sql : Text) : Except Fault (List Nat) :=
  (numberedMarks sql).mapM fun digits =>
    (Decimal.readNat digits).mapError (Fault.ofIntegerError digits)

/-- The violation of the agreement between placeholders and parameters, if there
is one: their numbers have to be equal, and numbered placeholders have to count
up from one. -/
def placeholderViolations (style : Option ParamStyle) (sql : Text)
    (parameters : List Value) : Except Fault (List Violation) :=
  let found := countPlaceholders style sql
  if found ≠ parameters.length then
    .ok [.placeholderCount found parameters.length]
  else if style = some .dollar then do
    let numbers ← placeholderNumbers sql
    return if numbers = List.range' 1 numbers.length then []
      else [.placeholderOrder numbers]
  else .ok []

/-- The parameters that are not texts, numbered from a position. -/
def parameterViolations : (position : Nat) → List Value → List Violation
  | _, [] => []
  | position, .text _ :: rest => parameterViolations (position + 1) rest
  | position, value :: rest =>
      .parameterNotText position value.kindName ::
        parameterViolations (position + 1) rest

/-- The tables that the contract does not know. -/
def foreignTables (contract : SchemaContract) (sql : Text) : List Text :=
  let allowed := contract.tables.map Text.lower
  (tables sql).filter fun name =>
    !allowed.contains (Text.afterLast '.' (Text.lower name))

/-- One violation where a condition holds. -/
def violationIf (found : Bool) (violation : Violation) : List Violation :=
  if found then [violation] else []

/-- Every violation of a statement, in the order of the checks. -/
def check (vocabulary : Vocabulary) (style : Option ParamStyle) (sql : Text)
    (parameters : List Value) : Except Fault (List Violation) := do
  let sql := Text.strip sql
  let limits ← limitViolations vocabulary.limits.maximum sql
  let placeholders ← placeholderViolations style sql parameters
  return violationIf (!isSelect sql) .notSelect ++
    violationIf (sql.contains ';') .separator ++
    violationIf (selectsStar sql) .selectStar ++
    ((dangerous? sql).map fun found => .dangerousKeyword (Text.upper found)).toList ++
    violationIf (Text.occurs "--" sql) .inlineComment ++
    violationIf (Text.occurs "/*" sql) .blockComment ++
    (foreignTables vocabulary.schema sql).map .foreignTable ++
    limits ++ placeholders ++ parameterViolations 1 parameters

end Inquiry.Safety
