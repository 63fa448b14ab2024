import Inquiry.Safety.Violation
import Inquiry.Validation.Basic
import Inquiry.Vocabulary.Flaw

/-!
# Faults

Everything that can stand in the way of an answer.  The faults that a caller is
meant to handle carry a report: a code, a message and details.
-/

namespace Inquiry

/-- What is told to a caller about a refused request. -/
structure Report where
  /-- The class of the refusal. -/
  name : Text
  code : Text
  message : Text
  details : Value

namespace Report

/-- A refusal without a class of its own. -/
def general (message : Text) (details : Value) : Report :=
  { name := "CompilerError", code := "COMPILER_ERROR", message, details }

/-- No schema was supplied. -/
def schemaNotFound (dependency : Value) : Report :=
  { name := "SchemaNotFoundError"
    code := "SCHEMA_NOT_FOUND"
    message :=
      "Database schema not found. Run schema discovery before compiling questions."
    details := .record [("missing", dependency)] }

/-- The schema lacks tables or columns. -/
def contractViolated (missing : List Text) : Report :=
  { name := "SchemaContractError"
    code := "SCHEMA_CONTRACT_VIOLATION"
    message :=
      "Schema catalog does not satisfy the query contract. Missing: " ++
        Text.join ", " missing
    details := .record [("missing", .texts missing)] }

/-- The question or an override is not acceptable. -/
def invalidQuestion (message : Text) (details : Value) : Report :=
  { name := "InvalidQuestionError", code := "INVALID_QUESTION", message, details }

/-- The statement was refused by the safety checks. -/
def refused (violations : List Text) : Report :=
  { name := "UnsafeSQLError"
    code := "UNSAFE_SQL"
    message := "Compiled SQL failed safety checks: " ++ Text.join "; " violations
    details := .record [("violations", .texts violations)] }

/-- The vocabulary is malformed. -/
def badVocabulary (message : Text) (details : Value) : Report :=
  { name := "VocabularyError", code := "VOCABULARY_INVALID", message, details }

end Report

/-- Why there is no answer. -/
inductive Fault where
  | schemaNotFound
  | contractViolated (missing : List Text)
  | blankQuestion
  | unknownDepartment (given : Text) (allowed : List Text)
  | refused (violations : List Safety.Violation)
  | vocabulary (flaw : VocabularyFlaw)
  | invalid (issues : List Issue)
  | unknownStyle (given : Text)
  | malformedInteger (base : Nat) (given : Text)
  | integerTooLong (digits : Nat)
  /-- An integer has more digits than are written. -/
  | unwritableInteger
  | undefinedNumber
  | infiniteNumber
  /-- A pattern repeats its part too often. -/
  | oversizedRepetition
  /-- A pattern names a character by a number that is out of all bounds. -/
  | oversizedCharacter
  /-- A pattern asks for the classes of ASCII and for those of all scripts. -/
  | incompatibleOptions
  | unsupportedSchema (kindName : Text)
  | missingKey (name : Text)
  /-- A value is of a kind that cannot be used where it stands. -/
  | wrongType
  | malformedYaml
  | malformedJson
  | fileNotFound
  | unknownReferredTable

namespace Fault

/-- The fault of reading an integer from a text. -/
def ofIntegerError (given : Text) : Decimal.IntegerError → Fault
  | .malformed => malformedInteger 10 given
  | .tooLong digits => integerTooLong digits

/-- The report of a fault that a caller is meant to handle. -/
def report? : Fault → Option Report
  | schemaNotFound => some (.schemaNotFound (.text "schema_catalog"))
  | contractViolated missing => some (.contractViolated missing)
  | blankQuestion =>
      some (.invalidQuestion "Question must be a non-empty string." (.mapping []))
  | unknownDepartment given allowed =>
      some (.invalidQuestion
        ("Unknown department '" ++ given ++ "'. Allowed: " ++ Text.join ", " allowed)
        (.record [("department", .text given)]))
  | refused violations => some (.refused (violations.map (·.message)))
  | vocabulary flaw => some (.badVocabulary flaw.message (.mapping []))
  | _ => none

/-- The wording of the faults about single values. -/
def message? : Fault → Option Text
  | unknownStyle given =>
      some ("Unknown param_style '" ++ given ++ "'. Allowed: " ++
        Text.join ", " (Tagged.tags ParamStyle))
  | malformedInteger base given =>
      some ("invalid literal for int() with base " ++ Decimal.ofNat base ++ ": " ++
        (Text.quoted given).take 200)
  | integerTooLong digits =>
      some ("Exceeds the limit (4300 digits) for integer string conversion: " ++
        "value has " ++ Decimal.ofNat digits ++
        " digits; use sys.set_int_max_str_digits() to increase the limit")
  | unwritableInteger =>
      some ("Exceeds the limit (4300 digits) for integer string conversion; " ++
        "use sys.set_int_max_str_digits() to increase the limit")
  | undefinedNumber => some "cannot convert float NaN to integer"
  | infiniteNumber => some "cannot convert float infinity to integer"
  | oversizedRepetition => some "the repetition number is too large"
  | oversizedCharacter => some "Python int too large to convert to C int"
  | incompatibleOptions => some "ASCII and UNICODE flags are incompatible"
  | unsupportedSchema kindName =>
      some ("Unsupported schema description: " ++ kindName)
  | missingKey name => some name
  | _ => none

end Fault

/-- The text of a value, which a value with too long an integer does not have. -/
def Value.write (value : Value) : Except Fault Text :=
  match value.written? with
  | some written => .ok written
  | none => .error .unwritableInteger

end Inquiry
