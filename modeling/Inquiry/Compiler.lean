import Inquiry.Catalog.Contract
import Inquiry.Catalog.Description
import Inquiry.Catalog.Metadata
import Inquiry.Explanation
import Inquiry.Extraction
import Inquiry.Request
import Inquiry.Safety.Gate
import Inquiry.Settings
import Inquiry.Statement.Assembly

/-!
# Compilation

A question is compiled in one pass: the inputs are checked, the catalog is
checked against the contract, the intent is extracted, the statement is
assembled, the safety gate is passed, and the explanation is written.

The result depends on the arguments alone; settings and the standard vocabulary
are arguments like the others.
-/

namespace Inquiry

/-- What is described about the database. -/
inductive SchemaSource where
  /-- A catalog that is taken as it is. -/
  | given (catalog : Catalog)
  | description (value : Value)
  | definitions (tables : List TableDefinition)

/-- The catalog of a source, if it describes one. -/
def SchemaSource.catalog? : SchemaSource → Except Fault (Option Catalog)
  | given catalog => .ok (some catalog)
  | description value => Catalog.ofValue? value
  | definitions tables => (Catalog.ofDefinitions tables (.text "public")).map some

/-- What a compilation falls back on where it is not told. -/
structure Surroundings where
  settings : Except Fault Settings
  vocabulary : Except Fault Vocabulary

/-- A question to compile and everything that goes with it.

The flag for debugging is no part of it: it adds an entry to the log.  The intent
is serialised for the log in any case, which succeeds, because texts hold no
surrogates. -/
structure Job where
  question : Value
  schema : SchemaSource
  department : Value := .null
  dateRange : Value := .null
  vocabulary : Option Vocabulary := none
  paramStyle : Value := .null

namespace Compiler

/-- The placeholder style: the given one, or that of the settings. -/
def style (surroundings : Surroundings) (given : Value) : Except Fault ParamStyle :=
  if given.isPresent then ParamStyle.named given
  else surroundings.settings.map (·.paramStyle)

/-- The text of a question, which must hold more than blanks. -/
def questionText (question : Value) : Except Fault Text :=
  match question with
  | .text content =>
      if (Text.strip content).isEmpty then .error .blankQuestion else .ok content
  | _ => .error .blankQuestion

/-- Refuses a department that the vocabulary does not list. -/
def checkDepartment (vocabulary : Vocabulary) (given : Value) : Except Fault Unit := do
  match ← Extraction.override given with
  | none => return ()
  | some name =>
      if vocabulary.departmentCodes.contains (Text.lower (Text.strip name)) then
        return ()
      else throw (.unknownDepartment name vocabulary.departmentCodes)

/-- Refuses a catalog that is not there or lacks what the contract asks for. -/
def checkCatalog (vocabulary : Vocabulary) (schema : SchemaSource) :
    Except Fault Unit := do
  match ← schema.catalog? with
  | none => throw .schemaNotFound
  | some catalog =>
      match ← catalog.missing vocabulary.schema with
      | [] => return ()
      | missing => throw (.contractViolated missing)

/-- Refuses a statement in which the safety gate finds a violation. -/
def checkSafety (vocabulary : Vocabulary) (style : ParamStyle)
    (assembled : Assembled) : Except Fault Unit := do
  match ← Safety.check vocabulary (some style) assembled.sql
      (assembled.parameters.map .text) with
  | [] => return ()
  | violations => throw (.refused violations)

/-- The compiled query for an intent. -/
def compileIntent (vocabulary : Vocabulary) (style : ParamStyle) (intent : Intent) :
    Except Fault CompiledQuery := do
  let assembled := assemble vocabulary style intent
  checkSafety vocabulary style assembled
  let explanation ← explain vocabulary intent assembled.trail
  return {
    sql := assembled.sql
    parameters := assembled.parameters
    explanation
    matchedPatterns := assembled.trail
    departmentFilter := intent.department.map Tagged.tag
    dateFilter := Tagged.tag intent.dateRange.kind
    aggregationType := Tagged.tag intent.aggregation.kind
    limit := if assembled.trail.contains Mark.limitResults.tag then intent.limit else 0
    paramStyle := style }

/-- Compiles a question under a vocabulary and a placeholder style. -/
def compileWith (vocabulary : Vocabulary) (style : ParamStyle) (job : Job) :
    Except Fault CompiledQuery := do
  let question ← questionText job.question
  checkDepartment vocabulary job.department
  checkCatalog vocabulary job.schema
  let intent ←
    Intent.ofQuestion vocabulary question job.department job.dateRange
  compileIntent vocabulary style intent

/-- Compiles a question. -/
def compile (surroundings : Surroundings) (job : Job) :
    Except Fault CompiledQuery := do
  let vocabulary ←
    match job.vocabulary with
    | some vocabulary => pure vocabulary
    | none => surroundings.vocabulary
  let style ← style surroundings job.paramStyle
  compileWith vocabulary style job

/-- Compiles a request; its flag for debugging reaches the log only. -/
def compileRequest (surroundings : Surroundings) (request : Request)
    (schema : SchemaSource) (vocabulary : Option Vocabulary) (paramStyle : Value) :
    Except Fault CompiledQuery :=
  compile surroundings {
    question := .text request.question
    schema
    department := (request.department.map fun code => .text (Tagged.tag code)).getD .null
    dateRange := (request.dateRange.map Value.text).getD .null
    vocabulary
    paramStyle }

end Compiler

end Inquiry
