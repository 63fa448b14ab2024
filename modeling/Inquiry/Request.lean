import Inquiry.Fault
import Inquiry.Kind
import Inquiry.Text.Blank
import Inquiry.Text.Case
import Inquiry.Validation.Scalar

/-!
# Requests and compiled queries

A request is what a caller asks for; a compiled query is what the caller gets,
ready to be executed.
-/

namespace Inquiry

/-- A question with its explicit overrides. -/
structure Request where
  question : Text
  department : Option Department := none
  dateRange : Option Text := none
  debug : Bool := false
  deriving Repr, DecidableEq

/-- A statement with its parameters and the account of how it was built. -/
structure CompiledQuery where
  sql : Text
  parameters : List Text := []
  explanation : Text
  matchedPatterns : List Text := []
  departmentFilter : Option Text := none
  dateFilter : Text := "none"
  aggregationType : Text := "none"
  limit : Int := 0
  paramStyle : ParamStyle := .dollar
  deriving Repr, DecidableEq

open Validation

namespace Request

/-- The longest question that is accepted. -/
def longestQuestion : Nat := 500

/-- Reads a question, which must hold more than blanks. -/
def readQuestion (value : Value) : Checked Text := do
  let content ← text value
  if content.isEmpty then .fail .emptyText
  else if longestQuestion < content.length then .fail (.longText longestQuestion)
  else if (Text.strip content).isEmpty then .fail .blankQuestion
  else .ok content

/-- Reads a department in any case and with surrounding blanks; a blank text
names none. -/
def readDepartment (value : Value) : Checked (Option Department) :=
  let tidied :=
    match value with
    | .text content =>
        let content := Text.lower (Text.strip content)
        if content.isEmpty then Value.null else .text content
    | other => other
  nullable (tagged Department) tidied

/-- Reads a request.  The validation library tidies the department before it is
compared with the tags, and looks for more than blanks in a question only if its
length is accepted. -/
def read (entries : List (Value × Value)) : Checked Request :=
  Checked.start Request.mk
    |>.apply (field entries "question" none readQuestion)
    |>.apply (field entries "department" (some none) readDepartment)
    |>.apply (field entries "date_range" (some none) (nullable text))
    |>.apply (field entries "debug" (some false) truth)

end Request

namespace CompiledQuery

/-- Reads a compiled query. -/
def read (entries : List (Value × Value)) : Checked CompiledQuery :=
  Checked.start CompiledQuery.mk
    |>.apply (field entries "sql" none text)
    |>.apply (field entries "parameters" (some []) texts)
    |>.apply (field entries "explanation" none text)
    |>.apply (field entries "matched_patterns" (some []) texts)
    |>.apply (field entries "department_filter" (some none) (nullable text))
    |>.apply (field entries "date_filter" (some "none") text)
    |>.apply (field entries "aggregation_type" (some "none") text)
    |>.apply (field entries "limit" (some 0) integer)
    |>.apply (field entries "param_style" (some .dollar) (tagged ParamStyle))

/-- What a caller is told; the account of how the statement was built is left
out unless asked for. -/
def response (query : CompiledQuery) (debug : Bool) : Value :=
  let account : List (Text × Value) :=
    if debug then
      [("explanation", .text query.explanation),
       ("matched_patterns", .texts query.matchedPatterns)]
    else []
  let statement : List (Text × Value) :=
    [("sql", .text query.sql), ("parameters", .texts query.parameters)]
  let summary : List (Text × Value) :=
    [("department_filter", (query.departmentFilter.map Value.text).getD .null),
     ("date_filter", .text query.dateFilter),
     ("aggregation_type", .text query.aggregationType),
     ("limit", .int query.limit),
     ("param_style", .text (Tagged.tag query.paramStyle))]
  .record (statement ++ account ++ summary)

end CompiledQuery

end Inquiry
