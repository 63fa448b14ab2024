import Inquiry.Fault
import Inquiry.Intent
import Inquiry.Pattern.Matcher
import Inquiry.Text.Blank
import Inquiry.Text.Case
import Inquiry.Vocabulary.Basic

/-!
# Extraction

A question is turned into an intent by six readings that do not depend on each
other.  All of them look at the question in small letters and consult the rules
of the vocabulary in order.

An explicit department or date window takes the place of what the question
says about it.
-/

namespace Inquiry

namespace Extraction

/-- An override as given: a text, or nothing.  An empty text and other values
that count as absent are no override. -/
def override (given : Value) : Except Fault (Option Text) :=
  if !given.isPresent then .ok none
  else
    match given with
    | .text content => .ok (some content)
    | _ => .error .wrongType

/-- The tag of a department: the override, or the first department that a
synonym points to. -/
def department (vocabulary : Vocabulary) (question : Text)
    (explicit : Option Text) : Option Text :=
  match explicit with
  | some given => some (Text.lower (Text.strip given))
  | none =>
      let question := Text.lower question
      (vocabulary.departments.find? fun rule => mentions rule.synonyms question).map
        fun rule => Tagged.tag rule.code

end Extraction

/-- The window that a rule selects. -/
def DateRangeRule.dateRange (rule : DateRangeRule) : DateRange :=
  { kind := rule.kind, predicate := rule.predicate, boundParams := [] }

namespace Extraction

/-- The first rule one of whose phrases the text mentions. -/
def mentionedRange? (vocabulary : Vocabulary) (text : Text) :
    Option DateRangeRule :=
  vocabulary.dateRanges.find? fun rule => mentions rule.phrases text

/-- The rule whose tag is the text. -/
def taggedRange? (vocabulary : Vocabulary) (tag : Text) : Option DateRangeRule :=
  vocabulary.dateRanges.find? fun rule => Tagged.tag rule.kind == tag

/-- The window that a text names, by its tag or by a phrase.  A text that names
none stands for a window of its own, which filters nothing. -/
def namedRange (vocabulary : Vocabulary) (given : Text) : DateRange :=
  let text := Text.lower (Text.strip given)
  match (taggedRange? vocabulary (Text.tag text)).orElse
      fun _ => mentionedRange? vocabulary text with
  | some rule => rule.dateRange
  | none => { kind := .custom }

/-- The date window: the override unless it is blank, or the first window that
the question mentions. -/
def dateRange (vocabulary : Vocabulary) (question : Text)
    (explicit : Option Text) : DateRange :=
  match explicit.filter fun given => !(Text.strip given).isEmpty with
  | some given => namedRange vocabulary given
  | none =>
      match mentionedRange? vocabulary (Text.lower question) with
      | some rule => rule.dateRange
      | none => {}

/-- The way of summarising that the question mentions first in the order of the
rules. -/
def aggregation (vocabulary : Vocabulary) (question : Text) : Aggregation :=
  let question := Text.lower question
  match vocabulary.aggregations.find? fun rule => mentions rule.keywords question with
  | some rule => { kind := rule.kind, sqlFunction := Tagged.tag rule.function }
  | none => {}

/-- The metrics of every keyword that the question holds, in the order of the
rules. -/
def metrics (vocabulary : Vocabulary) (question : Text) : List Value :=
  let question := Text.lower question
  (vocabulary.metrics.filter fun rule => Text.occurs rule.keyword question).flatMap
    (·.names)

/-- The ranking that the question mentions first in the order of the rules. -/
def comparison (vocabulary : Vocabulary) (question : Text) : Comparison :=
  let question := Text.lower question
  match vocabulary.comparisons.find? fun rule => mentions rule.keywords question with
  | some rule => { kind := rule.kind, direction := rule.direction }
  | none => {}

/-- The number that a text of ASCII digits spells, or zero if it is no such
text or exceeds the maximum. -/
def boundedLimit (text : Text) (maximum : Int) : Except Fault Nat :=
  if !Decimal.isPlain text then .ok 0
  else
    match Decimal.readNat text with
    | .error error => .error (.ofIntegerError text error)
    | .ok number => .ok (if maximum < number then 0 else number)

/-- A given row limit as a number, or zero if it is not acceptable: truth
values, fractions and texts other than plain digits are not. -/
def validLimit (given : Value) (maximum : Int) : Except Fault Nat :=
  match given with
  | .int _ | .text _ =>
      match given.written? with
      | some text => boundedLimit text maximum
      | none => .error .unwritableInteger
  | _ => .ok 0

/-- What the first group of a match captured, as a value. -/
def firstCapture (spot : Pattern.Spot) : Value :=
  match spot.capture? 1 with
  | some captured => .text captured
  | none => .null

/-- The row limit: the number that the first matching pattern captures, or the
default of rankings if the question asks for one. -/
def limit (vocabulary : Vocabulary) (question : Text) : Except Fault Nat :=
  let question := Text.lower question
  let rules := vocabulary.limits
  match rules.patterns.findSome? fun rule => rule.pattern.search question with
  | some spot => validLimit (firstCapture spot) rules.maximum
  | none =>
      if mentions vocabulary.comparisonKeywords question then .ok rules.defaultRanked
      else .ok 0

end Extraction

namespace Intent

open Validation Extraction

/-- Puts together what the readings found.  The result is a validated record: its
department has to be one of the known ones and every metric name a text.  The other
fields hold records and numbers that the validation library accepts as they are. -/
def ofReadings (department : Option Text) (dateRange : DateRange)
    (aggregation : Aggregation) (metrics : List Value) (comparison : Comparison)
    (limit : Nat) : Checked Intent :=
  let code : Checked (Option Department) :=
    match department with
    | none => .ok none
    | some given => (tagged Department (.text given)).map some
  Checked.start (fun department metrics =>
      { department, dateRange, aggregation, metrics, comparison, limit : Intent })
    |>.apply (code.under (.field "department"))
    |>.apply ((textsFrom 0 metrics).under (.field "metrics"))

/-- The intent of a question under explicit overrides. -/
def ofQuestion (vocabulary : Vocabulary) (question : Text)
    (department dateRange : Value) : Except Fault Intent := do
  let question := Text.strip (Text.lower question)
  let department ← override department
  let dateRange ← override dateRange
  let limit ← Extraction.limit vocabulary question
  let intent :=
    ofReadings
      (Extraction.department vocabulary question department)
      (Extraction.dateRange vocabulary question dateRange)
      (Extraction.aggregation vocabulary question)
      (Extraction.metrics vocabulary question)
      (Extraction.comparison vocabulary question)
      limit
  intent.mapError Fault.invalid

end Intent

end Inquiry
