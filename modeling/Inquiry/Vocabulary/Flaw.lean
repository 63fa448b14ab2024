import Inquiry.Vocabulary.Basic
import Inquiry.Pattern.Parser

/-!
# Flaws of vocabularies

What can be wrong with the contents of a vocabulary file.  A flaw holds the values that it
names as they are written; a value that cannot be written is a fault of its own.
-/

namespace Inquiry

/-- What is wrong with a vocabulary. -/
inductive VocabularyFlaw where
  | notMapping
  | schemaMissing
  | notIdentifier (place key given : Text)
  | sameAliases
  | noPhrases (place key : Text)
  | unknownDepartment (given : Text)
  | badDateKind (given : Text)
  | noPredicate (kind : DateKind)
  | badAggregationKind (given : Text)
  | badFunction (kind : AggregationKind) (given : Text)
  | badColumnRole (kind : AggregationKind) (given : Text)
  | noKeyword
  | noMetricNames (keyword : Text)
  | badComparisonKind (given : Text)
  | badDirection (kind : ComparisonKind) (given : Text)
  | badPattern (source : Text) (error : Pattern.ParseError)
  | patternCapturesNothing (source : Text)
  | badLimits (default maximum : Text)
  | duplicates (place : Text) (kinds : List Text)

/-- The wording of a flaw. -/
def VocabularyFlaw.message : VocabularyFlaw → Text
  | notMapping => "Vocabulary file must contain a mapping"
  | schemaMissing => "schema section must declare 'fact' and 'dimension' tables"
  | notIdentifier place key given =>
      place ++ "." ++ key ++ " must be a plain SQL identifier, got " ++ given
  | sameAliases => "fact and dimension tables must use distinct aliases"
  | noPhrases place key =>
      place ++ " entry has an empty '" ++ key ++ "' list"
  | unknownDepartment given =>
      "Unknown department '" ++ given ++ "'. Allowed: " ++
        Text.join ", " (Tagged.tags Department)
  | badDateKind given => "Invalid date range kind " ++ given
  | noPredicate kind => "Date range '" ++ Tagged.tag kind ++ "' has no predicate"
  | badAggregationKind given => "Invalid aggregation kind " ++ given
  | badFunction kind given =>
      "Aggregation '" ++ Tagged.tag kind ++ "' uses unsupported function " ++
        Text.quoted given
  | badColumnRole kind given =>
      "Aggregation '" ++ Tagged.tag kind ++ "' targets unknown column role " ++ given
  | noKeyword => "metrics entry is missing 'keyword'"
  | noMetricNames keyword =>
      "Metric keyword '" ++ keyword ++ "' maps to no metric names"
  | badComparisonKind given => "Invalid comparison kind " ++ given
  | badDirection kind given =>
      "Comparison '" ++ Tagged.tag kind ++ "' has invalid direction " ++
        Text.quoted given
  | badPattern source error =>
      "Invalid limit pattern " ++ Text.quoted source ++ ": " ++ error.message source
  | patternCapturesNothing source =>
      "Limit pattern " ++ Text.quoted source ++ " must capture the number"
  | badLimits default maximum =>
      "Invalid limits: default_ranked_limit=" ++ default ++ ", max_limit=" ++ maximum
  | duplicates place kinds =>
      "Duplicate " ++ place ++ " entries: " ++ Text.join ", " kinds

end Inquiry
