import Inquiry.Vocabulary.Basic
import Inquiry.Pattern.Parser

/-!
# The bundled vocabulary

The vocabulary that is used where no other one is supplied: metrics of six
departments, the quarters and months of the running year, four ways of
summarising, and rankings.
-/

namespace Inquiry.Vocabulary

/-- The bundled tables and columns. -/
def bundledSchema : SchemaContract where
  fact :=
    { table := "metrics"
      shortName := "m"
      departmentKey := "department_id"
      metricName := "metric_name"
      metricValue := "metric_value"
      metricDate := "metric_date"
      changePercent := "monthly_change_percent" }
  dimension :=
    { table := "departments"
      shortName := "d"
      key := "id"
      name := "name"
      code := "code" }

/-- The condition for a quarter of the running year. -/
def quarterPredicate (quarter : Text) : Text :=
  "EXTRACT(QUARTER FROM m.metric_date) = " ++ quarter ++
    " AND EXTRACT(YEAR FROM m.metric_date) = EXTRACT(YEAR FROM CURRENT_DATE)"

/-- The rule for a quarter of the running year. -/
def quarterRule (kind : DateKind) (quarter : Text) (phrases : List Text)
    (label : Text) : DateRangeRule :=
  { kind, phrases, predicate := quarterPredicate quarter, label := .text label }

/-- The rule for a keyword and the metrics it stands for. -/
def metricRule (keyword : Text) (names : List Text) : MetricRule :=
  { keyword, names := names.map .text }

/-- One blank of ASCII or more. -/
def someBlanks : Pattern :=
  .repeated (.char { items := [.within .blank] }) 1 none false

/-- One digit of ASCII or more, captured. -/
def someDigits : Pattern :=
  .group 1 (.repeated (.char { items := [.span '0'.toNat '9'.toNat] }) 1 none false)

/-- The characters of a word, one after another. -/
def spelling (word : Text) : List Pattern :=
  word.map fun c => .char (.single c.toNat)

/-- A word, blanks and the number. -/
def wordBeforeNumber (word : Text) : Pattern :=
  .inOrder (spelling word ++ [someBlanks, someDigits])

/-- The number, blanks and one of the words. -/
def numberBeforeWord (words : List Text) : Pattern :=
  .inOrder [someDigits, someBlanks,
    .oneOf (words.map fun word => .inOrder (spelling word))]

/-- The bundled vocabulary. -/
def bundled : Vocabulary where
  version := .int 1
  schema := bundledSchema
  departments :=
    [{ code := .sales
       synonyms := ["sales", "revenue", "pipeline", "arr", "deals"] },
     { code := .finance
       synonyms := ["finance", "financial", "cash", "burn", "runway", "expenses"] },
     { code := .devrel
       synonyms := ["devrel", "developer", "github", "community", "twitter", "discord"] },
     { code := .hr
       synonyms := ["hr", "human resources", "employee", "hiring", "turnover",
         "satisfaction"] },
     { code := .events
       synonyms := ["events", "conferences", "meetups", "attendees", "signups"] },
     { code := .compliance
       synonyms := ["compliance", "security", "vulnerabilities", "training", "audit"] }]
  dateRanges :=
    [quarterRule .q4 "4" ["q4", "fourth quarter"] "Q4 of the current year",
     quarterRule .q1 "1" ["q1", "first quarter"] "Q1 of the current year",
     quarterRule .q2 "2" ["q2", "second quarter"] "Q2 of the current year",
     quarterRule .q3 "3" ["q3", "third quarter"] "Q3 of the current year",
     { kind := .lastMonth
       phrases := ["last month"]
       predicate := "m.metric_date >= DATE_TRUNC('month', CURRENT_DATE - INTERVAL '1 month')" ++
         " AND m.metric_date < DATE_TRUNC('month', CURRENT_DATE)"
       label := .text "last month" },
     { kind := .thisMonth
       phrases := ["this month"]
       predicate := "m.metric_date >= DATE_TRUNC('month', CURRENT_DATE)"
       label := .text "this month" },
     { kind := .thisYear
       phrases := ["this year"]
       predicate := "EXTRACT(YEAR FROM m.metric_date) = EXTRACT(YEAR FROM CURRENT_DATE)"
       label := .text "this year" }]
  aggregations :=
    [{ kind := .sum
       keywords := ["total", "sum"]
       function := .sum
       column := "m.metric_value"
       output := "aggregated_value"
       label := .text "calculate the total of" },
     { kind := .avg
       keywords := ["average", "avg"]
       function := .avg
       column := "m.metric_value"
       output := "aggregated_value"
       label := .text "calculate the average of" },
     { kind := .count
       keywords := ["count", "number of"]
       function := .count
       column := "m.metric_value"
       output := "aggregated_value"
       label := .text "count the records of" },
     { kind := .growth
       keywords := ["growth", "trend"]
       function := .avg
       column := "m.monthly_change_percent"
       output := "growth_rate"
       label := .text "calculate the average month-over-month growth of" }]
  metrics :=
    [metricRule "pipeline" ["total_pipeline", "channel_partner_pipeline"],
     metricRule "revenue" ["actual_arr", "potential_arr"],
     metricRule "cash" ["cash_available", "cash_burn_rate"],
     metricRule "runway" ["runway_remaining"],
     metricRule "satisfaction" ["employee_satisfaction"],
     metricRule "turnover" ["employee_turnover_rate"],
     metricRule "new hires" ["new_hires"],
     metricRule "followers" ["twitter_followers"],
     metricRule "stars" ["github_stars"],
     metricRule "attendees" ["total_attendees"],
     metricRule "vulnerabilities" ["open_vulnerabilities", "vulnerabilities_identified"]]
  comparisons :=
    [{ kind := .top, keywords := ["top", "best", "highest"], direction := .descending },
     { kind := .bottom, keywords := ["bottom", "worst", "lowest"], direction := .ascending }]
  limits :=
    { patterns :=
        [{ source := "top\\s+([0-9]+)", pattern := wordBeforeNumber "top" },
         { source := "first\\s+([0-9]+)", pattern := wordBeforeNumber "first" },
         { source := "([0-9]+)\\s+(?:top|best|worst)"
           pattern := numberBeforeWord ["top", "best", "worst"] }]
      defaultRanked := 10
      maximum := 1000 }

/-- The bundled limit patterns are what their sources spell. -/
theorem parse_bundled_sources :
    bundled.limits.patterns.map (fun rule => (Pattern.parse rule.source).toOption) =
      bundled.limits.patterns.map (fun rule => some rule.pattern) := by
  decide

end Inquiry.Vocabulary
