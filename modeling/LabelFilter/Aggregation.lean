/-!
# Aggregations

The ways in which the query around a filter combines the samples of a metric. Two of them pass
every series through with the labels it has.

## Main definitions

* `Aggregation` — the aggregations
* `Aggregation.token`, `Aggregation.ofToken?` — their words
* `Aggregation.passesThrough` — whether series keep their labels
-/

namespace LabelFilter

/-- How the samples of a metric are combined. -/
inductive Aggregation where
  | noop
  | count
  | countDistinct
  | sum
  | avg
  | max
  | min
  | p05
  | p10
  | p20
  | p25
  | p50
  | p75
  | p90
  | p95
  | p99
  | rate
  | sumRate
  | avgRate
  | maxRate
  | minRate
  | histQuantile50
  | histQuantile75
  | histQuantile90
  | histQuantile95
  | histQuantile99
  deriving DecidableEq, Repr, Inhabited

namespace Aggregation

/-- Every aggregation, in the order in which their words are listed. -/
def all : List Aggregation :=
  [.noop, .count, .countDistinct, .sum, .avg, .max, .min, .p05, .p10, .p20, .p25, .p50, .p75,
   .p90, .p95, .p99, .rate, .sumRate, .avgRate, .maxRate, .minRate, .histQuantile50,
   .histQuantile75, .histQuantile90, .histQuantile95, .histQuantile99]

/-- The word that stands for an aggregation. -/
def token : Aggregation → String
  | .noop => "NOOP"
  | .count => "COUNT"
  | .countDistinct => "COUNT_DISTINCT"
  | .sum => "SUM"
  | .avg => "AVG"
  | .max => "MAX"
  | .min => "MIN"
  | .p05 => "P05"
  | .p10 => "P10"
  | .p20 => "P20"
  | .p25 => "P25"
  | .p50 => "P50"
  | .p75 => "P75"
  | .p90 => "P90"
  | .p95 => "P95"
  | .p99 => "P99"
  | .rate => "RATE"
  | .sumRate => "SUM_RATE"
  | .avgRate => "AVG_RATE"
  | .maxRate => "MAX_RATE"
  | .minRate => "MIN_RATE"
  | .histQuantile50 => "HIST_QUANTILE_50"
  | .histQuantile75 => "HIST_QUANTILE_75"
  | .histQuantile90 => "HIST_QUANTILE_90"
  | .histQuantile95 => "HIST_QUANTILE_95"
  | .histQuantile99 => "HIST_QUANTILE_99"

/-- The aggregation that a word stands for, in exactly this spelling. -/
def ofToken? (s : String) : Option Aggregation :=
  all.find? fun a => a.token == s

/-- Whether each series is passed through with the labels it has. -/
def passesThrough : Aggregation → Bool
  | .noop | .rate => true
  | _ => false

theorem mem_all (a : Aggregation) : a ∈ all := by
  cases a <;> decide

end Aggregation

end LabelFilter
