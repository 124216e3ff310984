import PromRules.Rule.Bundle
import PromRules.Query.Function

/-!
The example rule bundles that `rulesmith example` renders: recordings and alerts for a typical
HTTP API.

The recordings bundle, evaluated every 30 seconds, records the per-job request rate, error rate
and 99th percentile latency. The alerts bundle fires on an error ratio above 5%, on slow
requests, and on traffic that has fallen below half of what it was a week earlier; the alerts
read the recorded series through the expressions their registration returned.
-/

namespace PromRules.Cli

open Query Rule

/-- The sum of the rates of a series, grouped: `sum(rate(series)) by(labels)`. -/
def summedRate (series : Expr) (labels : List String) : Except QueryError Expr := do
  let rate ← call "rate" [.expr series]
  let total ← call "sum" [.expr rate]
  total.byLabels labels

/-- The five-minute window of every rate. -/
def rateWindow : Duration := Duration.minute.scale 5

/-- The per-job rate of requests. -/
def requestRateRule : Except RuleError RecordingRule := liftQuery do
  let requests ← (← metric "http_requests_total").sliced rateWindow
  pure (.ofExpr (← summedRate requests ["job"]))

/-- The per-job rate of server errors. -/
def errorRateRule : Except RuleError RecordingRule := liftQuery do
  let errors ← (← (← metric "http_requests_total").withLabels [("code", "5xx")]).sliced rateWindow
  pure (.ofExpr (← summedRate errors ["job"]))

/-- The per-job 99th percentile of request durations. -/
def latencyQuantile : Except QueryError Expr := do
  let buckets ← (← metric "http_request_duration_seconds_bucket").sliced rateWindow
  call "histogram_quantile"
    [.number (Binary64.ofDecimal false 99 (-2)), .expr (← summedRate buckets ["job", "le"])]

/-- Pages when more than 5% of requests fail for ten minutes. -/
def highErrorRate (ratio : Expr) : Except RuleError AlertRule := liftQuery do
  let condition ← binop (.expr ratio) .gt (.number (Binary64.ofDecimal false 5 (-2)))
  pure { AlertRule.ofExpr condition with
    holdFor := some (Duration.minute.scale 10)
    labels := addLabel none "severity" "page"
    annotations := addLabel none "summary" "More than 5% of requests are failing" }

/-- Opens a ticket when the 99th percentile latency stays above 1.5 seconds. -/
def slowRequests (p99 : Expr) : Except RuleError AlertRule := liftQuery do
  let condition ← binop (.expr p99) .gt (.number (Binary64.ofDecimal false 15 (-1)))
  pure { AlertRule.ofExpr condition with
    holdFor := some (Duration.minute.scale 15)
    fireFor := some (Duration.minute.scale 5)
    labels := addLabel none "severity" "ticket" }

/-- Fires when a job's request rate falls below half of its rate a week earlier. -/
def trafficDrop (requestRate : Expr) : Except RuleError AlertRule := liftQuery do
  let lastWeek ← requestRate.offsetBy Duration.week
  let half ← binop (.expr lastWeek) .mul (.number (Binary64.ofDecimal false 5 (-1)))
  let condition ← (← binop (.expr requestRate) .lt (.expr half)).on ["job"]
  pure { AlertRule.ofExpr condition with holdFor := some (Duration.minute.scale 30) }

/-- The recordings bundle and the alerts bundle built on its series. -/
def exampleBundles : Except RuleError (List Bundle) := do
  let recordings := (Bundle.create "api_recordings").withInterval (Duration.second.scale 30)
  let ((requestRate, errorRate, p99), recordings) ← Bundle.build recordings do
    let requestRate ← Bundle.registerRecordingNamed "job:http_requests:rate5m" requestRateRule
    let errorRate ← Bundle.registerRecordingNamed "job:http_errors:rate5m" errorRateRule
    let latency ← MonadExcept.ofExcept (liftQuery latencyQuantile)
    let p99 ← Bundle.record latency "job:http_request_duration_seconds:p99"
    pure (requestRate, errorRate, p99)
  let ratio ← liftQuery (binop (.expr errorRate) .div (.expr requestRate))
  let ((), alerts) ← Bundle.build (Bundle.create "api_alerts") do
    discard <| Bundle.registerAlert "high_error_rate" (highErrorRate ratio)
    discard <| Bundle.registerAlert "slow_requests" (slowRequests p99)
    discard <| Bundle.registerAlert "traffic_drop" (trafficDrop requestRate)
  pure [recordings, alerts]

end PromRules.Cli
