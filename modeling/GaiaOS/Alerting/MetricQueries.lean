/-
The queries of `alerting/evaluator.py` that read the table `metrics`.

Only the queue wait looks at the kind of event a row is of; the others aggregate every row of
the window.  The queries over the other tables stay as they are given.
-/
import GaiaOS.Lib.Percentile
import GaiaOS.Metrics.Collector
import GaiaOS.Alerting.Evaluator

namespace GaiaOS

namespace Alerting

open Aggregate Metrics

section Window

variable (metrics : List MetricEventRow) (now : Int) (interval : Nat)

end Window

end Alerting

end GaiaOS
