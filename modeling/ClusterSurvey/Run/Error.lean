import ClusterSurvey.Collection.Delivery
import ClusterSurvey.Credential.Error
import ClusterSurvey.Plugin.Instance
import ClusterSurvey.Time.Duration

/-!
# Errors of a run

Specification: section 7, and `RunError` in section 10.3.
-/

namespace ClusterSurvey

/-- Why a run failed. -/
inductive RunError where
  /-- The cluster's nodes could not be listed. -/
  | cluster (source : ClusterError)
  /-- An identity could not be issued. -/
  | certificate (source : CertificateError)
  /-- A plugin's workload did not come into being. -/
  | dispatch (plugin : String) (source : DispatchError)
  /-- The service ended before the run did. -/
  | service (reason : String)
  /-- The results did not come in time. -/
  | timeout (after : Duration)
  /-- The run cannot start with its settings. -/
  | settings (reason : String)
  /-- The run could not wait for its results. -/
  | collect (source : CollectError)
  deriving DecidableEq, Repr

/-- The wording of a run's error. -/
def RunError.message : RunError → String
  | cluster source => "failed to list cluster nodes: " ++ source.message
  | certificate source => "certificate authority failure: " ++ source.message
  | dispatch plugin source => "failed to dispatch plugin " ++ plugin ++ ": " ++ source.message
  | service reason => "aggregation server failed: " ++ reason
  | timeout d => "timed out after " ++ d.text ++ " waiting for results"
  | settings reason => "invalid run configuration: " ++ reason
  | collect source => source.message

end ClusterSurvey
