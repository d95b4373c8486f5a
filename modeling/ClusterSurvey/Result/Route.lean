/-!
# Where results are sent

Every result has an address below a versioned prefix: results of the whole cluster under their type,
results of a node under the node and their type.

Specification: section 10.6, versioned routes.
-/

namespace ClusterSurvey.Route

/-- The root of the interface. -/
def root : String := "/api/v1"

/-- The version of the interface. -/
def version : String := "v1"

/-- The path below which results of the whole cluster are sent. -/
def forCluster : String := root ++ "/results/global"

/-- The path below which results of nodes are sent. -/
def byNode : String := root ++ "/results/by-node"

/-- The path at which the run's status is shown. -/
def status : String := root ++ "/status"

/-- The pattern of addresses of results of the whole cluster. -/
def forClusterItem : String := forCluster ++ "/\x7bresult_type\x7d"

/-- The pattern of addresses of results of a node. -/
def byNodeItem : String := byNode ++ "/\x7bnode\x7d/\x7bresult_type\x7d"

/-- The header that carries a result's media type. -/
def mediaTypeHeader : String := "content-type"

/-- The media type of a result for which none is named. -/
def defaultMediaType : String := "application/octet-stream"

/-- The address below which a host takes results of the whole cluster. -/
def forClusterUrl (host : String) : String := "https://" ++ host ++ forCluster

/-- The address below which a host takes results of nodes. -/
def byNodeUrl (host : String) : String := "https://" ++ host ++ byNode

end ClusterSurvey.Route
