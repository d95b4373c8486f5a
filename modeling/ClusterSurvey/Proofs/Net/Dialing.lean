import ClusterSurvey.Proofs.Net.Address
import ClusterSurvey.Proofs.Net.Advertised
import ClusterSurvey.Result.Route

/-!
# The host that is dialed

An advertised address is read twice.  The run takes its host out of it, for which it has a certificate
issued; workers paste it into the address of a resource as it is and dial the host that is read there.  The
two agree for names that do not end like a number, for short addresses, and for long ones in brackets.  A
long address without brackets has a certificate, but no resource can be addressed at it.
-/

namespace ClusterSurvey.Net

variable {cs host port literal front back : List Char} {address : String} {gs os : List Nat}

/-! ### Cutting an authority into parts -/

end ClusterSurvey.Net
