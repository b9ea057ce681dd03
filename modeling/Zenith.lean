import Zenith.Python
import Zenith.Store
import Zenith.Cluster
import Zenith.Prog
import Zenith.Reaches
import Zenith.Api
import Zenith.Retry
import Zenith.Mirror
import Zenith.Sshd
import Zenith.Oidc
import Zenith.Record
import Zenith.Reconcile
import Zenith.Authentication
import Zenith.Idempotence
import Zenith.Gather
import Zenith.Footprint
import Zenith.Sync
import Zenith.Safety
import Zenith.Removal
import Zenith.Components
