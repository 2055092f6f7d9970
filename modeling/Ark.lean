import Ark.Json
import Ark.Api
import Ark.Prioritize
import Ark.Engine
import Ark.Triple
import Ark.Item
import Ark.ItemSpec
import Ark.Restore
import Ark.RestoreSpec
import Ark.Validation
import Ark.Provisioning
import Ark.Archive
import Ark.Extraction
import Ark.RoundTrip
import Ark.Actions
import Ark.Volumes
import Ark.VolumeFate
import Ark.Confinement
import Ark.Controller
import Ark.SnapshotLocations
import Ark.ControllerSpec
import Ark.Replicas
import Ark.Conflicts
import Ark.WriterStack
import Ark.WriterRuns
import Ark.Created
import Ark.Watches
import Ark.Progress
