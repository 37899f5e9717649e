import Normous.Exec.Triple
import Normous.WriteOps.Batch
import Normous.WriteOps.InsertLoop
import Normous.WriteOps.InsertSafety
import Normous.WriteOps.UpdateRemove
import Normous.WriteOps.ExecuteBatch
import Normous.WriteOps.ItemLoops
import Normous.Pipeline.Redact
import Normous.Catalog.DropDatabase
import Normous.Catalog.ClusterDropDatabase
import Normous.Record.Slice
import Normous.Record.Rolling
import Normous.Record.SimpleCache
import Normous.Record.Tracking
import Normous.Index.KeyGenerator
import Normous.Query.DateTime
import Normous.Query.TimeZoneDatabase
import Normous.Ops.Count
import Normous.Index.TwoD
