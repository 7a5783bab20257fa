import Hpcore.Util
import Hpcore.Conf.Types
import Hpcore.Conf.Json
import Hpcore.Conf.Config
import Hpcore.Conf.Updates
import Hpcore.Conf.RoundTrip
import Hpcore.Conf.PatchRuns
import Hpcore.Msg.Wire
import Hpcore.Msg.Conversion
import Hpcore.Msg.RoundTrip
import Hpcore.Msg.Trust
import Hpcore.LogSync.Context
import Hpcore.LogSync.MinRecord
import Hpcore.LogSync.Worker
import Hpcore.LogSync.System
import Hpcore.Sync.Completion
import Hpcore.Ledger.Engine
import Hpcore.Ledger.Sqlite
import Hpcore.Ledger.Text
import Hpcore.Ledger.Store
import Hpcore.Ledger.Shard
import Hpcore.Ledger.Raw
