import Aether.Core.Text
import Aether.Core.Uuid
import Aether.Core.Types
import Aether.Core.Error
import Aether.Core.Domain
import Aether.Core.KeyMap
import Aether.Ledger.Block
import Aether.Ledger.Chain
import Aether.Ledger.TamperEvidence
import Aether.Ledger.Builder
import Aether.Ledger.Storage
import Aether.Ledger.Verify
import Aether.Session.History
import Aether.Session.Keys
import Aether.Session.Manager
import Aether.Session.Concurrent
import Aether.Policy.Rules
import Aether.Policy.Engine
import Aether.Budget.Tracker
import Aether.Budget.Limiter
import Aether.Budget.Concurrent
