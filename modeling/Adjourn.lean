import Adjourn.Cbor
import Adjourn.OrderedMap
import Adjourn.TopK
import Adjourn.Types
import Adjourn.Sample
import Adjourn.State
import Adjourn.Eviction
import Adjourn.NormalForm
import Adjourn.Convergence
import Adjourn.Isolation
import Adjourn.Wire
import Adjourn.Contract
import Adjourn.Sync
import Adjourn.Stepping
import Adjourn.Project
import Adjourn.DoubleSign
import Adjourn.Chain
import Adjourn.Forfeit
import Adjourn.Takeback
import Adjourn.Draws
import Adjourn.InSync
import Adjourn.IdlePlayer
import Adjourn.Agreement
import Adjourn.DrawClaim
import Adjourn.NextMove
import Adjourn.StateSize
import Adjourn.Batches
import Adjourn.Watermark
import Adjourn.DelegatePolicy
import Adjourn.Secrets
import Adjourn.Delegate
import Adjourn.Grants
import Adjourn.Signing
import Adjourn.Binding
import Adjourn.Origins
import Adjourn.Bookkeeping
import Adjourn.Session
import Adjourn.Watch
import Adjourn.Mirror
import Adjourn.Transport
import Adjourn.Correlation
import Adjourn.Migration
import Adjourn.Resignation
import Adjourn.Unvetted
import Adjourn.Validation
import Adjourn.RecordCount
import Adjourn.Replay
import Adjourn.ChainShape
import Adjourn.BoardResult
import Adjourn.Refusals
import Adjourn.AcceptDraw
import Adjourn.Invites
import Adjourn.Distribution
import Adjourn.Domains
import Adjourn.Canonical
import Adjourn.StructMap
import Adjourn.Persisted
import Adjourn.Quality
import Adjourn.PlyCap
import Adjourn.Skew
import Adjourn.StaleReplica
import Adjourn.Board
import Adjourn.Provenance
import Adjourn.Seating
import Adjourn.Network
import Adjourn.Flows
import Adjourn.Retention
import Adjourn.Finality
import Adjourn.Acknowledged
import Adjourn.Resending
import Adjourn.Conn
import Adjourn.Signals
