import Scll.TlvRoundTrip
import Scll.LockStep03
import Scll.LockStep02
import Scll.Handles
import Scll.Delivery
import Scll.Binding
import Scll.SessionState
import Scll.FailClosed
import Scll.Manager
import Scll.PageSplit
import Scll.InventoryLoss
import Scll.ChunkSize
import Scll.LoadAll
import Scll.ShortCases
import Scll.MutualAuth
import Scll.Negotiation
import Scll.SlotLeak
import Scll.Handshake
import Scll.JcSimInStep
import Scll.LateChecks
import Scll.ValidPrefix
import Scll.CardStatusLaw
import Scll.IsdOnce
import Scll.EmittedTlv
import Scll.Cap.Metadata
import Scll.Cap.Draining
import Scll.Cap.Archive
import Scll.Cap.Streamed
import Scll.Cap.Usize
import Scll.Cap.UsizeParse
import Scll.Cap.UsizeStream
import Scll.TlvGrammar
import Scll.KeyInformationLaw
import Scll.Cap.LfdbHeader
import Scll.Cap.InflateRing
import Scll.IcvUnique
import Scll.InstallRoundTrip
import Scll.NoDowngrade
import Scll.ChannelRoom
import Scll.SetStatusLaw
import Scll.PutKeyPayload
import Scll.KeyRotation
import Scll.SessionIsolation
import Scll.Wiretap
import Scll.ContentRuns
import Scll.LifeRuns
