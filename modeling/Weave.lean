import Weave.Main
import Weave.Script
import Weave.Proofs.Gathering
import Weave.Proofs.Rendering
import Weave.Proofs.CollectionRuns
import Weave.Proofs.Journal
import Weave.Proofs.OncePerKey
import Weave.Proofs.Asking
import Weave.Proofs.Transparency
import Weave.Proofs.Requests
import Weave.Proofs.Replay
import Weave.Proofs.Checking
import Weave.Proofs.Footprint
import Weave.Proofs.Processing
import Weave.Proofs.PageName
import Weave.Proofs.Feeding
import Weave.Proofs.Rereading
import Weave.Proofs.CacheDirectory
import Weave.Proofs.Repeating
import Weave.Proofs.Noninterference
import Weave.Proofs.ProseEdits
import Weave.Proofs.Crossing
import Weave.Proofs.Independence
import Weave.Proofs.Entries
import Weave.Proofs.Unseen
import Weave.Proofs.ReadOnly
import Weave.Proofs.Directives
import Weave.Proofs.OpeningLines
import Weave.Proofs.Terminators
import Weave.Proofs.Interleaving
import Weave.Proofs.SharedDirectory
import Weave.Proofs.Fragments
import Weave.Proofs.AtomicStore
import Weave.Proofs.LineNumbers
import Weave.Proofs.Counting
import Weave.Proofs.Framing
import Weave.Proofs.Streams
import Weave.Proofs.Settings
import Weave.Proofs.WholeLines
import Weave.Proofs.KeyNames
