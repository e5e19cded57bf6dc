import Ngh2.Lib.Amortized
import Ngh2.Lib.Effect
import Ngh2.Lib.Run
import Ngh2.Lib.Fifo
import Ngh2.Lib.FinmapTotal
import Ngh2.Lib.Handles
import Ngh2.Lib.Interleavings
import Ngh2.Lib.Joint
import Ngh2.Lib.Letters
import Ngh2.Lib.Relates
import Ngh2.Lib.Wrapping
import Ngh2.Errors
import Ngh2.Machine
import Ngh2.Hygiene
import Ngh2.DeferredResets
import Ngh2.QueueCounters
import Ngh2.Failure
import Ngh2.OutputStream
import Ngh2.FrameSizing
import Ngh2.HeaderBlocks
import Ngh2.Wakeups
import Ngh2.Rejections
import Ngh2.Defences
import Ngh2.BodyFidelity
import Ngh2.TakenFrames
import Ngh2.ExactTypes
import Ngh2.ChunkQueue
import Ngh2.IntegerArguments
import Ngh2.StagingBuffer
import Ngh2.Closing
import Ngh2.Construction
import Ngh2.Initialization
import Ngh2.InboundData
import Ngh2.ReceiveCredit
import Ngh2.Reassembly
import Ngh2.MessageOrder
import Ngh2.LiveSession
import Ngh2.Draining
import Ngh2.Observers
import Ngh2.BodyCuts
import Ngh2.StreamCalls
import Ngh2.InputCuts
import Ngh2.EndToEnd
import Ngh2.ChunkCosts
import Ngh2.StagingCosts
