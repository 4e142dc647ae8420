import QubesIdd.Proofs.ReplugQueue
import QubesIdd.Proofs.Resolution
import QubesIdd.Proofs.SurfaceReferences
import QubesIdd.Proofs.ResdFollow
import QubesIdd.Proofs.AdapterCaps
import QubesIdd.Proofs.ModeEnumeration
import QubesIdd.Proofs.Assignment
import QubesIdd.Proofs.DriverRuns
import QubesIdd.Proofs.ResolutionInterleaving
import QubesIdd.Proofs.CachedDevice
import QubesIdd.Proofs.ExactMode
import QubesIdd.Proofs.TimingLayout
import QubesIdd.Proofs.ModeGrammar
import QubesIdd.Proofs.ModeAssembly
import QubesIdd.Proofs.ModeRanges
import QubesIdd.Proofs.Debounce
import QubesIdd.Proofs.ResdTruncation
import QubesIdd.Proofs.FrameProcessing
import QubesIdd.Proofs.BufferAccounting
import QubesIdd.Proofs.ModeRepeats
import QubesIdd.Proofs.ResdOverflow
import QubesIdd.Proofs.ResdReplay
import QubesIdd.Proofs.DaemonSettles
import QubesIdd.Proofs.LossReduction
import QubesIdd.Proofs.LogRotation
import QubesIdd.Proofs.Lifetime
import QubesIdd.Proofs.ReplugHandshake
import QubesIdd.Proofs.CallbackReturns
import QubesIdd.Proofs.GraphicsDevice
import QubesIdd.Proofs.EdidReader
import QubesIdd.Proofs.SampleMonitor
import QubesIdd.Proofs.LogCalls
import QubesIdd.Proofs.Pool
import QubesIdd.Proofs.Contexts
import QubesIdd.Proofs.SetRes
import QubesIdd.Proofs.RenderAdapter
