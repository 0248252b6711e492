import ElmPrerender.Main
import ElmPrerender.Machine.Sandbox
import ElmPrerender.Run.Bench
import ElmPrerender.Proofs.Elm.StringLiteral
import ElmPrerender.Proofs.Configuration.Names
import ElmPrerender.Proofs.Configuration.Built
import ElmPrerender.Proofs.Elm.DriverReadBack
import ElmPrerender.Proofs.ConfigFile.RoundTrip
import ElmPrerender.Proofs.Run.AbortSafety
import ElmPrerender.Proofs.Run.Delivery
import ElmPrerender.Proofs.Run.OriginalManifest
import ElmPrerender.Proofs.Path.Order
import ElmPrerender.Proofs.Store.Rewriting
import ElmPrerender.Proofs.Store.Directories
import ElmPrerender.Proofs.Run.Inputs
import ElmPrerender.Proofs.Run.Rerun
import ElmPrerender.Proofs.Json.Typed
import ElmPrerender.Proofs.ConfigFile.Form
import ElmPrerender.Proofs.Run.Acts
import ElmPrerender.Proofs.Run.Steady
import ElmPrerender.Proofs.Run.Dropping
import ElmPrerender.Proofs.Run.Undisturbed
import ElmPrerender.Proofs.Settings.Layers
import ElmPrerender.Proofs.Settings.Merging
import ElmPrerender.Proofs.Settings.Precedence
import ElmPrerender.Proofs.Settings.PathVariables
import ElmPrerender.Proofs.ConfigFile.WrittenSources
import ElmPrerender.Proofs.Run.StageMachine
import ElmPrerender.Proofs.Run.AbortCauses
import ElmPrerender.Proofs.Run.Interruption
import ElmPrerender.Proofs.Manifest.RoundTrip
import ElmPrerender.Proofs.Configuration.Header
import ElmPrerender.Proofs.Run.SingleFile
import ElmPrerender.Proofs.ProjectName.Spellings
import ElmPrerender.Proofs.Batch.Printing
import ElmPrerender.Proofs.Run.Housing
import ElmPrerender.Proofs.Store.History
import ElmPrerender.Proofs.Configuration.Attempts
