import SceneConfig.Main
import SceneConfig.Proofs.Document.Diagnosis
import SceneConfig.Proofs.Document.Schema
import SceneConfig.Proofs.Document.Range
import SceneConfig.Store.Memory
import SceneConfig.Proofs.Document.Agreement
import SceneConfig.Proofs.Document.TwoRuns
import SceneConfig.Proofs.Document.Alike
import SceneConfig.Proofs.Document.Irrelevant
import SceneConfig.Proofs.Document.Concatenation
import SceneConfig.Proofs.Document.EventTrace
import SceneConfig.Proofs.Document.Spelling
import SceneConfig.Proofs.Store.OneFile
import SceneConfig.Proofs.Toml.Braces
import SceneConfig.Proofs.Tool.Runs
import SceneConfig.Proofs.Tool.Secrets
import SceneConfig.Proofs.Tool.Views
import SceneConfig.Proofs.Tool.Sources
import SceneConfig.Proofs.Json.Grammar
import SceneConfig.Proofs.Json.Reading
import SceneConfig.Proofs.Json.Pretty
import SceneConfig.Proofs.Model.ReadBack
import SceneConfig.Proofs.Tool.Levels
import SceneConfig.Proofs.Store.PathSpelling
import SceneConfig.Proofs.Store.LastWrite
import SceneConfig.Proofs.Document.Edits
import SceneConfig.Proofs.Document.Deletion
import SceneConfig.Proofs.Document.CheckOrder
import SceneConfig.Proofs.Document.Repair
import SceneConfig.Proofs.Model.GroupAccess
import SceneConfig.Proofs.Model.Subscriptions
import SceneConfig.Proofs.Model.DeviceLookup
import SceneConfig.Proofs.Json.Strictness
import SceneConfig.Proofs.Store.Stages
import SceneConfig.Proofs.Model.Multimap
import SceneConfig.Proofs.Model.SummaryLines
import SceneConfig.Proofs.Model.SummaryInjective
