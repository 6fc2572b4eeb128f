import UseCase.Main
import UseCase.Plan
import UseCase.Recorder
import UseCase.Sample
import UseCase.Proofs.FaultPrefix
import UseCase.Proofs.Teardown
import UseCase.Proofs.Session
import UseCase.Proofs.Resolution
import UseCase.Proofs.Dispatch
import UseCase.Proofs.VerbChange
import UseCase.Proofs.Switching
import UseCase.Proofs.Exclusion
import UseCase.Proofs.Chronicle
import UseCase.Proofs.ValueQuery
import UseCase.Proofs.Atomicity
import UseCase.Proofs.ListedAnchor
import UseCase.Proofs.Views
import UseCase.Proofs.Nesting
import UseCase.Proofs.Scoping
import UseCase.Proofs.ExactLookup
import UseCase.Proofs.ListedVerb
import UseCase.Proofs.Boot
import UseCase.Proofs.Persistence
import UseCase.Proofs.Defaults
import UseCase.Proofs.ActivationOrder
import UseCase.Proofs.Repetition
import UseCase.Proofs.Reversal
import UseCase.Proofs.DormantVerb
import UseCase.Proofs.Provider
import UseCase.Proofs.NamedVerb
import UseCase.Proofs.Addressing
import UseCase.Proofs.CardLayout
import UseCase.Proofs.Paths
import UseCase.Proofs.Ways
import UseCase.Proofs.Catalog
import UseCase.Proofs.Stems
import UseCase.Proofs.Confinement
import UseCase.Proofs.FirstDefect
import UseCase.Proofs.Additions
import UseCase.Proofs.ListingOrder
import UseCase.Proofs.Neighbours
import UseCase.Proofs.Command
import UseCase.Proofs.ListingScope
import UseCase.Proofs.CardName
import UseCase.Proofs.Batch
import UseCase.Proofs.QuotedLine
import UseCase.Proofs.FirstFailure
import UseCase.Proofs.Arbitration
import UseCase.Proofs.IndexNumber
