import GraphQuery.Main
import GraphQuery.Proofs.Engine.AdvancedSearch
import GraphQuery.Proofs.Engine.LastWriter
import GraphQuery.Proofs.Engine.Namespaces
import GraphQuery.Proofs.Engine.SharedSearches
import GraphQuery.Proofs.Engine.StoredSets
import GraphQuery.Proofs.Files.SavedGraph
import GraphQuery.Proofs.Filter.Intersection
import GraphQuery.Proofs.Filter.Portable
import GraphQuery.Proofs.Graph.Neighborhood
import GraphQuery.Proofs.Graph.ShortestPath
import GraphQuery.Store.Connection
import GraphQuery.Proofs.Filter.OneByOne
import GraphQuery.Proofs.Engine.Evaluators
import GraphQuery.Proofs.Filter.Action
import GraphQuery.Proofs.Engine.ActionLog
import GraphQuery.Proofs.Engine.Binding
import GraphQuery.Proofs.Engine.Containers
import GraphQuery.Proofs.Engine.Reading
import GraphQuery.Proofs.Filter.FixedPoint
import GraphQuery.Proofs.Filter.Monotone
import GraphQuery.Proofs.Filter.Cascade
import GraphQuery.Proofs.Engine.SubstringHits
import GraphQuery.Proofs.Engine.IgnoringCase
import GraphQuery.Proofs.Search.RecentQueries
import GraphQuery.Proofs.Filter.PayloadFormat
import GraphQuery.Proofs.Search.Suggestions
import GraphQuery.Proofs.Engine.QuickAnswers
import GraphQuery.Proofs.Number.RoundingError
import GraphQuery.Proofs.Search.BoundedCache
import GraphQuery.Proofs.Graph.SearchDepth
import GraphQuery.Proofs.Graph.EdgeTables
import GraphQuery.Proofs.Filter.TextOperators
import GraphQuery.Proofs.Value.JsonEquality
import GraphQuery.Proofs.Criteria.OperatorLaws
import GraphQuery.Proofs.Files.FailedSave
import GraphQuery.Proofs.CommandLine.PrintedIds
import GraphQuery.Proofs.Store.Adapters
import GraphQuery.Proofs.Files.Confinement
