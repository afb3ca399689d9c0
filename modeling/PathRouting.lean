import PathRouting.Main
import PathRouting.Proofs.CachedDispatch
import PathRouting.Proofs.ConfiguredRouters
import PathRouting.Proofs.ContainedPatterns
import PathRouting.Proofs.FrozenTable
import PathRouting.Proofs.KeptTables
import PathRouting.Proofs.LogDispatch
import PathRouting.Proofs.RegistrationFrame
import PathRouting.Proofs.SnapshotText
import PathRouting.Proofs.GroupStems
import PathRouting.Proofs.TableGauges
import PathRouting.Proofs.IndependentCalls
import PathRouting.Proofs.BracketGrammar
import PathRouting.Proofs.OptionalExpansions
import PathRouting.Proofs.FlatConfiguration
import PathRouting.Proofs.RegexCoverage
import PathRouting.Proofs.RegexCrossings
import PathRouting.Proofs.RegexLanguage
import PathRouting.Proofs.FragmentReading
import PathRouting.Proofs.PathBuilding
import PathRouting.Proofs.RebuiltMatchers
import PathRouting.Proofs.RouteTokens
import PathRouting.Proofs.RenderedRoutes
import PathRouting.Proofs.UsableAliases
import PathRouting.Proofs.ExpansionKeys
import PathRouting.Proofs.InsertionHistory
import PathRouting.Proofs.ReportedProblems
import PathRouting.Proofs.CacheLooks
import PathRouting.Proofs.EmptyTemplates
import PathRouting.Proofs.PlaceholderOffsets
