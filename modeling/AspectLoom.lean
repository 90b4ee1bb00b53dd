import AspectLoom.Aspect.Spec
import AspectLoom.Assoc
import AspectLoom.CommandLine.Arguments
import AspectLoom.CommandLine.Reply
import AspectLoom.Data.Json
import AspectLoom.Data.JsonValue
import AspectLoom.Data.Record
import AspectLoom.Data.Toml
import AspectLoom.Data.Value
import AspectLoom.Data.Yaml.Document
import AspectLoom.Data.Yaml.Scalar
import AspectLoom.Data.Yaml.Token
import AspectLoom.Diagnostic
import AspectLoom.FileTree.Basic
import AspectLoom.FileTree.Change
import AspectLoom.FileTree.Snapshot
import AspectLoom.Hash.Blake3
import AspectLoom.Hash.Content
import AspectLoom.Hash.Hex
import AspectLoom.JoinPoint
import AspectLoom.Main
import AspectLoom.Overlay.AdviceUnit
import AspectLoom.Overlay.Layout
import AspectLoom.Overlay.Reconciliation
import AspectLoom.Overlay.Written
import AspectLoom.Path
import AspectLoom.Pointcut
import AspectLoom.Program.Declaration
import AspectLoom.Program.GoType
import AspectLoom.Program.Import
import AspectLoom.Program.Layout
import AspectLoom.Program.LoadError
import AspectLoom.Program.ModuleFile
import AspectLoom.Program.PackageCache
import AspectLoom.Program.PackageIndex
import AspectLoom.Program.References
import AspectLoom.Program.Symbols
import AspectLoom.Program.TargetPackage
import AspectLoom.Program.TypeContext
import AspectLoom.Program.TypeMention
import AspectLoom.Program.Unit
import AspectLoom.Proofs.Actions
import AspectLoom.Proofs.AnchoredPatterns
import AspectLoom.Proofs.BoundNames
import AspectLoom.Proofs.ClearPairs
import AspectLoom.Proofs.ClearReads
import AspectLoom.Proofs.ClosedPatterns
import AspectLoom.Proofs.DeclaredNames
import AspectLoom.Proofs.EnteredDirectories
import AspectLoom.Proofs.Entries
import AspectLoom.Proofs.ExpressionMatches
import AspectLoom.Proofs.FileOrders
import AspectLoom.Proofs.Findings
import AspectLoom.Proofs.FirstWrites
import AspectLoom.Proofs.FollowedRuns
import AspectLoom.Proofs.GoCode
import AspectLoom.Proofs.GoRuns
import AspectLoom.Proofs.GoverningPointcuts
import AspectLoom.Proofs.HeldTypes
import AspectLoom.Proofs.HiddenNames
import AspectLoom.Proofs.IndexedDeclarations
import AspectLoom.Proofs.IssuedNames
import AspectLoom.Proofs.KeptAliases
import AspectLoom.Proofs.LaidTrees
import AspectLoom.Proofs.LeftPairs
import AspectLoom.Proofs.LinkedUnits
import AspectLoom.Proofs.LoadedPackages
import AspectLoom.Proofs.LoadedUnits
import AspectLoom.Proofs.LocalTypes
import AspectLoom.Proofs.LoneUnits
import AspectLoom.Proofs.Lookups
import AspectLoom.Proofs.MethodExpressions
import AspectLoom.Proofs.NameRuns
import AspectLoom.Proofs.NamedSplits
import AspectLoom.Proofs.NeededNames
import AspectLoom.Proofs.NestedOverlays
import AspectLoom.Proofs.NestedSites
import AspectLoom.Proofs.NumberedDeclarations
import AspectLoom.Proofs.OverlayBounds
import AspectLoom.Proofs.OverlayGround
import AspectLoom.Proofs.OverlaySteps
import AspectLoom.Proofs.OverlayWrites
import AspectLoom.Proofs.OwnDirectories
import AspectLoom.Proofs.PackageFindings
import AspectLoom.Proofs.PackageOrigins
import AspectLoom.Proofs.PastLinks
import AspectLoom.Proofs.PathSegments
import AspectLoom.Proofs.ProxyCalls
import AspectLoom.Proofs.ProxyPairs
import AspectLoom.Proofs.ProxyRuns
import AspectLoom.Proofs.QualifiedIndexes
import AspectLoom.Proofs.ReconcileAgain
import AspectLoom.Proofs.ReconcileSteps
import AspectLoom.Proofs.ReconcileTraces
import AspectLoom.Proofs.ReconcileTurns
import AspectLoom.Proofs.ReconciledOverlays
import AspectLoom.Proofs.RecordedFunctions
import AspectLoom.Proofs.RecordedPlaces
import AspectLoom.Proofs.RecordedSites
import AspectLoom.Proofs.Replacements
import AspectLoom.Proofs.ReservedNames
import AspectLoom.Proofs.RootSpellings
import AspectLoom.Proofs.RootWays
import AspectLoom.Proofs.ScopeRules
import AspectLoom.Proofs.ScopeStacks
import AspectLoom.Proofs.ScopedPlaces
import AspectLoom.Proofs.ScopedUses
import AspectLoom.Proofs.Selection
import AspectLoom.Proofs.SettledOverlays
import AspectLoom.Proofs.SharedPackages
import AspectLoom.Proofs.SharedWalks
import AspectLoom.Proofs.SiteContents
import AspectLoom.Proofs.SourcePaths
import AspectLoom.Proofs.SourceReads
import AspectLoom.Proofs.SourceViews
import AspectLoom.Proofs.SpelledPlaces
import AspectLoom.Proofs.SpelledTypes
import AspectLoom.Proofs.SuitedUses
import AspectLoom.Proofs.TargetSpellings
import AspectLoom.Proofs.TextLines
import AspectLoom.Proofs.TextPlaces
import AspectLoom.Proofs.TreeChanges
import AspectLoom.Proofs.TreeWalks
import AspectLoom.Proofs.TypeForms
import AspectLoom.Proofs.TypeLayouts
import AspectLoom.Proofs.UnwovenForms
import AspectLoom.Proofs.WalkFindings
import AspectLoom.Proofs.WalkOrigins
import AspectLoom.Proofs.WalkSteps
import AspectLoom.Proofs.Ways
import AspectLoom.Proofs.WeaveAgain
import AspectLoom.Proofs.WeaveFaults
import AspectLoom.Proofs.WeaveFiles
import AspectLoom.Proofs.WeaveHistories
import AspectLoom.Proofs.WeaveSteps
import AspectLoom.Proofs.WovenImports
import AspectLoom.Proofs.WovenRuns
import AspectLoom.Proofs.WovenText
import AspectLoom.Proofs.WrittenAgain
import AspectLoom.Proofs.WrittenFiles
import AspectLoom.Proofs.WrittenQualifiers
import AspectLoom.Proxy.ImportScope
import AspectLoom.Proxy.Imports
import AspectLoom.Proxy.Names
import AspectLoom.Proxy.Pair
import AspectLoom.Proxy.Signature
import AspectLoom.Proxy.Statement
import AspectLoom.Regex.CharClass
import AspectLoom.Regex.Expr
import AspectLoom.Regex.Pattern
import AspectLoom.Sort
import AspectLoom.Syntax.Grammar.Basic
import AspectLoom.Syntax.Grammar.Expressions
import AspectLoom.Syntax.Grammar.File
import AspectLoom.Syntax.Grammar.Statements
import AspectLoom.Syntax.Grammar.Types
import AspectLoom.Syntax.Node
import AspectLoom.Syntax.Token
import AspectLoom.Text.Quoted
import AspectLoom.Text.Span
import AspectLoom.Unicode.Category
import AspectLoom.Unicode.Class
import AspectLoom.Unicode.Folding
import AspectLoom.Unicode.Property
import AspectLoom.Unicode.Runs
import AspectLoom.Unicode.Script
import AspectLoom.Weave.Config
import AspectLoom.Weave.Outcome
import AspectLoom.Weave.WovenUnit
