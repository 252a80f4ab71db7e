import RouteInventory.Text.Number
import RouteInventory.Text.Runs
import RouteInventory.Text.Word
import RouteInventory.Text.Lowercase
import RouteInventory.Data.Json
import RouteInventory.Path
import RouteInventory.Syntax.Kind
import RouteInventory.Syntax.Tree
import RouteInventory.Syntax.Cursor
import RouteInventory.Syntax.Literal
import RouteInventory.Syntax.Scope
import RouteInventory.Syntax.Decorator
import RouteInventory.Grammar.Source
import RouteInventory.Grammar.Rule
import RouteInventory.Grammar.Types
import RouteInventory.Grammar.Patterns
import RouteInventory.Grammar.Expressions
import RouteInventory.Grammar.Markup
import RouteInventory.Grammar.Statements
import RouteInventory.Grammar.Program
import RouteInventory.Facts
import RouteInventory.Shape.Basic
import RouteInventory.Endpoint
import RouteInventory.Project
import RouteInventory.Shape.Resolve
import RouteInventory.Shape.Infer
import RouteInventory.Shape.Render
import RouteInventory.RoutePath
import RouteInventory.Config.Basic
import RouteInventory.Fastify.Registration
import RouteInventory.Fastify.HookAuth
import RouteInventory.Fastify.Responses
import RouteInventory.Fastify.Routes
import RouteInventory.Fastify.Walk
import RouteInventory.Text.Hidden
import RouteInventory.Text.Quoted
import RouteInventory.Config.Document
import RouteInventory.Config.Layers
import RouteInventory.Config.Error
import RouteInventory.Handler
import RouteInventory.Nest.Modules
import RouteInventory.Nest.Guards
import RouteInventory.Nest.GuardAuth
import RouteInventory.Nest.Controller
import RouteInventory.Text.Category
import RouteInventory.Pattern.CharSet
import RouteInventory.Pattern.Regex
import RouteInventory.Pattern.RegexReader
import RouteInventory.Pattern.Glob
import RouteInventory.Config.Validate
import RouteInventory.Nest.GuardPatterns
import RouteInventory.Extract.Error
import RouteInventory.Data.Yaml.Scalar
import RouteInventory.Data.Yaml.Token
import RouteInventory.Data.Yaml.Node
import RouteInventory.Data.Yaml.Value
import RouteInventory.Disk
import RouteInventory.Config.Load
import RouteInventory.Extract.Detect
import RouteInventory.Extract.Index
import RouteInventory.Data.Yaml.Printer
import RouteInventory.Extract.Groups
import RouteInventory.Nest.Endpoints
import RouteInventory.Extract.Run
import RouteInventory.Report
import RouteInventory.Summary
import RouteInventory.Command.Arguments
import RouteInventory.Command.Run
import RouteInventory.Disk.Change
import RouteInventory.Instant
import RouteInventory.Command.Help
import RouteInventory.Main
import RouteInventory.Proofs.GuardAnswers
import RouteInventory.Proofs.ModuleClosure
import RouteInventory.Proofs.RegistrationChains
import RouteInventory.Proofs.RuleLogic
import RouteInventory.Proofs.GrammarShape
import RouteInventory.Proofs.ParsedShape
import RouteInventory.Proofs.CursorDescent
import RouteInventory.Proofs.PluginScopes
import RouteInventory.Proofs.TyperMemory
import RouteInventory.Proofs.ControllerReadings
import RouteInventory.Proofs.DocumentOrder
import RouteInventory.Proofs.EntrySpelling
import RouteInventory.Proofs.LayerPrecedence
import RouteInventory.Proofs.ClassIndex
import RouteInventory.Proofs.ReportAssembly
import RouteInventory.Proofs.ShapeExpansion
import RouteInventory.Proofs.ParameterNames
import RouteInventory.Proofs.DocumentKeys
import RouteInventory.Proofs.Scanning
import RouteInventory.Proofs.LayoutLogic
import RouteInventory.Proofs.GrammarLayout
import RouteInventory.Proofs.ParsedLayout
import RouteInventory.Proofs.GuardDetection
import RouteInventory.Proofs.HiddenMembers
import RouteInventory.Proofs.ArrayAlternatives
import RouteInventory.Proofs.DecoratorRuns
import RouteInventory.Proofs.LastMembers
import RouteInventory.Proofs.ShapeFormation
import RouteInventory.Proofs.CanonicalUnions
import RouteInventory.Proofs.MemberNames
import RouteInventory.Proofs.HookDetection
import RouteInventory.Proofs.HandlerBodies
import RouteInventory.Proofs.ResponseEntries
import RouteInventory.Proofs.NestedFunctions
import RouteInventory.Proofs.ReplyChains
import RouteInventory.Proofs.PathTexts
import RouteInventory.Proofs.ModuleSpecifiers
import RouteInventory.Proofs.StatusCodes
import RouteInventory.Proofs.Placeholders
import RouteInventory.Proofs.RouteLines
import RouteInventory.Proofs.DiskGrowth
import RouteInventory.Proofs.GuardAmbiguity
import RouteInventory.Proofs.PathResolution
import RouteInventory.Proofs.RelativePaths
import RouteInventory.Proofs.UnusableFiles
import RouteInventory.Proofs.MergeLaws
import RouteInventory.Proofs.PathJoining
import RouteInventory.Proofs.SavedConfigs
import RouteInventory.Proofs.UnionRegrouping
import RouteInventory.Proofs.DeclarationSearch
