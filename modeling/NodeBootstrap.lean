import NodeBootstrap.Command.Options
import NodeBootstrap.Command.Program
import NodeBootstrap.Config.Agent
import NodeBootstrap.Config.Memory
import NodeBootstrap.Config.Pipeline
import NodeBootstrap.Config.Property
import NodeBootstrap.Config.RackDescriptor
import NodeBootstrap.Config.SeedSection
import NodeBootstrap.Environment
import NodeBootstrap.Fault
import NodeBootstrap.Journal
import NodeBootstrap.Json.Basic
import NodeBootstrap.Json.Reader
import NodeBootstrap.Main
import NodeBootstrap.Number.Binary64
import NodeBootstrap.Number.Decimal
import NodeBootstrap.Number.Numeral
import NodeBootstrap.Number.Shortest
import NodeBootstrap.Seeds.Address
import NodeBootstrap.Seeds.Client
import NodeBootstrap.Seeds.Discovery
import NodeBootstrap.Seeds.Network
import NodeBootstrap.Seeds.Parameters
import NodeBootstrap.Seeds.Plan
import NodeBootstrap.Seeds.Topology
import NodeBootstrap.Session
import NodeBootstrap.Text.Base64
import NodeBootstrap.Text.Blank
import NodeBootstrap.Text.Digit
import NodeBootstrap.Text.Lines
import NodeBootstrap.Text.Printable
import NodeBootstrap.Text.Quoted
import NodeBootstrap.Text.Split
import NodeBootstrap.Tree.Basic
import NodeBootstrap.Tree.LineFile
import NodeBootstrap.Tree.Path
import NodeBootstrap.Value.Basic
import NodeBootstrap.Value.Calendar
import NodeBootstrap.Value.Text
import NodeBootstrap.Yaml.Character
import NodeBootstrap.Yaml.Document
import NodeBootstrap.Yaml.Flow
import NodeBootstrap.Yaml.Graph
import NodeBootstrap.Yaml.ScalarValue
import NodeBootstrap.Yaml.Style
import NodeBootstrap.Yaml.Tag
import NodeBootstrap.Yaml.Token.Basic
import NodeBootstrap.Yaml.Token.BlockScalar
import NodeBootstrap.Yaml.Token.Mark
import NodeBootstrap.Yaml.Token.Plain
import NodeBootstrap.Yaml.Token.Quoted
import NodeBootstrap.Yaml.Token.Scanner
import NodeBootstrap.Proofs.Command.Program
import NodeBootstrap.Proofs.Command.Search
import NodeBootstrap.Proofs.Config.Agents
import NodeBootstrap.Proofs.Config.Assignment
import NodeBootstrap.Proofs.Config.Atomicity
import NodeBootstrap.Proofs.Config.Course
import NodeBootstrap.Proofs.Config.Database
import NodeBootstrap.Proofs.Config.Edit
import NodeBootstrap.Proofs.Config.Faults
import NodeBootstrap.Proofs.Config.Frame
import NodeBootstrap.Proofs.Config.Memory
import NodeBootstrap.Proofs.Config.Options
import NodeBootstrap.Proofs.Config.Passage
import NodeBootstrap.Proofs.Config.Property
import NodeBootstrap.Proofs.Config.RackDescriptor
import NodeBootstrap.Proofs.Config.Readiness
import NodeBootstrap.Proofs.Config.Recovery
import NodeBootstrap.Proofs.Config.Repetition
import NodeBootstrap.Proofs.Config.Replacement
import NodeBootstrap.Proofs.Config.Script
import NodeBootstrap.Proofs.Config.SeedBlock
import NodeBootstrap.Proofs.Config.SeedLayout
import NodeBootstrap.Proofs.Config.SeedParameters
import NodeBootstrap.Proofs.Config.SeedSection
import NodeBootstrap.Proofs.Config.SeedTokens
import NodeBootstrap.Proofs.Config.Staging
import NodeBootstrap.Proofs.Json.Reader
import NodeBootstrap.Proofs.Result
import NodeBootstrap.Proofs.Seeds.Discovery
import NodeBootstrap.Proofs.Seeds.Domain
import NodeBootstrap.Proofs.Seeds.Network
import NodeBootstrap.Proofs.Seeds.Parameters
import NodeBootstrap.Proofs.Seeds.Plan
import NodeBootstrap.Proofs.Seeds.Refusal
import NodeBootstrap.Proofs.Seeds.Resource
import NodeBootstrap.Proofs.Seeds.Topology
import NodeBootstrap.Proofs.Session.Action
import NodeBootstrap.Proofs.Session.Addition
import NodeBootstrap.Proofs.Session.Inquiry
import NodeBootstrap.Proofs.Session.Revision
import NodeBootstrap.Proofs.Text.Lines
import NodeBootstrap.Proofs.Text.Split
import NodeBootstrap.Proofs.Text.Wanted
import NodeBootstrap.Proofs.Tree.Content
import NodeBootstrap.Proofs.Tree.Path
import NodeBootstrap.Proofs.Tree.Site
import NodeBootstrap.Proofs.Tree.Writing
import NodeBootstrap.Proofs.Yaml.Composer
import NodeBootstrap.Proofs.Yaml.Document
import NodeBootstrap.Proofs.Yaml.Flow
import NodeBootstrap.Proofs.Yaml.Plain
import NodeBootstrap.Proofs.Yaml.Quoted
import NodeBootstrap.Proofs.Yaml.Scanner
