import EntityGen.Main
import EntityGen.Model.Writer
import EntityGen.Proofs.Fields.Classes
import EntityGen.Proofs.Model.Named
import EntityGen.Proofs.Fields.Collector
import EntityGen.Proofs.Fields.Merge
import EntityGen.Proofs.Fields.Selection
import EntityGen.Proofs.TypeScript.Import
import EntityGen.Proofs.Naming.SnakeCase
import EntityGen.Proofs.Text.Split
import EntityGen.Proofs.File.Path
import EntityGen.Proofs.Naming.Policy
import EntityGen.Proofs.Generation.Plan
import EntityGen.Proofs.TypeScript.PlainImport
import EntityGen.Proofs.Generation.ImportTarget
import EntityGen.Proofs.File.Access
import EntityGen.Proofs.Generation.Run
import EntityGen.Proofs.Generation.Group
import EntityGen.Proofs.Generation.GroupFolder
import EntityGen.Proofs.Markup.Attribute
import EntityGen.Proofs.Markup.Token
import EntityGen.Proofs.Model.Element
import EntityGen.Proofs.Model.Reader
import EntityGen.Proofs.Model.RoundTrip
import EntityGen.Proofs.Markup.Outline
import EntityGen.Proofs.Model.Document
import EntityGen.Proofs.File.Growth
import EntityGen.Proofs.Generation.Again
import EntityGen.Proofs.Generation.Together
import EntityGen.Proofs.Model.Files
import EntityGen.Proofs.Generation.Repeat
import EntityGen.Proofs.Fields.Order
import EntityGen.Proofs.Model.ReadClasses
import EntityGen.Proofs.Model.Escape
import EntityGen.Proofs.Model.Sound
import EntityGen.Proofs.Generation.Containment
import EntityGen.Proofs.Fields.Types
import EntityGen.Proofs.Fields.Parents
import EntityGen.Proofs.Generation.Outcome
import EntityGen.Proofs.TypeScript.Spelling
import EntityGen.Proofs.Generation.Spelling
import EntityGen.Proofs.Fields.Consistency
import EntityGen.Proofs.Fields.Widening
import EntityGen.Proofs.Generation.History
import EntityGen.Proofs.File.Components
import EntityGen.Proofs.Model.Listing
import EntityGen.Proofs.Model.Roots
import EntityGen.Proofs.Generation.ModuleFile
import EntityGen.Proofs.Model.Fault
import EntityGen.Proofs.Model.ReadFiles
import EntityGen.Proofs.File.Walk
import EntityGen.Proofs.File.Reordered
import EntityGen.Proofs.Model.Canonical
import EntityGen.Proofs.Model.Rewriting
import EntityGen.Proofs.Generation.Collision
import EntityGen.Proofs.Naming.UpperRun
import EntityGen.Proofs.Naming.BaseNamespace
import EntityGen.Proofs.Naming.CamelCase
import EntityGen.Proofs.Generation.CamelCase
import EntityGen.Proofs.Fields.Insertion
import EntityGen.Proofs.Model.AttributeOrder
