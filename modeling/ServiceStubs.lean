import ServiceStubs.Codec
import ServiceStubs.CommandLine
import ServiceStubs.Component
import ServiceStubs.Config
import ServiceStubs.Descriptor
import ServiceStubs.Disk
import ServiceStubs.Document
import ServiceStubs.Event
import ServiceStubs.Flattened
import ServiceStubs.Generate
import ServiceStubs.Host
import ServiceStubs.Import
import ServiceStubs.Json
import ServiceStubs.Main
import ServiceStubs.Manifest
import ServiceStubs.Output
import ServiceStubs.Package
import ServiceStubs.Proofs.AbsoluteImports
import ServiceStubs.Proofs.Attribution
import ServiceStubs.Proofs.BoundNames
import ServiceStubs.Proofs.Changes
import ServiceStubs.Proofs.ClassText
import ServiceStubs.Proofs.Definitions
import ServiceStubs.Proofs.DiskTree
import ServiceStubs.Proofs.Exports
import ServiceStubs.Proofs.FlattenTurns
import ServiceStubs.Proofs.Flattened
import ServiceStubs.Proofs.Folders
import ServiceStubs.Proofs.Footprint
import ServiceStubs.Proofs.Generate
import ServiceStubs.Proofs.ImportSet
import ServiceStubs.Proofs.Imports
import ServiceStubs.Proofs.InStep
import ServiceStubs.Proofs.Insertions
import ServiceStubs.Proofs.Interleaving
import ServiceStubs.Proofs.Keeping
import ServiceStubs.Proofs.Lines
import ServiceStubs.Proofs.ManifestReading
import ServiceStubs.Proofs.ModulePath
import ServiceStubs.Proofs.Places
import ServiceStubs.Proofs.Reading
import ServiceStubs.Proofs.Rearrangement
import ServiceStubs.Proofs.RecordViews
import ServiceStubs.Proofs.Registry
import ServiceStubs.Proofs.Render
import ServiceStubs.Proofs.RootOrder
import ServiceStubs.Proofs.Roots
import ServiceStubs.Proofs.SameOutput
import ServiceStubs.Proofs.SelfReference
import ServiceStubs.Proofs.Signature
import ServiceStubs.Proofs.Sorted
import ServiceStubs.Proofs.Spelling
import ServiceStubs.Proofs.Symbols
import ServiceStubs.Proofs.Turns
import ServiceStubs.Proofs.TypeExpr
import ServiceStubs.Proofs.TypeOrder
import ServiceStubs.Proofs.Undisturbed
import ServiceStubs.Proofs.VersionCheck
import ServiceStubs.Proofs.WalkTurns
import ServiceStubs.Proofs.WireNames
import ServiceStubs.Proofs.Worklist
import ServiceStubs.Proofs.Write
import ServiceStubs.Registry
import ServiceStubs.Sorted
import ServiceStubs.Stub
import ServiceStubs.Text
import ServiceStubs.Text.Printable
import ServiceStubs.Toml
import ServiceStubs.TypeExpr
import ServiceStubs.Yaml.Token
import ServiceStubs.Yaml.Tree
