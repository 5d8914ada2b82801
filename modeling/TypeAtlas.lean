import TypeAtlas.Archive.Pack
import TypeAtlas.Graph.Dependency
import TypeAtlas.Graph.ReverseIndex
import TypeAtlas.Import.Basic
import TypeAtlas.Proofs.Assembly.RoundTrip
import TypeAtlas.Proofs.Graph.Completeness
import TypeAtlas.Proofs.Graph.OrderIndependence
import TypeAtlas.Proofs.ClassFile.Delimited
import TypeAtlas.Proofs.Graph.Nearest
import TypeAtlas.Proofs.Graph.Contents
import TypeAtlas.Proofs.Graph.Ownership
import TypeAtlas.Proofs.Graph.WellFormed
import TypeAtlas.Proofs.Graph.Portrait
import TypeAtlas.Proofs.Graph.Descent
import TypeAtlas.Proofs.Graph.Evidence
import TypeAtlas.Proofs.Graph.Locality
import TypeAtlas.Proofs.Import.ReadingOrder
import TypeAtlas.Proofs.Import.EntryUrls
import TypeAtlas.Proofs.Graph.RootedChains
import TypeAtlas.Proofs.Graph.SharedNames
import TypeAtlas.Proofs.ClassFile.Unplaced
import TypeAtlas.Proofs.ClassFile.Anchored
import TypeAtlas.Proofs.ClassFile.Located
import TypeAtlas.Proofs.ClassFile.InstructionSet
import TypeAtlas.Proofs.ClassFile.ScanExact
import TypeAtlas.Proofs.ClassFile.WordScan
import TypeAtlas.Proofs.Graph.Landings
import TypeAtlas.Proofs.Graph.Dependents
import TypeAtlas.Proofs.Graph.FirstRecords
import TypeAtlas.Proofs.Graph.ReservedNames
import TypeAtlas.Proofs.Descriptor.NamedTypes
import TypeAtlas.Proofs.Descriptor.Slices
import TypeAtlas.Proofs.Text.Groups
import TypeAtlas.Proofs.Assembly.PoolRequests
import TypeAtlas.Proofs.Graph.Overloads
import TypeAtlas.Proofs.ClassFile.AttributeOrder
import TypeAtlas.Proofs.ClassFile.LineAttribution
import TypeAtlas.Proofs.Graph.AnnotationTrees
import TypeAtlas.Proofs.Graph.StubKinds
import TypeAtlas.Proofs.Graph.ArrayElements
import TypeAtlas.Proofs.Graph.CircularChains
import TypeAtlas.Proofs.ClassFile.PoolLayout
