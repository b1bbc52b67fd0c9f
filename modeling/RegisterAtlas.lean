import RegisterAtlas.Text.Blank
import RegisterAtlas.Text.Case
import RegisterAtlas.Text.Quoted
import RegisterAtlas.Numeral
import RegisterAtlas.Bits.Spec
import RegisterAtlas.Query.Like
import RegisterAtlas.Query.Filter
import RegisterAtlas.Xml.Tree
import RegisterAtlas.Device.Read
import RegisterAtlas.Generate.Naming
import RegisterAtlas.Disk.Path
import RegisterAtlas.Store.Row
import RegisterAtlas.Error
import RegisterAtlas.Disk.Tree
import RegisterAtlas.Disk.System
import RegisterAtlas.Disk.Writer
import RegisterAtlas.Log
import RegisterAtlas.Json.Value
import RegisterAtlas.Json.Float
import RegisterAtlas.Json.Stream
import RegisterAtlas.Store.Codec
import RegisterAtlas.Store.Basic
import RegisterAtlas.Store.File
import RegisterAtlas.Ingest
import RegisterAtlas.Query.Resolve
import RegisterAtlas.Query.Family
import RegisterAtlas.Report
import RegisterAtlas.Generate.Emit
import RegisterAtlas.Bench
import RegisterAtlas.Command.Similar
import RegisterAtlas.Command.Grammar
import RegisterAtlas.Command.Wrap
import RegisterAtlas.Command.Help
import RegisterAtlas.Command.Failure
import RegisterAtlas.Command.Parse
import RegisterAtlas.Lookup
import RegisterAtlas.Main
import RegisterAtlas.Proofs.Store.Insert
import RegisterAtlas.Proofs.Json.Reading
import RegisterAtlas.Proofs.Json.Object
import RegisterAtlas.Proofs.Store.Entry
import RegisterAtlas.Proofs.Disk.Resolve
import RegisterAtlas.Proofs.Disk.Writer
import RegisterAtlas.Proofs.Store.Backing
import RegisterAtlas.Proofs.Store.Convert
import RegisterAtlas.Proofs.Query.Owner
import RegisterAtlas.Proofs.Ingest.Links
import RegisterAtlas.Proofs.Store.Search
import RegisterAtlas.Proofs.Store.Reachable
import RegisterAtlas.Proofs.Store.Index
import RegisterAtlas.Proofs.Store.Ids
import RegisterAtlas.Proofs.Store.Names
import RegisterAtlas.Proofs.Numeral
import RegisterAtlas.Proofs.Sorting
import RegisterAtlas.Proofs.Generate.Layout
import RegisterAtlas.Proofs.Ingest.Contents
import RegisterAtlas.Proofs.Query.Like
import RegisterAtlas.Proofs.Query.Document
import RegisterAtlas.Proofs.Query.Chain
import RegisterAtlas.Proofs.Ingest.Prefix
import RegisterAtlas.Proofs.Bits.Normalize
import RegisterAtlas.Proofs.Query.Family
import RegisterAtlas.Proofs.Device.Walk
import RegisterAtlas.Proofs.Ingest.Log
import RegisterAtlas.Proofs.Bits.Mask
import RegisterAtlas.Proofs.Report.Dump
import RegisterAtlas.Proofs.Query.Filter
