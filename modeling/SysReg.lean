import SysReg.Encoding.Notation
import SysReg.Word
import SysReg.Register.BitRange
import SysReg.Register.Enumeration
import SysReg.Register.Category
import SysReg.Register.Definition
import SysReg.Decoding
import SysReg.Catalog.AppleSilicon
import SysReg.Time.Text
import SysReg.Snapshot.Document
import SysReg.Comparison
import SysReg.Exploration.Box
import SysReg.Exploration.Sweep
import SysReg.Exploration.Behavior
import SysReg.Exploration.Inference
import SysReg.Text.Column
import SysReg.Text.Lower
import SysReg.Report.Register
import SysReg.Access.Debugger
import SysReg.Access.Table
import SysReg.Report.Dump
import SysReg.Report.Exploration
import SysReg.Main
import SysReg.Text.Hidden
import SysReg.Text.Quoted
import SysReg.FileTree
import SysReg.Rehearsal
import SysReg.Proofs.Text.Numeral
import SysReg.Proofs.Word
import SysReg.Proofs.Text.Lines
import SysReg.Proofs.Encoding.Notation
import SysReg.Proofs.Time.Text
import SysReg.Proofs.Json.Token
import SysReg.Proofs.Json.Source
import SysReg.Proofs.Result
import SysReg.Proofs.Snapshot.Basic
import SysReg.Proofs.Snapshot.Document
import SysReg.Proofs.Catalog.Integrity
import SysReg.Proofs.Decoding
import SysReg.Proofs.Access.Debugger
import SysReg.Proofs.Access.Table
import SysReg.Proofs.Comparison
import SysReg.Proofs.Session.Dump
import SysReg.Proofs.Session.Replay
import SysReg.Proofs.Comparison.Accounting
import SysReg.Proofs.Encoding.Spelling
import SysReg.Proofs.Encoding.Recognition
import SysReg.Proofs.Access.Trace
import SysReg.Proofs.Session.Calls
import SysReg.Proofs.Snapshot.Parts
import SysReg.Proofs.Snapshot.Loading
import SysReg.Proofs.Snapshot.Loadable
import SysReg.Proofs.Catalog.Resolution
import SysReg.Proofs.Access.Replay
import SysReg.Proofs.Catalog.Lookup
import SysReg.Proofs.Comparison.Symmetry
import SysReg.Proofs.Exploration.Box
import SysReg.Proofs.Exploration.Sweep
import SysReg.Proofs.Session.Operation
import SysReg.Proofs.Session.History
import SysReg.Proofs.Decoding.Change
import SysReg.Proofs.Decoding.Refusal
import SysReg.Proofs.Exploration.Extent
import SysReg.Proofs.Word.Spelling
import SysReg.Proofs.Session.Interruption
import SysReg.Proofs.Catalog.Reference
import SysReg.Proofs.Encoding.Fault
import SysReg.Proofs.Encoding.Packed
import SysReg.Proofs.Comparison.Layout
import SysReg.Proofs.Exploration.Candidate
import SysReg.Proofs.Exploration.Behavior
import SysReg.Proofs.Comparison.Identity
import SysReg.Proofs.Text.Digits
import SysReg.Proofs.Word.Typed
import SysReg.Proofs.Catalog.Breach
import SysReg.Proofs.Catalog.Rearrangement
import SysReg.Proofs.Exploration.Reconstruction
import SysReg.Proofs.Session.Agreement
import SysReg.Proofs.Access.Output
import SysReg.Proofs.Session.Lifecycle
import SysReg.Proofs.Decoding.Arithmetic
import SysReg.Proofs.Json.Grammar
import SysReg.Proofs.Json.Reading
import SysReg.Proofs.Snapshot.Rewording
import SysReg.Proofs.Decoding.Signed
import SysReg.Proofs.Catalog.Listing
import SysReg.Proofs.Text.Lower
import SysReg.Proofs.Catalog.Search
