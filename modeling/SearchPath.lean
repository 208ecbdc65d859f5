import SearchPath.Container.Any
import SearchPath.Container.Archive
import SearchPath.Container.Directory
import SearchPath.Container.Memory
import SearchPath.Home
import SearchPath.JavaHome
import SearchPath.Policy.Basic
import SearchPath.Proofs.Archive.TailFile
import SearchPath.Proofs.Container.Archive
import SearchPath.Proofs.Container.Directory
import SearchPath.Proofs.Container.Image
import SearchPath.Proofs.Container.Reading
import SearchPath.Proofs.Container.Stream
import SearchPath.Proofs.FileTree
import SearchPath.Proofs.JavaHome
import SearchPath.Proofs.Json.Grammar
import SearchPath.Proofs.Json.Reading
import SearchPath.Proofs.Json.Scalar
import SearchPath.Proofs.Json.Writing
import SearchPath.Proofs.Module
import SearchPath.Proofs.Path.Composition
import SearchPath.Proofs.Path.Cuts
import SearchPath.Proofs.Path.Entry
import SearchPath.Proofs.Path.FileUrl
import SearchPath.Proofs.Path.FixedPoint
import SearchPath.Proofs.Path.Inside
import SearchPath.Proofs.Path.List
import SearchPath.Proofs.Path.Marks
import SearchPath.Proofs.Path.Nested
import SearchPath.Proofs.Path.Normal
import SearchPath.Proofs.Path.Segments
import SearchPath.Proofs.Path.Slices
import SearchPath.Proofs.Policy.Acceptance
import SearchPath.Proofs.Policy.Classes
import SearchPath.Proofs.Policy.Glob
import SearchPath.Proofs.Policy.Rules
import SearchPath.Proofs.Policy.Segments
import SearchPath.Proofs.Policy.Unordered
import SearchPath.Proofs.Pool.Balance
import SearchPath.Proofs.Pool.Map
import SearchPath.Proofs.Pool.Spare
import SearchPath.Proofs.ResourceUrl
import SearchPath.Proofs.Root.Absorb
import SearchPath.Proofs.Root.Expansion
import SearchPath.Proofs.Root.Nesting
import SearchPath.Proofs.Root.Order
import SearchPath.Proofs.Scan.Judgement
import SearchPath.Proofs.Scan.Lookup
import SearchPath.Proofs.Session.Accounts
import SearchPath.Proofs.Session.Beside
import SearchPath.Proofs.Session.Creation
import SearchPath.Proofs.Session.Failure
import SearchPath.Proofs.Session.Holders
import SearchPath.Proofs.Session.Identity
import SearchPath.Proofs.Session.Independence
import SearchPath.Proofs.Session.Ledger
import SearchPath.Proofs.Session.Lifecycle
import SearchPath.Proofs.Session.Modules
import SearchPath.Proofs.Session.Moves
import SearchPath.Proofs.Session.Openings
import SearchPath.Proofs.Session.Run
import SearchPath.Proofs.Session.Scans
import SearchPath.Proofs.Settings
import SearchPath.Proofs.Table
import SearchPath.Proofs.Text.Boundary
import SearchPath.Proofs.Text.First
import SearchPath.Proofs.Text.Letter
import SearchPath.Proofs.Text.Order
import SearchPath.Proofs.Text.Pieces
import SearchPath.Proofs.Text.Utf8
import SearchPath.Proofs.Url.Behind
import SearchPath.Proofs.Url.Escaped
import SearchPath.Proofs.Url.Extension
import SearchPath.Proofs.Url.File
import SearchPath.Proofs.Url.Scheme
import SearchPath.Root.Discovery
import SearchPath.Scanner
import SearchPath.Session
import SearchPath.Settings
