import LoopScope.Codec.Error
import LoopScope.Codec.Record
import LoopScope.Codec.Value
import LoopScope.Session.Step
import LoopScope.Proofs.Store.Contents
import LoopScope.Proofs.Store.Holds
import LoopScope.Proofs.Store.Relabel
import LoopScope.Proofs.Store.Numbers
import LoopScope.Proofs.Store.Guards
import LoopScope.Proofs.Store.Graph
import LoopScope.Proofs.Store.Collection
import LoopScope.Proofs.Codec
import LoopScope.Proofs.Copies
import LoopScope.Proofs.Fingerprint
import LoopScope.Proofs.Session.Sound
import LoopScope.Proofs.Session.Effect
import LoopScope.Proofs.Session.Operators
import LoopScope.Proofs.Session.Tables
import LoopScope.Proofs.Session.Invariant
import LoopScope.Proofs.Session.Copies
import LoopScope.Proofs.Session.Runs
import LoopScope.Proofs.Session.Loop
import LoopScope.Proofs.Session.Lineage
import LoopScope.Proofs.Session.Instances
import LoopScope.Proofs.Session.Failures
import LoopScope.Proofs.Session.Representation
import LoopScope.Proofs.Session.Log
import LoopScope.Proofs.Session.Unlogged
import LoopScope.Proofs.Session.Profiles
import LoopScope.Proofs.Session.Loans
import LoopScope.Proofs.Session.Holders
import LoopScope.Proofs.Session.Leaks
import LoopScope.Proofs.Session.Duplicates
import LoopScope.Proofs.Session.Interchange
import LoopScope.Proofs.Defects
import LoopScope.Proofs.Construction
import LoopScope.Proofs.Session.FailureClasses
import LoopScope.Proofs.Session.Unnumbered
import LoopScope.Proofs.Session.CopyPaths
import LoopScope.Proofs.Session.Refreshes
import LoopScope.Proofs.Session.CommutingRefreshes
import LoopScope.Proofs.Session.NamedAccess
import LoopScope.Proofs.Values
import LoopScope.Proofs.Session.Snapshots
import LoopScope.Proofs.Lines
import LoopScope.Proofs.Session.Undrained
import LoopScope.Proofs.Session.Lines
import LoopScope.Proofs.Session.SchemaTexts
import LoopScope.Proofs.Toml.Document
import LoopScope.Proofs.Toml.Lines
import LoopScope.Proofs.Config
import LoopScope.Proofs.Profile
import LoopScope.Proofs.Session.Accessors
