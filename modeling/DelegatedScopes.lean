import DelegatedScopes.Arithmetic
import DelegatedScopes.Client.Basic
import DelegatedScopes.Client.Document
import DelegatedScopes.Client.Snapshot
import DelegatedScopes.CommandLine.Arguments
import DelegatedScopes.CommandLine.Run
import DelegatedScopes.Config
import DelegatedScopes.Decimal.Shortest
import DelegatedScopes.Digraph
import DelegatedScopes.Instant
import DelegatedScopes.Instant.Calendar
import DelegatedScopes.Instant.Rfc3339
import DelegatedScopes.Json.Error
import DelegatedScopes.Json.Number
import DelegatedScopes.Json.Reader
import DelegatedScopes.Json.Record
import DelegatedScopes.Json.Scan
import DelegatedScopes.Json.Skip
import DelegatedScopes.Json.Value
import DelegatedScopes.Main
import DelegatedScopes.Proofs.Client.Document
import DelegatedScopes.Proofs.Client.Token
import DelegatedScopes.Proofs.CommandLine.Environment
import DelegatedScopes.Proofs.Digraph
import DelegatedScopes.Proofs.Digraph.Components
import DelegatedScopes.Proofs.Instant
import DelegatedScopes.Proofs.Instant.Calendar
import DelegatedScopes.Proofs.Instant.Rfc3339
import DelegatedScopes.Proofs.Json.Blind
import DelegatedScopes.Proofs.Json.Causal
import DelegatedScopes.Proofs.Json.Grammar
import DelegatedScopes.Proofs.Json.Readers
import DelegatedScopes.Proofs.Json.Regular
import DelegatedScopes.Proofs.Json.Roundtrip
import DelegatedScopes.Proofs.Json.Skipping
import DelegatedScopes.Proofs.Json.Spelling
import DelegatedScopes.Proofs.Resolver.Answer
import DelegatedScopes.Proofs.Resolver.Closure
import DelegatedScopes.Proofs.Resolver.Convergence
import DelegatedScopes.Proofs.Resolver.Cover
import DelegatedScopes.Proofs.Resolver.Definitions
import DelegatedScopes.Proofs.Resolver.Exact
import DelegatedScopes.Proofs.Resolver.Index
import DelegatedScopes.Proofs.Resolver.Limit
import DelegatedScopes.Proofs.Resolver.Lookup
import DelegatedScopes.Proofs.Resolver.Monotone
import DelegatedScopes.Proofs.Resolver.Run
import DelegatedScopes.Proofs.Role.Cycle
import DelegatedScopes.Proofs.Role.Cyclic
import DelegatedScopes.Proofs.Role.Effective
import DelegatedScopes.Proofs.Role.Graph
import DelegatedScopes.Proofs.Role.Halting
import DelegatedScopes.Proofs.Role.Loop
import DelegatedScopes.Proofs.Role.Restriction
import DelegatedScopes.Proofs.Role.Termination
import DelegatedScopes.Proofs.Role.Trail
import DelegatedScopes.Proofs.Scope.Canonical
import DelegatedScopes.Proofs.Scope.Grants
import DelegatedScopes.Proofs.Scope.Implication
import DelegatedScopes.Proofs.Scope.Inclusion
import DelegatedScopes.Proofs.Scope.Monotone
import DelegatedScopes.Proofs.Scope.NormalForm
import DelegatedScopes.Proofs.Scope.Overlap
import DelegatedScopes.Proofs.Scope.Substitution
import DelegatedScopes.Proofs.Scope.Template
import DelegatedScopes.Proofs.Service.Alike
import DelegatedScopes.Proofs.Service.Answer
import DelegatedScopes.Proofs.Service.Burst
import DelegatedScopes.Proofs.Service.Cache
import DelegatedScopes.Proofs.Service.Channel
import DelegatedScopes.Proofs.Service.Delivery
import DelegatedScopes.Proofs.Service.History
import DelegatedScopes.Proofs.Service.LastUse
import DelegatedScopes.Proofs.Service.Lifecycle
import DelegatedScopes.Proofs.Service.Lockstep
import DelegatedScopes.Proofs.Service.Once
import DelegatedScopes.Proofs.Service.Outcome
import DelegatedScopes.Proofs.Service.Publication
import DelegatedScopes.Proofs.Service.Queue
import DelegatedScopes.Proofs.Service.Reading
import DelegatedScopes.Proofs.Service.Rebuild
import DelegatedScopes.Proofs.Service.Run
import DelegatedScopes.Proofs.Service.Secrecy
import DelegatedScopes.Proofs.Service.Setup
import DelegatedScopes.Proofs.Service.Start
import DelegatedScopes.Proofs.Service.Step
import DelegatedScopes.Proofs.Service.Turn
import DelegatedScopes.Proofs.Service.Uses
import DelegatedScopes.Proofs.Service.Worker
import DelegatedScopes.Proofs.Store.Alike
import DelegatedScopes.Proofs.Store.Contents
import DelegatedScopes.Proofs.Store.Document
import DelegatedScopes.Proofs.Store.Keyed
import DelegatedScopes.Proofs.Store.Overflow
import DelegatedScopes.Proofs.Text
import DelegatedScopes.Resolver.Basic
import DelegatedScopes.Resolver.Error
import DelegatedScopes.Resolver.Expansion
import DelegatedScopes.Resolver.Index
import DelegatedScopes.Role.Basic
import DelegatedScopes.Role.Document
import DelegatedScopes.Role.Graph
import DelegatedScopes.Role.Snapshot
import DelegatedScopes.Role.Termination
import DelegatedScopes.Scope.Activation
import DelegatedScopes.Scope.NormalForm
import DelegatedScopes.Scope.Pattern
import DelegatedScopes.Scope.Template
import DelegatedScopes.Service.Basic
import DelegatedScopes.Service.Machine
import DelegatedScopes.Service.Query
import DelegatedScopes.Service.Rebuild
import DelegatedScopes.Service.Schedule
import DelegatedScopes.Service.Sources
import DelegatedScopes.Service.Stats
import DelegatedScopes.Store.Basic
import DelegatedScopes.Store.Channel
import DelegatedScopes.Store.Document
import DelegatedScopes.Text
import DelegatedScopes.Text.Hidden
import DelegatedScopes.Text.Quoted
