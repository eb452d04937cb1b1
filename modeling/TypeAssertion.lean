import TypeAssertion.Behaviour
import TypeAssertion.CommandLine
import TypeAssertion.Main
import TypeAssertion.Matcher
import TypeAssertion.Property
import TypeAssertion.Shield
import TypeAssertion.Slot
import TypeAssertion.Proofs.Descriptor.Grammar
import TypeAssertion.Proofs.Descriptor.Layers
import TypeAssertion.Proofs.Number.Magnitude
import TypeAssertion.Proofs.Number.Rounding
import TypeAssertion.Proofs.Number.Integer
import TypeAssertion.Proofs.Json.WellFormed
import TypeAssertion.Proofs.Registry
import TypeAssertion.Proofs.Workshop.Deed
import TypeAssertion.Proofs.Workshop.Sound
import TypeAssertion.Proofs.Descriptor.Interchange
import TypeAssertion.Proofs.Value.Parts
import TypeAssertion.Proofs.Value.Erasure
import TypeAssertion.Proofs.Value.RoundTrip
import TypeAssertion.Proofs.Value.Canonical
import TypeAssertion.Proofs.Value.Indistinguishable
import TypeAssertion.Proofs.Shield.Call
import TypeAssertion.Proofs.Shield.Stack
import TypeAssertion.Proofs.Record.Write
import TypeAssertion.Proofs.Record.Construct
import TypeAssertion.Proofs.Record.Schema
import TypeAssertion.Proofs.Record.History
import TypeAssertion.Proofs.Record.Attempts
import TypeAssertion.Proofs.Record.Nominal
import TypeAssertion.Proofs.Record.RoundTrip
import TypeAssertion.Proofs.CommandLine.BuildRecord
import TypeAssertion.Proofs.Session.Question
import TypeAssertion.Proofs.Session.Routine
import TypeAssertion.Proofs.Session.World
import TypeAssertion.Proofs.Session.Agreement
import TypeAssertion.Proofs.Session.Run
import TypeAssertion.Proofs.Check.Verdict
import TypeAssertion.Proofs.Enforcement.Code
import TypeAssertion.Proofs.Enforcement.Path
import TypeAssertion.Proofs.Enforcement.Stack
import TypeAssertion.Proofs.Enforcement.Log
import TypeAssertion.Proofs.Descriptor.Display
import TypeAssertion.Proofs.Slot
import TypeAssertion.Proofs.Class.Chain
import TypeAssertion.Proofs.Class.Forest
import TypeAssertion.Proofs.Configuration
import TypeAssertion.Proofs.CommandLine.RunCheck
import TypeAssertion.Proofs.CommandLine.Literal
import TypeAssertion.Proofs.Descriptor.Peeling
import TypeAssertion.Proofs.Record.Contract
import TypeAssertion.Proofs.Value.PartialEquivalence
import TypeAssertion.Proofs.Descriptor.Described
import TypeAssertion.Proofs.Record.Specification
import TypeAssertion.Proofs.Shield.Arity
import TypeAssertion.Proofs.Shield.Contract
import TypeAssertion.Proofs.Property
import TypeAssertion.Proofs.Record.Snapshot
import TypeAssertion.Proofs.Text.Cut
import TypeAssertion.Proofs.Descriptor.Offsets
