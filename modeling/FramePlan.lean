import FramePlan.Engine.InMemory
import FramePlan.Engine.Scripted
import FramePlan.Engine.Session
import FramePlan.Frame.Source
import FramePlan.Proofs.Engine.Balance
import FramePlan.Proofs.Engine.Client
import FramePlan.Proofs.Engine.Custody
import FramePlan.Proofs.Engine.InMemory
import FramePlan.Proofs.Engine.Lifetime
import FramePlan.Proofs.Engine.Recording
import FramePlan.Proofs.Engine.Release
import FramePlan.Proofs.Engine.Reports
import FramePlan.Proofs.Engine.Settled
import FramePlan.Proofs.Engine.Slot
import FramePlan.Proofs.Engine.Transparency
import FramePlan.Proofs.Eval.Accounts
import FramePlan.Proofs.Eval.Arithmetic
import FramePlan.Proofs.Eval.Casting
import FramePlan.Proofs.Eval.Coalescing
import FramePlan.Proofs.Eval.ColumnRules
import FramePlan.Proofs.Eval.CountedTables
import FramePlan.Proofs.Eval.Counting
import FramePlan.Proofs.Eval.Counts
import FramePlan.Proofs.Eval.Extremes
import FramePlan.Proofs.Eval.Fading
import FramePlan.Proofs.Eval.Filtering
import FramePlan.Proofs.Eval.Gathering
import FramePlan.Proofs.Eval.Grouping
import FramePlan.Proofs.Eval.Heads
import FramePlan.Proofs.Eval.Naming
import FramePlan.Proofs.Eval.NestedLoop
import FramePlan.Proofs.Eval.Normal
import FramePlan.Proofs.Eval.Offsets
import FramePlan.Proofs.Eval.Operators
import FramePlan.Proofs.Eval.Order
import FramePlan.Proofs.Eval.Partition
import FramePlan.Proofs.Eval.RowSelection
import FramePlan.Proofs.Eval.Scattering
import FramePlan.Proofs.Eval.Schema
import FramePlan.Proofs.Eval.SeriesTyping
import FramePlan.Proofs.Eval.Slices
import FramePlan.Proofs.Eval.Sorting
import FramePlan.Proofs.Eval.Soundness
import FramePlan.Proofs.Eval.Stacking
import FramePlan.Proofs.Eval.Sums
import FramePlan.Proofs.Eval.TableTyping
import FramePlan.Proofs.Eval.Trace
import FramePlan.Proofs.Eval.Updating
import FramePlan.Proofs.Eval.WindowedGroups
import FramePlan.Proofs.Eval.Windowing
import FramePlan.Proofs.Expr.Nodes
import FramePlan.Proofs.Frame.History
import FramePlan.Proofs.Frame.Ingestion
import FramePlan.Proofs.Frame.JsonShapes
import FramePlan.Proofs.Frame.Reachable
import FramePlan.Proofs.Frame.Records
import FramePlan.Proofs.Frame.Serving
import FramePlan.Proofs.Integer.Division
import FramePlan.Proofs.Integer.Sum
import FramePlan.Proofs.Outcome
import FramePlan.Proofs.Plan.Within
import FramePlan.Proofs.Sql.AggregateCalls
import FramePlan.Proofs.Sql.ColumnRules
import FramePlan.Proofs.Sql.Counting
import FramePlan.Proofs.Sql.Fragments
import FramePlan.Proofs.Sql.GroupedStatement
import FramePlan.Proofs.Sql.Grouping
import FramePlan.Proofs.Sql.Having
import FramePlan.Proofs.Sql.Operands
import FramePlan.Proofs.Sql.PlainHeight
import FramePlan.Proofs.Sql.ThreeValued
import FramePlan.Proofs.Sql.Typing
import FramePlan.Proofs.Table.Box
import FramePlan.Proofs.Table.Delimited
import FramePlan.Proofs.Table.Inference
import FramePlan.Proofs.Table.Typing
import FramePlan.Proofs.Text.Utf8
import FramePlan.Proofs.Value.Widening
import FramePlan.Proofs.Wire.Acceptance
import FramePlan.Proofs.Wire.Canonical
import FramePlan.Proofs.Wire.Grammar
import FramePlan.Proofs.Wire.NormalForm
import FramePlan.Proofs.Wire.Ownership
import FramePlan.Proofs.Wire.Reading
import FramePlan.Proofs.Wire.RoundTrip
import FramePlan.Proofs.Wire.Within
import FramePlan.Value.Host
