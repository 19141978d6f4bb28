import ScopedBuilder.Emitter.BlockWriter
import ScopedBuilder.Builder.Action
import ScopedBuilder.Builder.Scoped
import ScopedBuilder.Config.Reader
import ScopedBuilder.Config.Writer
import ScopedBuilder.Session
import ScopedBuilder.Proofs.FunctionScope
import ScopedBuilder.Proofs.Program.Module
import ScopedBuilder.Proofs.Client
import ScopedBuilder.Proofs.Containment
import ScopedBuilder.Proofs.StackShape
import ScopedBuilder.Proofs.Handles
import ScopedBuilder.Proofs.SingleAssignment
import ScopedBuilder.Proofs.Interleaving
import ScopedBuilder.Proofs.Barred
import ScopedBuilder.Proofs.Locality
import ScopedBuilder.Proofs.Ledger
import ScopedBuilder.Proofs.Annotation
import ScopedBuilder.Proofs.Acceptance
import ScopedBuilder.Proofs.FunctionContents
import ScopedBuilder.Proofs.ThreadSession
import ScopedBuilder.Proofs.ConfigText
import ScopedBuilder.Proofs.EmissionOrder
import ScopedBuilder.Proofs.Definedness
import ScopedBuilder.Proofs.ScopeCheck
import ScopedBuilder.Proofs.InferredType
import ScopedBuilder.Proofs.Numbering
import ScopedBuilder.Proofs.BlockOpening
import ScopedBuilder.Proofs.SessionActivity
import ScopedBuilder.Proofs.ExprEquality
import ScopedBuilder.Proofs.FlatProgram
import ScopedBuilder.Proofs.BareWriter
import ScopedBuilder.Proofs.SlotAccess
import ScopedBuilder.Proofs.NamingPolicy
import ScopedBuilder.Proofs.ConfigEntries
