import Mathlib.Data.List.Basic
import ScopedBuilder.Builder.Scoped
import ScopedBuilder.Proofs.EmissionLog

/-!
# Programs and what they denote

A program is a tree of the scopes of one module. It can be built, by the scoped operations of a builder,
and it denotes a module: the variables are numbered in the order of emission, and the blocks of a function
are the pieces between the boundaries of its blocks.
-/

namespace ScopedBuilder

/-! ## Programs -/

/-- A statement of a function body. -/
inductive Stmt where
  | emit (e : Expr)
  | block (kind : BlockKind) (body : List Stmt)

/-- A function; it returns at least one output. -/
structure FuncTree where
  name : Option String
  params : List (String × Var)
  result : Ty
  attrs : Option Attrs
  body : List Stmt
  outputs : List Expr
  outputs_ne_nil : outputs ≠ []

inductive Item where
  /-- A name is registered without a body. -/
  | reserve (name : String)
  | function (f : FuncTree)

abbrev Program := List Item

/-- A function without a name has the empty one. -/
def FuncTree.nameOrEmpty (f : FuncTree) : String := f.name.getD ""

namespace Item

/-- The name that an item mentions. -/
def name : Item → String
  | reserve name => name
  | function f => f.nameOrEmpty

def reserved? : Item → Option String
  | reserve name => some name
  | function _ => none

def defined? : Item → Option String
  | reserve _ => none
  | function f => some f.nameOrEmpty

end Item

/-- Each name has exactly one function, and it may be reserved once before. -/
structure Program.WellFormed (p : Program) : Prop where
  nodup_defined : (p.filterMap Item.defined?).Nodup
  nodup_reserved : (p.filterMap Item.reserved?).Nodup
  reserved_before : ∀ before name after, p = before ++ .reserve name :: after →
    name ∉ before.filterMap Item.defined?
  reserved_defined : ∀ name ∈ p.filterMap Item.reserved?, name ∈ p.filterMap Item.defined?

/-! ## Building -/

mutual

def Stmt.build : Stmt → BuildM BlockWriter Unit
  | .emit e => do
    let _ ← Builder.emit e
  | .block kind body => Builder.inBlock BlockWriter kind (Stmt.buildAll body)

def Stmt.buildAll : List Stmt → BuildM BlockWriter Unit
  | [] => pure ()
  | s :: body => do
    s.build
    Stmt.buildAll body

end

/-- Builds a function: its parts first, then its body and its outputs. -/
def FuncTree.build (f : FuncTree) : BuildM BlockWriter Unit :=
  Builder.inFunction BlockWriter do
    f.name.forM Builder.setName
    f.params.forM fun (name, v) => do
      let _ ← Builder.addParam name v
    f.attrs.forM Builder.setAttrs
    let _ ← Builder.setResultTy f.result
    Stmt.buildAll f.body
    f.outputs.forM Builder.addOutput

def Item.build : Item → BuildM BlockWriter Unit
  | .reserve name => do
    let _ ← Builder.register name none false
  | .function f => f.build

def Program.build (p : Program) : BuildM BlockWriter Unit :=
  Builder.inModule BlockWriter (p.forM Item.build)

/-! ## Meaning -/

/-- How many variables there are: identities in use, and variables bound in a function by kind. -/
structure Numbering where
  supply : VarSupply
  ordinary : Nat
  dataflow : Nat

namespace Numbering

def new (supply : VarSupply) : Numbering := ⟨supply, 0, 0⟩

/-- The name of the next variable that is bound in a block of a kind. -/
def nextName (n : Numbering) (c : Config) : BlockKind → String
  | .ordinary => c.ordinaryStem ++ toString n.ordinary
  | .dataflow => c.dataflowStem ++ toString n.dataflow

/-- The next variable that is bound in a block of a kind. -/
def var (n : Numbering) (c : Config) (kind : BlockKind) (ty : Option Ty) : Var :=
  ⟨n.supply.next, n.nextName c kind, kind.isDataflow, none, ty⟩

def next (n : Numbering) : BlockKind → Numbering
  | .ordinary => ⟨⟨n.supply.next + 1⟩, n.ordinary + 1, n.dataflow⟩
  | .dataflow => ⟨⟨n.supply.next + 1⟩, n.ordinary, n.dataflow + 1⟩

end Numbering

mutual

/-- The log of a statement in a block of a kind, and the numbering after it. -/
def Stmt.log (c : Config) (kind : BlockKind) (n : Numbering) : Stmt → EmissionLog × Numbering
  | .emit e => ([.bound kind ⟨n.var c kind e.normalize.checkedTy, e.normalize⟩], n.next kind)
  | .block inner body =>
    let (log, n) := Stmt.logAll c inner n body
    (.cut :: (log ++ [.cut]), n)

def Stmt.logAll (c : Config) (kind : BlockKind) (n : Numbering) :
    List Stmt → EmissionLog × Numbering
  | [] => ([], n)
  | s :: body =>
    let (log, n) := s.log c kind n
    let (rest, n) := Stmt.logAll c kind n body
    (log ++ rest, n)

end

/-- The block of a piece, unless the piece is empty. -/
def Piece.block? : Piece → Option (Block Expr)
  | [] => none
  | (kind, binding) :: rest => some ⟨kind, binding :: rest.map (·.2)⟩

def EmissionLog.blocks (log : EmissionLog) : List (Block Expr) := log.pieces.filterMap Piece.block?

theorem Piece.block?_tagged {block : Block Expr} (h : block.bindings ≠ []) :
    Piece.block? block.tagged = some block := by
  obtain ⟨kind, bindings⟩ := block
  cases bindings with
  | nil => exact absurd rfl h
  | cons binding bindings => simp [Block.tagged, block?, Function.comp_def]

/-- Blocks are determined by the pieces that they hold. -/
theorem EmissionLog.blocks_eq {blocks : List (Block Expr)} {log : EmissionLog}
    (h : blocks.map Block.tagged = log.pieces.filter (!·.isEmpty)) : blocks = log.blocks := by
  have hempty : ∀ piece : Piece,
      (if (!piece.isEmpty) = true then piece.block? else none) = piece.block? := by
    intro piece
    cases piece <;> rfl
  have htagged : ∀ block ∈ blocks, (Piece.block? ∘ Block.tagged) block = some (id block) :=
    fun block hmem => Piece.block?_tagged (Block.bindings_ne_nil h hmem)
  calc blocks
      = (blocks.map Block.tagged).filterMap Piece.block? := by
        rw [List.filterMap_map, List.filterMap_eq_map_iff_forall_eq_some.mpr htagged, List.map_id]
    _ = log.blocks := by
        rw [h, List.filterMap_filter, EmissionLog.blocks]
        simp only [hempty]

namespace FuncTree

/-- The value that a function returns, several outputs being a tuple. -/
def output (f : FuncTree) : Expr :=
  match f.outputs with
  | [e] => e
  | es => .tuple es none

/-- The attributes of a function; they record its name if the settings ask for it. -/
def finalAttrs (f : FuncTree) (c : Config) : Attrs :=
  match c.recordSymbol, f.name with
  | true, some name => (f.attrs.getD .empty).insert Func.symbolKey (.str name)
  | _, _ => f.attrs.getD .empty

/-- The function that a tree denotes when some identities are in use, and the supply after it. -/
def denote (f : FuncTree) (c : Config) (supply : VarSupply) : Func × VarSupply :=
  let (log, n) := Stmt.logAll c .ordinary (.new supply) f.body
  let output := f.output.normalize
  (⟨f.params.map fun (name, v) => { v with name := name },
    .seq log.blocks output output.checkedTy, f.result, f.finalAttrs c⟩, n.supply)

end FuncTree

namespace Program

/-- The functions of a program by name, and the supply after them. -/
def functions (c : Config) (supply : VarSupply) : Program → List (String × Func) × VarSupply
  | [] => ([], supply)
  | .reserve _ :: p => functions c supply p
  | .function f :: p =>
    let (func, supply) := f.denote c supply
    let (rest, supply) := functions c supply p
    ((f.nameOrEmpty, func) :: rest, supply)

/-- The names of a program in the order of their first mention. -/
def names (p : Program) : List String := (p.map Item.name).eraseDups

/-- The module that a program denotes: its functions, in the order of the first mention of their names. -/
def denote (p : Program) (c : Config) (supply : VarSupply) : Module :=
  let functions := (p.functions c supply).1
  ⟨(p.names.filterMap fun name => (functions.lookup name).map (name, ·)).zipIdx.map fun x =>
    (⟨x.1.1, x.2⟩, x.1.2)⟩

end Program

end ScopedBuilder
