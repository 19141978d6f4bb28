import ScopedBuilder.Emitter.Basic
import ScopedBuilder.Config.Basic
import ScopedBuilder.Expr.Normalize

/-!
The standard emitter: a stack of open blocks, and one counter for each kind of block to number the
variables bound there.
-/

namespace ScopedBuilder

/-- The blocks that are open, innermost first, and the names of the variables to come. -/
structure BlockWriter where
  openBlocks : List (Block Expr)
  ordinaryStem : String
  dataflowStem : String
  ordinaryCount : Nat
  dataflowCount : Nat

namespace BlockWriter

def new (ordinaryStem dataflowStem : String) : BlockWriter :=
  ⟨[], ordinaryStem, dataflowStem, 0, 0⟩

def ofConfig (c : Config) : BlockWriter :=
  new c.ordinaryStem c.dataflowStem

def standard : BlockWriter := ofConfig {}

def depth (w : BlockWriter) : Nat := w.openBlocks.length

def beginBlock (w : BlockWriter) (kind : BlockKind) : BlockWriter :=
  { w with openBlocks := ⟨kind, []⟩ :: w.openBlocks }

/-- The name of the next variable of a kind of block. -/
def nextName (w : BlockWriter) : BlockKind → String
  | .ordinary => w.ordinaryStem ++ toString w.ordinaryCount
  | .dataflow => w.dataflowStem ++ toString w.dataflowCount

def countUp (w : BlockWriter) : BlockKind → BlockWriter
  | .ordinary => { w with ordinaryCount := w.ordinaryCount + 1 }
  | .dataflow => { w with dataflowCount := w.dataflowCount + 1 }

/-- Binds the normal form of an expression to a new variable of its type. -/
def emit (w : BlockWriter) (supply : VarSupply) (e : Expr) :
    Except EmitterError (Var × BlockWriter × VarSupply) :=
  match w.openBlocks with
  | [] => .error (.noOpenBlock .emit)
  | block :: outer =>
    let value := e.normalize
    let (v, supply) := supply.fresh (w.nextName block.kind) block.kind.isDataflow value.checkedTy
    let block := { block with bindings := block.bindings ++ [⟨v, value⟩] }
    .ok (v, { w.countUp block.kind with openBlocks := block :: outer }, supply)

def endBlock (w : BlockWriter) : Except EmitterError (Block Expr × BlockWriter) :=
  match w.openBlocks with
  | [] => .error (.noOpenBlock .endBlock)
  | block :: outer => .ok (block, { w with openBlocks := outer })

instance : Emitter BlockWriter where
  beginBlock kind w := w.beginBlock kind
  emit e := fun (w, supply) =>
    match w.emit supply e with
    | .ok (v, w, supply) => .ok v (w, supply)
    | .error err => .error err (w, supply)
  endBlock := fun w =>
    match w.endBlock with
    | .ok (block, w) => .ok block w
    | .error err => .error err w
  normalize e := fun w => (e.normalize, w)

end BlockWriter

end ScopedBuilder
