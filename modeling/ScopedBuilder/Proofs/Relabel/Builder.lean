import ScopedBuilder.Builder.Action
import ScopedBuilder.Emitter.BlockWriter
import ScopedBuilder.Proofs.FrameMap
import ScopedBuilder.Proofs.Relabel.Expr

/-!
# Relabelling the variables of a builder

A map of identities is carried to everything that a builder holds, takes and returns. What the parts of a
builder compute commutes with it.
-/

namespace ScopedBuilder

/-! ## Modules under construction -/

namespace ModuleDraft

def relabel (π : Nat → Nat) (m : ModuleDraft) : ModuleDraft :=
  { m with slots := m.slots.map (·.map (·.relabel π)) }

variable (π : Nat → Nat) (m : ModuleDraft) (name : String) (op : Operation)

@[simp] theorem relabel_new (scheme : NameScheme) : (new scheme).relabel π = new scheme := rfl

@[simp] theorem global?_relabel : (m.relabel π).global? name = m.global? name := rfl

@[simp] theorem contains_relabel : (m.relabel π).contains name = m.contains name := rfl

@[simp] theorem definition?_relabel (g : Global) :
    (m.relabel π).definition? g = (m.definition? g).map (·.relabel π) := by
  simp only [definition?, relabel, List.getElem?_map]
  rcases m.slots[g.index]? with _ | _ | f <;> rfl

@[simp] theorem setSlot_relabel (g : Global) (f : Option Func) :
    (m.relabel π).setSlot g (f.map (·.relabel π)) = (m.setSlot g f).relabel π := by
  simp [setSlot, relabel, List.map_set]

theorem register_relabel (f : Option Func) (rename : Bool) :
    (m.relabel π).register name (f.map (·.relabel π)) rename op =
      (m.register name f rename op).map fun x => (x.1, x.2.relabel π) := by
  simp only [register, contains_relabel, global?_relabel, setSlot_relabel]
  split
  · rfl
  · have hunique : (m.relabel π).scheme.fresh name ((m.relabel π).names.map (·.1)) =
        m.scheme.fresh name (m.names.map (·.1)) := rfl
    rw [hunique]
    cases m.global? (m.scheme.fresh name (m.names.map (·.1))) <;> simp [relabel, Except.map]

theorem update_relabel (f : Func) (first : Bool) :
    (m.relabel π).update name (f.relabel π) first op =
      (m.update name f first op).map (·.relabel π) := by
  simp only [update, global?_relabel, definition?_relabel, Option.isSome_map]
  cases m.global? name with
  | none => rfl
  | some g =>
      dsimp only
      split
      · rfl
      · exact congrArg Except.ok (setSlot_relabel π m g (some f))

theorem define_relabel (f : Func) :
    (m.relabel π).define name (f.relabel π) op = (m.define name f op).map (·.relabel π) := by
  have hregister := register_relabel π m name op (some f) false
  simp only [Option.map_some] at hregister
  simp only [define, contains_relabel, update_relabel, hregister]
  split
  · rfl
  · cases m.register name (some f) false op <;> rfl

@[simp] theorem entry_relabel (g : Global) :
    (m.relabel π).entry name g = (m.entry name g).map fun x => (x.1, x.2.relabel π) := by
  rw [entry, entry, definition?_relabel]
  cases m.definition? g <;> rfl

theorem mapM_entry_relabel (names : List (String × Global)) :
    (names.mapM fun x => (m.relabel π).entry x.1 x.2) =
      (names.mapM fun x => m.entry x.1 x.2).map fun entries =>
        entries.map fun x => (x.1, x.2.relabel π) := by
  induction names with
  | nil => rfl
  | cons x names ih =>
      rw [List.mapM_cons, List.mapM_cons, ih, entry_relabel]
      cases m.entry x.1 x.2 with
      | error => rfl
      | ok => cases names.mapM fun x => m.entry x.1 x.2 <;> rfl

theorem assemble_relabel : (m.relabel π).assemble = m.assemble.map (·.relabel π) := by
  have hassemble : ∀ m : ModuleDraft,
      m.assemble = (m.names.mapM fun x => m.entry x.1 x.2).map Module.mk := fun _ => rfl
  have hnames : (m.relabel π).names = m.names := rfl
  rw [hassemble, hassemble, hnames, mapM_entry_relabel]
  cases m.names.mapM fun x => m.entry x.1 x.2 <;> rfl

end ModuleDraft

/-! ## Emitters and functions under construction -/

namespace BlockWriter

def relabel (π : Nat → Nat) (w : BlockWriter) : BlockWriter :=
  { w with openBlocks := w.openBlocks.map (·.relabel π) }

variable (π : Nat → Nat) (w : BlockWriter)

@[simp] theorem beginBlock_relabel (kind : BlockKind) :
    (w.relabel π).beginBlock kind = (w.beginBlock kind).relabel π := rfl

theorem endBlock_relabel :
    (w.relabel π).endBlock = w.endBlock.map fun (block, w) => (block.relabel π, w.relabel π) := by
  obtain ⟨_ | ⟨block, outer⟩⟩ := w <;> rfl

end BlockWriter

namespace FuncDraft

def relabel (π : Nat → Nat) (f : FuncDraft BlockWriter) : FuncDraft BlockWriter :=
  { f with
    params := f.params.map (·.relabel π)
    blocks := f.blocks.map (·.relabel π)
    outputs := f.outputs.map (·.relabel π)
    emitter := f.emitter.relabel π }

variable (π : Nat → Nat) (f : FuncDraft BlockWriter)

@[simp] theorem relabel_new (w : BlockWriter) : (new w).relabel π = new (w.relabel π) := rfl

@[simp] theorem nameOrEmpty_relabel : (f.relabel π).nameOrEmpty = f.nameOrEmpty := rfl

@[simp] theorem beginBlock_relabel (kind : BlockKind) :
    (f.relabel π).beginBlock kind = (f.beginBlock kind).relabel π := rfl

theorem setName_relabel (name : String) :
    (f.relabel π).setName name = (f.setName name).map (·.relabel π) := by
  obtain ⟨_ | _, _⟩ := f <;> rfl

theorem setAttrs_relabel (attrs : Attrs) :
    (f.relabel π).setAttrs attrs = (f.setAttrs attrs).map (·.relabel π) := by
  have hattrs : (f.relabel π).attrs = f.attrs := rfl
  unfold setAttrs
  rw [hattrs]
  split <;> rfl

theorem setResult_relabel (ty : Ty) :
    (f.relabel π).setResult ty = (f.setResult ty).map (·.relabel π) := by
  have hresult : (f.relabel π).result = f.result := rfl
  unfold setResult
  rw [hresult]
  cases f.result <;> rfl

@[simp] theorem record_relabel (block : Block Expr) :
    (f.relabel π).record (block.relabel π) = (f.record block).relabel π := by
  have hempty : (block.relabel π).bindings.isEmpty = block.bindings.isEmpty := by
    simp [Block.relabel]
  unfold record
  rw [hempty]
  split
  · rfl
  · simp [relabel]

theorem output?_relabel : (f.relabel π).output? = f.output?.map (·.relabel π) := by
  have houtputs : (f.relabel π).outputs = f.outputs.map (·.relabel π) := rfl
  unfold output?
  rw [houtputs]
  rcases f.outputs with _ | ⟨e, _ | ⟨e', es⟩⟩
  · rfl
  · rfl
  · simp

@[simp] theorem finalAttrs_relabel (c : Config) : (f.relabel π).finalAttrs c = f.finalAttrs c := rfl

/-- The body of a function is made of relabelled parts. -/
theorem normalize_seq_relabel (output : Expr) :
    ((Expr.seq (f.relabel π).blocks (output.relabel π).normalize none).normalize) =
      (Expr.seq f.blocks output.normalize none).normalize.relabel π := by
  rw [← Expr.normalize_relabel, Expr.relabel_seq, Expr.normalize_relabel]
  rfl

theorem assemble_relabel (c : Config) :
    (f.relabel π).assemble c = (f.assemble c).map (·.relabel π) := by
  have hresult : (f.relabel π).result = f.result := rfl
  simp only [assemble, output?_relabel, hresult, nameOrEmpty_relabel, finalAttrs_relabel]
  cases f.output? with
  | none => rfl
  | some output =>
      cases f.result with
      | none => rfl
      | some result =>
          simp only [Option.map_some, Emitter.normalize, normalize_seq_relabel]
          rfl

end FuncDraft

/-! ## Builders -/

def Frame.relabel (π : Nat → Nat) : Frame BlockWriter → Frame BlockWriter :=
  Frame.map (·.relabel π) (·.relabel π)

def Frames.relabel (π : Nat → Nat) (frames : Frames BlockWriter) : Frames BlockWriter :=
  frames.mapParts (·.relabel π) (·.relabel π)

def Artifact.relabel (π : Nat → Nat) : Artifact → Artifact :=
  Artifact.map (·.relabel π) (·.relabel π)

def Builder.relabel (π : Nat → Nat) (b : Builder BlockWriter) : Builder BlockWriter :=
  { b with frames := b.frames.relabel π, result := b.result.map (·.relabel π) }

def Reply.relabel (π : Nat → Nat) : Reply → Reply
  | .var v => .var (v.relabel π)
  | .artifact taken => .artifact (taken.map (·.relabel π))
  | .expr e => .expr (e.relabel π)
  | reply => reply

/-- The operation on other variables. A renamer is left as it is. -/
def Action.relabel (π : Nat → Nat) : Action → Action
  | .register name f allowRename => .register name (f.map (·.relabel π)) allowRename
  | .update name f first => .update name (f.relabel π) first
  | .addParam name v => .addParam name (v.relabel π)
  | .addOutput e => .addOutput (e.relabel π)
  | .emit e => .emit (e.relabel π)
  | .emitKernelCall kernel args dims element packed =>
    .emitKernelCall (kernel.relabel π) (args.map (·.relabel π)) dims element
      (packed.map (·.relabel π))
  | .setResult artifact => .setResult (artifact.relabel π)
  | .rename e name => .rename (e.relabel π) name
  | a => a

/-! ## Relabelling twice -/

section Twice

variable (π ρ : Nat → Nat)

@[simp] theorem ModuleDraft.relabel_relabel (m : ModuleDraft) :
    (m.relabel π).relabel ρ = m.relabel (ρ ∘ π) := by
  simp [ModuleDraft.relabel, Function.comp_def]

@[simp] theorem BlockWriter.relabel_relabel (w : BlockWriter) :
    (w.relabel π).relabel ρ = w.relabel (ρ ∘ π) := by
  simp [BlockWriter.relabel, Function.comp_def]

@[simp] theorem FuncDraft.relabel_relabel (f : FuncDraft BlockWriter) :
    (f.relabel π).relabel ρ = f.relabel (ρ ∘ π) := by
  simp [FuncDraft.relabel, Function.comp_def]

@[simp] theorem Frame.relabel_relabel (x : Frame BlockWriter) :
    (x.relabel π).relabel ρ = x.relabel (ρ ∘ π) := by
  cases x <;> simp [Frame.relabel, Frame.map]

@[simp] theorem Frames.relabel_relabel (frames : Frames BlockWriter) :
    (frames.relabel π).relabel ρ = frames.relabel (ρ ∘ π) := by
  have htwice : Frame.relabel ρ ∘ Frame.relabel π = Frame.relabel (ρ ∘ π) :=
    funext fun x => x.relabel_relabel π ρ
  exact List.map_map.trans (congrArg (List.map · frames) htwice)

@[simp] theorem Artifact.relabel_relabel (a : Artifact) :
    (a.relabel π).relabel ρ = a.relabel (ρ ∘ π) := by
  cases a <;> simp [Artifact.relabel, Artifact.map]

@[simp] theorem Builder.relabel_relabel (b : Builder BlockWriter) :
    (b.relabel π).relabel ρ = b.relabel (ρ ∘ π) := by
  simp [Builder.relabel, Function.comp_def]

@[simp] theorem Reply.relabel_relabel (reply : Reply) :
    (reply.relabel π).relabel ρ = reply.relabel (ρ ∘ π) := by
  cases reply <;> simp [Reply.relabel, Function.comp_def]

@[simp] theorem Action.relabel_relabel (a : Action) :
    (a.relabel π).relabel ρ = a.relabel (ρ ∘ π) := by
  cases a <;> simp [Action.relabel, Function.comp_def]

end Twice

end ScopedBuilder
