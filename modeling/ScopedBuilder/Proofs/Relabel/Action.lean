import ScopedBuilder.Proofs.Change
import ScopedBuilder.Proofs.FuncBlocks
import ScopedBuilder.Proofs.Guard
import ScopedBuilder.Proofs.Relabel.Operation

/-!
# Actions on a relabelled builder

Binding an expression is the only operation that takes an identity. As long as the identities that are taken
are related, every operation does the same to a builder and to the relabelled builder.
-/

namespace ScopedBuilder

variable {π : Nat → Nat} {b : Builder BlockWriter} {e : Expr} {s s' : VarSupply}

/-! ## Binding -/

namespace FuncDraft

variable {f : FuncDraft BlockWriter}

theorem emit_of_closed (h : f.emitter.openBlocks = []) :
    emit e (f, s) = .error (.emitter (.noOpenBlock .emit)) (f, s) := by
  simp only [emit, Emitter.emit, BlockWriter.emit, h]

/-- A variable has the next identity, whatever that is. -/
theorem freshVar_relabel (kind : BlockKind) (hnext : π s.next = s'.next) :
    (f.relabel π).freshVar kind (e.relabel π) s' = (f.freshVar kind e s).relabel π := by
  have hname : (f.relabel π).emitter.nextName kind = f.emitter.nextName kind := by cases kind <;> rfl
  simp [freshVar, VarSupply.fresh, Var.relabel, hname, hnext]

theorem addBinding_relabel (block : Block Expr) (outer : List (Block Expr)) (b : Binding Expr) :
    (f.relabel π).addBinding (block.relabel π) (outer.map (·.relabel π)) (b.relabel π) =
      (f.addBinding block outer b).relabel π := by
  obtain ⟨_ | _, _⟩ := block <;>
    simp [addBinding, relabel, Block.relabel, BlockWriter.relabel, BlockWriter.countUp]

end FuncDraft

namespace BuildM

/-- An expression is bound to the next identity of each supply, if a block is open. Those identities have
to be related. -/
theorem emit_alike (hb : b.Standard)
    (hnext : ∀ above f below, b.frames.splitFunction? = some (above, f, below) →
      f.emitter.openBlocks ≠ [] → π s.next = s'.next) :
    ∃ drawn, Alike π (·.relabel π) ⟨s.next + drawn⟩ ⟨s'.next + drawn⟩
      (onNearestFunction .emit (FuncDraft.emit e) ⟨b, s⟩)
      (onNearestFunction .emit (FuncDraft.emit (e.relabel π)) ⟨b.relabel π, s'⟩) := by
  have hsplit : (b.relabel π).frames.splitFunction? = _ := Frames.splitFunction?_mapParts _ _ b.frames
  simp only [onNearestFunction, hsplit]
  cases hsome : b.frames.splitFunction? with
  | none => exact ⟨0, .error _ hb.related⟩
  | some split =>
      obtain ⟨above, f, below⟩ := split
      have hnext := hnext above f below hsome
      have hrelated (drawn : Nat) (g : FuncDraft BlockWriter) :=
        (relabelling π ⟨s.next + drawn⟩ ⟨s'.next + drawn⟩).withFrames (above ++ .function g :: below)
          hb.related
      simp only [Frames.mapParts_split] at hrelated
      simp only [Option.map_some]
      cases hopen : f.emitter.openBlocks with
      | nil =>
          have hopen' : (f.relabel π).emitter.openBlocks = [] := congrArg (List.map _) hopen
          rw [FuncDraft.emit_of_closed hopen, FuncDraft.emit_of_closed hopen']
          exact ⟨0, .error _ (hrelated 0 f)⟩
      | cons block outer =>
          have hopen' : (f.relabel π).emitter.openBlocks =
              block.relabel π :: outer.map (·.relabel π) := congrArg (List.map _) hopen
          have hkind : (block.relabel π).kind = block.kind := rfl
          rw [FuncDraft.emit_of_open hopen, FuncDraft.emit_of_open hopen', hkind,
            FuncDraft.freshVar_relabel block.kind (hnext (by simp [hopen])), Expr.normalize_relabel]
          have hbound : (f.relabel π).addBinding (block.relabel π) (outer.map (·.relabel π))
              ⟨(f.freshVar block.kind e s).relabel π, e.normalize.relabel π⟩ = _ :=
            FuncDraft.addBinding_relabel block outer ⟨f.freshVar block.kind e s, e.normalize⟩
          rw [hbound]
          exact ⟨1, .ok _ (hrelated 1 _)⟩

end BuildM

/-! ## Operations as data -/

namespace Action

open BuildM Translation

/-- Whether an operation leaves the renamers alone. -/
def keepsRenamers : Action → Bool
  | setRenamers _ | registerRenamer .. => false
  | _ => true

variable {a : Action}

/-- An operation that binds nothing takes no identity and does not look at any. -/
theorem blind (hbinds : a.binds? = none) (hkeeps : a.keepsRenamers = true) :
    Blind π (Reply.relabel π) a.run (a.relabel π).run := by
  intro s s'
  cases a with
  | openModule => exact Translates.openModule.reply fun _ => rfl
  | openFunction => exact Translates.openFunction.reply fun _ => rfl
  | openBlock kind => exact (Translates.openBlock kind).reply fun _ => rfl
  | pushBlock kind => exact (Translates.pushBlock kind).reply fun _ => rfl
  | close handle => exact (Translates.close handle).reply fun _ => rfl
  | closeScope => exact Translates.closeScope.reply fun _ => rfl
  | abort => exact Translates.abort.reply fun _ => rfl
  | register name f allowRename => exact (Blind.register name f allowRename s s').reply fun _ => rfl
  | update name f first => exact (Translates.update name f first).reply fun _ => rfl
  | addParam name v => exact (Blind.addParam name v s s').reply fun _ => rfl
  | setName name => exact (Blind.setName name s s').reply fun _ => rfl
  | setAttrs attrs => exact (Blind.setAttrs attrs s s').reply fun _ => rfl
  | setResultTy ty => exact (Blind.setResultTy ty s s').reply fun _ => rfl
  | addOutput e => exact (Blind.addOutput e s s').reply fun _ => rfl
  | setResult artifact => exact (Translates.setResult artifact).reply fun _ => rfl
  | takeResult => exact Translates.takeResult.reply fun _ => rfl
  | rename e name => exact (Blind.rename e name s s').reply fun _ => rfl
  | emit | emitKernelCall => cases hbinds
  | setRenamers | registerRenamer => cases hkeeps

theorem run_eq_of_binds (hbinds : a.binds? = some e) :
    (a.run : BuildM BlockWriter Reply) = Builder.emit e >>= fun v => pure (.var v) := by
  cases a <;> simp only [binds?, Option.some.injEq, reduceCtorEq] at hbinds <;> subst hbinds <;> rfl

theorem binds?_relabel (hbinds : a.binds? = some e) :
    (a.relabel π).binds? = some (e.relabel π) := by
  cases a <;> simp only [binds?, Option.some.injEq, reduceCtorEq] at hbinds <;> subst hbinds
  case emit => rfl
  case emitKernelCall => exact congrArg some (Expr.kernelCall_relabel ..)

theorem supply_of_binds (hbinds : a.binds? = some e) (hfailed : b.failed = false)
    {above below : Frames BlockWriter} {f : FuncDraft BlockWriter}
    (hsplit : b.frames.splitFunction? = some (above, f, below)) (hopen : f.emitter.openBlocks ≠ []) :
    (final a.run ⟨b, s⟩).supply = ⟨s.next + 1⟩ := by
  obtain ⟨block, outer, hopen⟩ := List.exists_cons_of_ne_nil hopen
  have hemit : ∃ v w', Builder.emit e ⟨b, s⟩ = .ok v w' ∧ w'.supply = ⟨s.next + 1⟩ :=
    ⟨_, _, Builder.emit_eq_ok.mpr
      ⟨hfailed, above, f, below, _, _, hsplit, FuncDraft.emit_of_open hopen, rfl⟩, rfl⟩
  obtain ⟨v, w', hemit, hsupply⟩ := hemit
  rw [final_of_ok ((run_binds hbinds).mpr ⟨v, hemit, rfl⟩), hsupply]

/-- An operation does the same to a relabelled builder. If it takes an identity from the second supply,
the next identities of the two supplies have to be related. -/
theorem alike (hb : b.Standard) (hkeeps : a.keepsRenamers = true)
    (hdraw : (final (a.relabel π).run ⟨b.relabel π, s'⟩).supply ≠ s' → π s.next = s'.next) :
    ∃ drawn, Alike π (Reply.relabel π) ⟨s.next + drawn⟩ ⟨s'.next + drawn⟩
      (a.run ⟨b, s⟩) ((a.relabel π).run ⟨b.relabel π, s'⟩) := by
  cases hbinds : a.binds? with
  | none => exact ⟨0, blind hbinds hkeeps s s' _ _ hb.related⟩
  | some e =>
      have hbinds' : (a.relabel π).binds? = some (e.relabel π) := binds?_relabel hbinds
      cases hfailed : b.failed with
      | true =>
          have hguard : a.guard? = some .emit ∧ (a.relabel π).guard? = some .emit := by
            cases a <;> first | exact ⟨rfl, rfl⟩ | cases hbinds
          rw [a.run_of_failed (w := ⟨b, s⟩) hguard.1 hfailed,
            (a.relabel π).run_of_failed (w := ⟨b.relabel π, s'⟩) hguard.2 hfailed]
          exact ⟨0, .error _ hb.related⟩
      | false =>
          have hnext : ∀ above f below, b.frames.splitFunction? = some (above, f, below) →
              f.emitter.openBlocks ≠ [] → π s.next = s'.next := by
            intro above f below hsplit hopen
            have hsplit' : (b.relabel π).frames.splitFunction? =
                some (above.relabel π, f.relabel π, below.relabel π) :=
              (Frames.splitFunction?_mapParts _ _ b.frames).trans (by rw [hsplit]; rfl)
            have hopen' : (f.relabel π).emitter.openBlocks ≠ [] := by
              simpa [FuncDraft.relabel, BlockWriter.relabel] using hopen
            have hfailed' : (b.relabel π).failed = false := hfailed
            refine hdraw ?_
            rw [supply_of_binds hbinds' hfailed' hsplit' hopen']
            exact fun heq => Nat.succ_ne_self s'.next (congrArg VarSupply.next heq)
          rw [run_eq_of_binds hbinds, run_eq_of_binds hbinds']
          obtain ⟨drawn, halike⟩ := BuildM.emit_alike (e := e) hb hnext
          exact ⟨drawn, (halike.guarded hfailed hfailed).map_ok fun _ => rfl⟩

end Action

end ScopedBuilder
