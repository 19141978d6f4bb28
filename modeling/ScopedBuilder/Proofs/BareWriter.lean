import ScopedBuilder.Emitter.BlockWriter
import ScopedBuilder.Proofs.Outcome

/-!
# The standard emitter on its own

A run of an emitter is a list of calls in any order: blocks are begun and ended like brackets, but an end
may also come where no block is open. The call that ends a block returns what was bound since the matching
beginning and outside of the blocks in between.
-/

namespace ScopedBuilder.BlockWriter

/-- What is asked of an emitter. -/
inductive Call where
  | beginBlock (kind : BlockKind)
  | emit (e : Expr)
  | endBlock
  | normalize (e : Expr)
  /-- Variables are made elsewhere. -/
  | drawn (count : Nat)

/-- What a call that succeeds returns. -/
inductive Answer where
  | done
  | var (v : Var)
  | block (block : Block Expr)
  | expr (e : Expr)

/-- An emitter, and the identities that it can still give to variables. -/
abbrev Site := BlockWriter × VarSupply

/-- Carries out a call. -/
def Call.run : Call → EStateM EmitterError Site Answer
  | beginBlock kind => fun (w, supply) => .ok .done (Emitter.beginBlock kind w, supply)
  | emit e => .var <$> Emitter.emit e
  | endBlock => fun (w, supply) =>
    match Emitter.endBlock w with
    | .ok block w => .ok (.block block) (w, supply)
    | .error err w => .error err (w, supply)
  | normalize e => fun (w, supply) =>
    let (e, w) := Emitter.normalize e w
    .ok (.expr e) (w, supply)
  | drawn count => fun (w, supply) => .ok .done (w, ⟨supply.next + count⟩)

/-- A call, and what it meets. -/
structure Turn where
  before : Site
  call : Call

namespace Turn

def outcome (t : Turn) : EStateM.Result EmitterError Site Answer := t.call.run t.before

/-- What a call leaves, also when it fails. -/
def after (t : Turn) : Site :=
  match t.outcome with
  | .ok _ s | .error _ s => s

/-- The number of the blocks that are open when a call is made. -/
def depth (t : Turn) : Nat := t.before.1.depth

def begins (t : Turn) : Bool :=
  match t.call with
  | .beginBlock _ => true
  | _ => false

/-- The block that a call returns. -/
def returned? (t : Turn) : Option (Block Expr) :=
  match t.outcome with
  | .ok (.block block) _ => some block
  | _ => none

/-- What a call binds: the variable that it returns, to the normal form of the expression that it is given. -/
def binding? (t : Turn) : Option (Binding Expr) :=
  match t.call, t.outcome with
  | .emit e, .ok (.var v) _ => some ⟨v, e.normalize⟩
  | _, _ => none

/-- What a call binds while so many blocks are open. -/
def bindingAt? (depth : Nat) (t : Turn) : Option (Binding Expr) :=
  if t.depth = depth then t.binding? else none

end Turn

namespace Site

/-- The turns of a run. -/
def turns (s : Site) : List Call → List Turn
  | [] => []
  | call :: calls => ⟨s, call⟩ :: turns (Turn.after ⟨s, call⟩) calls

/-- What a run leaves. -/
def afterAll (s : Site) : List Call → Site
  | [] => s
  | call :: calls => afterAll (Turn.after ⟨s, call⟩) calls

end Site

/-! ## Single calls -/

section Calls

variable {w : BlockWriter} (supply : VarSupply) {block : Block Expr} {outer : List (Block Expr)}

theorem run_emit_of_open (h : w.openBlocks = block :: outer) (e : Expr) :
    ∃ v w', v.id = supply.next ∧
      w'.openBlocks = { block with bindings := block.bindings ++ [⟨v, e.normalize⟩] } :: outer ∧
      (Call.emit e).run (w, supply) = .ok (.var v) (w', ⟨supply.next + 1⟩) := by
  let v := (supply.fresh (w.nextName block.kind) block.kind.isDataflow e.normalize.checkedTy).1
  let block' := { block with bindings := block.bindings ++ [(⟨v, e.normalize⟩ : Binding Expr)] }
  let w' := { w.countUp block.kind with openBlocks := block' :: outer }
  have hemit : Emitter.emit e (w, supply) = .ok v (w', ⟨supply.next + 1⟩) := by
    simp only [Emitter.emit, emit, h]
    rfl
  exact ⟨v, w', rfl, rfl, functorMap_eq_ok.mpr ⟨v, hemit, rfl⟩⟩

theorem run_emit_of_closed (h : w.openBlocks = []) (e : Expr) :
    (Call.emit e).run (w, supply) = .error (.noOpenBlock .emit) (w, supply) := by
  refine functorMap_eq_error.mpr ?_
  simp only [Emitter.emit, emit, h]

theorem run_endBlock_of_open (h : w.openBlocks = block :: outer) :
    Call.endBlock.run (w, supply) = .ok (.block block) ({ w with openBlocks := outer }, supply) := by
  simp only [Call.run, Emitter.endBlock, endBlock, h]

theorem run_endBlock_of_closed (h : w.openBlocks = []) :
    Call.endBlock.run (w, supply) = .error (.noOpenBlock .endBlock) (w, supply) := by
  simp only [Call.run, Emitter.endBlock, endBlock, h]

end Calls

/-! ## What a turn does -/

namespace Turn

theorem binding?_eq_none {t : Turn} (h : ∀ e, t.call ≠ .emit e) : t.binding? = none := by
  unfold binding?
  split
  · exact absurd ‹_› (h _)
  · rfl

theorem depth_eq (t : Turn) : t.depth = t.before.1.openBlocks.length := rfl

/-- The ways a call can go. -/
inductive Effect (t : Turn) : Prop where
  | began (kind : BlockKind) (call : t.call = .beginBlock kind)
      (openBlocks : t.after.1.openBlocks = ⟨kind, []⟩ :: t.before.1.openBlocks)
      (next : t.after.2.next = t.before.2.next)
      (returned? : t.returned? = none) (binding? : t.binding? = none)
  | bound (v : Var) (value : Expr) {block : Block Expr} {outer : List (Block Expr)}
      (isOpen : t.before.1.openBlocks = block :: outer)
      (openBlocks : t.after.1.openBlocks =
        { block with bindings := block.bindings ++ [⟨v, value⟩] } :: outer)
      (id : v.id = t.before.2.next) (next : t.after.2.next = t.before.2.next + 1)
      (begins : t.begins = false) (returned? : t.returned? = none)
      (binding? : t.binding? = some ⟨v, value⟩)
  | ended {block : Block Expr} (isOpen : t.before.1.openBlocks = block :: t.after.1.openBlocks)
      (next : t.after.2.next = t.before.2.next)
      (begins : t.begins = false) (returned? : t.returned? = some block) (binding? : t.binding? = none)
  | idle (openBlocks : t.after.1.openBlocks = t.before.1.openBlocks)
      (next : t.before.2.next ≤ t.after.2.next)
      (begins : t.begins = false) (returned? : t.returned? = none) (binding? : t.binding? = none)

theorem effect (t : Turn) : t.Effect := by
  obtain ⟨⟨w, supply⟩, call⟩ := t
  cases call with
  | beginBlock kind => exact .began kind rfl rfl rfl rfl (binding?_eq_none nofun)
  | emit e =>
      cases hopen : w.openBlocks with
      | nil =>
          have hrun := run_emit_of_closed supply hopen e
          refine .idle ?_ ?_ rfl ?_ ?_ <;> simp [after, returned?, binding?, outcome, hrun]
      | cons block outer =>
          obtain ⟨v, w', hid, hafter, hrun⟩ := run_emit_of_open supply hopen e
          refine .bound v e.normalize hopen ?_ hid ?_ rfl ?_ ?_ <;>
            simp [after, returned?, binding?, outcome, hrun, hafter]
  | endBlock =>
      cases hopen : w.openBlocks with
      | nil =>
          have hrun := run_endBlock_of_closed supply hopen
          refine .idle ?_ ?_ rfl ?_ (binding?_eq_none nofun) <;> simp [after, returned?, outcome, hrun]
      | cons block outer =>
          have hrun := run_endBlock_of_open supply hopen
          refine @Effect.ended _ block ?_ ?_ rfl ?_ (binding?_eq_none nofun) <;>
            simp [after, returned?, outcome, hrun, hopen]
  | normalize e => exact .idle rfl (Nat.le_refl _) rfl rfl (binding?_eq_none nofun)
  | drawn count => exact .idle rfl (Nat.le_add_right _ _) rfl rfl (binding?_eq_none nofun)

theorem length_openBlocks_after (t : Turn) :
    t.after.1.openBlocks.length + t.returned?.toList.length =
      t.before.1.openBlocks.length + t.begins.toNat := by
  cases t.effect with
  | began kind hcall hopen _ hret _ => simp [hopen, hret, begins, hcall]
  | bound v value hblocks hopen _ _ hbegins hret _ => simp [hblocks, hopen, hbegins, hret]
  | ended hblocks _ hbegins hret _ => simp [hblocks, hbegins, hret]
  | idle hopen _ hbegins hret _ => simp [hopen, hbegins, hret]

/-- A call leaves what was bound in the open blocks there, with its own binding, or returns it. -/
theorem bindings_after (t : Turn) :
    (t.before.1.openBlocks.flatMap Block.bindings ++ t.binding?.toList).Perm
      (t.returned?.toList.flatMap Block.bindings ++ t.after.1.openBlocks.flatMap Block.bindings) := by
  cases t.effect with
  | began kind hcall hopen _ hret hbind => simp [hopen, hret, hbind]
  | bound v value hblocks hopen _ _ _ hret hbind =>
      simp only [hblocks, hopen, hret, hbind, List.flatMap_cons, List.append_assoc, Option.toList_some,
        Option.toList_none, List.flatMap_nil, List.nil_append]
      exact List.perm_append_comm.append_left _
  | ended hblocks _ _ hret hbind => simp [hblocks, hret, hbind]
  | idle hopen _ _ hret hbind => simp [hopen, hret, hbind]

/-- A variable that is bound takes the next identity. -/
theorem id_of_binding? {t : Turn} {b : Binding Expr} (h : t.binding? = some b) :
    b.var.id = t.before.2.next ∧ t.after.2.next = t.before.2.next + 1 := by
  cases t.effect with
  | bound v value _ _ hid hnext _ _ hbind =>
      cases hbind.symm.trans h
      exact ⟨hid, hnext⟩
  | began _ _ _ _ _ hbind | ended _ _ _ _ hbind | idle _ _ _ _ hbind =>
      rw [hbind] at h
      contradiction

theorem next_le_after (t : Turn) : t.before.2.next ≤ t.after.2.next := by
  cases t.effect with
  | began _ _ _ hnext | ended _ hnext => exact Nat.le_of_eq hnext.symm
  | bound _ _ _ _ _ hnext => exact hnext ▸ Nat.le_succ _
  | idle _ hnext => exact hnext

end Turn

/-! ## What a run has done so far

Each open block is tied to the turn that began it and to what has been bound directly inside since. The
same facts about the blocks further out were true when that turn was taken.
-/

/-- The open blocks are those that the turns have begun and not ended. -/
inductive Pending : List Turn → List (Block Expr) → Prop where
  | empty (turns : List Turn) : Pending turns []
  | block {past inside : List Turn} {start : Turn} {block : Block Expr} {outer : List (Block Expr)}
      (pending : Pending past outer) (call : start.call = .beginBlock block.kind)
      (depth : start.depth = outer.length) (above : ∀ t ∈ inside, outer.length < t.depth)
      (bindings : block.bindings = inside.filterMap (Turn.bindingAt? (outer.length + 1))) :
      Pending (past ++ start :: inside) (block :: outer)

namespace Pending

variable {turns more : List Turn} {block : Block Expr} {blocks outer : List (Block Expr)} {t : Turn}

/-- Turns that are at least as deep and bind nothing in the innermost block leave the open blocks alone. -/
theorem append (h : Pending turns blocks) (hdepth : ∀ t ∈ more, blocks.length ≤ t.depth)
    (hbinding : ∀ t ∈ more, t.bindingAt? blocks.length = none) : Pending (turns ++ more) blocks := by
  cases h with
  | empty => exact .empty _
  | @block past inside start block outer hpending hcall hstart habove hbindings =>
      have hnone : more.filterMap (Turn.bindingAt? (outer.length + 1)) = [] :=
        List.filterMap_eq_nil_iff.mpr hbinding
      rw [List.append_assoc, List.cons_append]
      refine .block hpending hcall hstart ?_ ?_
      · intro t ht
        rcases List.mem_append.mp ht with ht | ht
        · exact habove t ht
        · exact hdepth t ht
      · rw [List.filterMap_append, hnone, List.append_nil, hbindings]

/-- A turn that binds adds its binding to the innermost block. -/
theorem bound {binding : Binding Expr} (h : Pending turns (block :: outer))
    (hdepth : t.depth = outer.length + 1) (hbinding : t.binding? = some binding) :
    Pending (turns ++ [t]) ({ block with bindings := block.bindings ++ [binding] } :: outer) := by
  cases h with
  | @block past inside start _ _ hpending hcall hstart habove hbindings =>
      rw [List.append_assoc, List.cons_append]
      refine .block hpending hcall hstart ?_ ?_
      · intro u hu
        rcases List.mem_append.mp hu with hu | hu
        · exact habove u hu
        · rw [List.mem_singleton.mp hu, hdepth]
          exact Nat.lt_succ_self _
      · simp [Turn.bindingAt?, hdepth, hbinding, hbindings]

/-- With the innermost block gone, what was done in it counts for none of the others. -/
theorem ended (h : Pending turns (block :: outer)) (hdepth : t.depth = outer.length + 1) :
    Pending (turns ++ [t]) outer := by
  cases h with
  | @block past inside start _ _ hpending hcall hstart habove hbindings =>
      have hdeeper {u : Turn} (hu : u ∈ inside ++ [t]) : outer.length < u.depth := by
        rcases List.mem_append.mp hu with hu | hu
        · exact habove u hu
        · rw [List.mem_singleton.mp hu, hdepth]
          exact Nat.lt_succ_self _
      rw [List.append_assoc, List.cons_append]
      refine hpending.append ?_ ?_
      · intro u hu
        rcases List.mem_cons.mp hu with rfl | hu
        · exact Nat.le_of_eq hstart.symm
        · exact Nat.le_of_lt (hdeeper hu)
      · intro u hu
        rcases List.mem_cons.mp hu with rfl | hu
        · have hnone : u.binding? = none := Turn.binding?_eq_none (by simp [hcall])
          simp [Turn.bindingAt?, hnone]
        · simp [Turn.bindingAt?, Nat.ne_of_gt (hdeeper hu)]

theorem next (h : Pending turns t.before.1.openBlocks) :
    Pending (turns ++ [t]) t.after.1.openBlocks := by
  cases t.effect with
  | began kind hcall hopen =>
      rw [hopen]
      exact .block h hcall rfl nofun rfl
  | @bound v value block outer hblocks hopen _ _ _ _ hbind =>
      rw [hblocks] at h
      rw [hopen]
      exact h.bound (by simp [Turn.depth_eq, hblocks]) hbind
  | ended hblocks =>
      rw [hblocks] at h
      exact h.ended (by simp [Turn.depth_eq, hblocks])
  | idle hopen _ _ _ hbind =>
      rw [hopen]
      refine h.append ?_ ?_
      · simp [Turn.depth_eq]
      · simp [Turn.bindingAt?, hbind]

end Pending

theorem filterMap_concat {α β : Type} (f : α → Option β) (xs : List α) (x : α) :
    (xs ++ [x]).filterMap f = xs.filterMap f ++ (f x).toList := by
  rw [List.filterMap_append]
  cases hx : f x <;> simp [hx]

/-- What the turns so far have to do with what they leave. -/
structure Accounts (turns : List Turn) (s : Site) : Prop where
  /-- Every block that was begun has been ended or is open. -/
  depth : s.1.openBlocks.length + (turns.filterMap Turn.returned?).length = turns.countP Turn.begins
  pending : Pending turns s.1.openBlocks
  /-- Every binding is in one block. -/
  bindings : (turns.filterMap Turn.binding?).Perm
    ((turns.filterMap Turn.returned?).flatMap Block.bindings ++ s.1.openBlocks.flatMap Block.bindings)
  increasing : (turns.filterMap Turn.binding?).Pairwise (·.var.id < ·.var.id)
  used : ∀ b ∈ turns.filterMap Turn.binding?, b.var.id < s.2.next

namespace Accounts

variable {turns : List Turn} {s : Site}

theorem start (ordinaryStem dataflowStem : String) (supply : VarSupply) :
    Accounts [] (new ordinaryStem dataflowStem, supply) where
  depth := rfl
  pending := .empty _
  bindings := .nil
  increasing := .nil
  used := nofun

theorem concat {t : Turn} (h : Accounts turns t.before) : Accounts (turns ++ [t]) t.after where
  depth := by
    have hbefore := h.depth
    have hafter := t.length_openBlocks_after
    rw [filterMap_concat, List.length_append, List.countP_append]
    cases hbegins : t.begins <;> simp [hbegins] at hafter ⊢ <;> omega
  pending := h.pending.next
  bindings := by
    rw [filterMap_concat, filterMap_concat, List.flatMap_append, List.append_assoc]
    refine (h.bindings.append_right _).trans ?_
    rw [List.append_assoc]
    exact t.bindings_after.append_left _
  increasing := by
    rw [filterMap_concat]
    refine List.pairwise_append.mpr ⟨h.increasing, ?_, ?_⟩
    · cases t.binding? <;> simp
    · intro b hb b' hb'
      rw [(Turn.id_of_binding? (Option.mem_toList.mp hb')).1]
      exact h.used b hb
  used b hb := by
    rw [filterMap_concat] at hb
    rcases List.mem_append.mp hb with hb | hb
    · exact Nat.lt_of_lt_of_le (h.used b hb) t.next_le_after
    · obtain ⟨hid, hnext⟩ := Turn.id_of_binding? (Option.mem_toList.mp hb)
      rw [hid, hnext]
      exact Nat.lt_succ_self _

theorem append (h : Accounts turns s) (calls : List Call) :
    Accounts (turns ++ s.turns calls) (s.afterAll calls) := by
  induction calls generalizing turns s with
  | nil => simpa [Site.turns, Site.afterAll] using h
  | cons call calls ih =>
      have hstep : Accounts (turns ++ [⟨s, call⟩]) (Turn.after ⟨s, call⟩) := concat h
      simpa [Site.turns, Site.afterAll] using ih hstep

/-- The beginning of the block that a turn returns. -/
theorem start_of_returned {t : Turn} {block : Block Expr} (h : Accounts turns t.before)
    (hret : t.returned? = some block) :
    ∃ past start inside, turns = past ++ start :: inside ∧ start.call = .beginBlock block.kind ∧
      start.depth + 1 = t.depth ∧ (∀ u ∈ inside, t.depth ≤ u.depth) ∧
      block.bindings = inside.filterMap (Turn.bindingAt? t.depth) := by
  have hpending := h.pending
  cases t.effect with
  | began _ _ _ _ hnone | bound _ _ _ _ _ _ _ hnone | idle _ _ _ hnone =>
      rw [hnone] at hret
      contradiction
  | ended hblocks _ _ hsome =>
      cases hsome.symm.trans hret
      have hturn : t.depth = t.after.1.openBlocks.length + 1 := by simp [Turn.depth_eq, hblocks]
      rw [hblocks] at hpending
      cases hpending with
      | @block past inside start _ _ _ hcall hstart habove hbindings =>
          rw [hturn]
          exact ⟨past, start, inside, rfl, hcall, congrArg (· + 1) hstart, habove, hbindings⟩

end Accounts

namespace Site

variable {s : Site} {t : Turn} {past later : List Turn} {calls : List Call}

/-- A turn of a run meets what a shorter run leaves. -/
theorem exists_calls_of_turns_eq (h : s.turns calls = past ++ t :: later) :
    ∃ before, past = s.turns before ∧ t.before = s.afterAll before := by
  induction past generalizing s calls with
  | nil =>
      cases calls with
      | nil => contradiction
      | cons call calls =>
          cases h
          exact ⟨[], rfl, rfl⟩
  | cons u past ih =>
      cases calls with
      | nil => contradiction
      | cons call calls =>
          obtain ⟨rfl, htail⟩ := List.cons.inj h
          obtain ⟨before, rfl, hbefore⟩ := ih htail
          exact ⟨call :: before, rfl, hbefore⟩

end Site

namespace Turn

/-- A call fails exactly if it is to bind or to end a block and none is open. -/
theorem outcome_eq_error {t : Turn} {err : EmitterError} {s : Site} :
    t.outcome = .error err s ↔
      t.depth = 0 ∧ s = t.before ∧
        ((∃ e, t.call = .emit e) ∧ err = .noOpenBlock .emit ∨
          t.call = .endBlock ∧ err = .noOpenBlock .endBlock) := by
  obtain ⟨⟨w, supply⟩, call⟩ := t
  have hdepth : depth ⟨(w, supply), call⟩ = 0 ↔ w.openBlocks = [] := List.length_eq_zero_iff
  rw [hdepth]
  cases call with
  | beginBlock kind | normalize e | drawn count => simp [outcome, Call.run]
  | emit e =>
      cases hopen : w.openBlocks with
      | nil => simp [outcome, run_emit_of_closed supply hopen, eq_comm, and_comm]
      | cons block outer =>
          obtain ⟨v, w', -, -, hrun⟩ := run_emit_of_open supply hopen e
          simp [outcome, hrun]
  | endBlock =>
      cases hopen : w.openBlocks with
      | nil => simp [outcome, run_endBlock_of_closed supply hopen, eq_comm, and_comm]
      | cons block outer => simp [outcome, run_endBlock_of_open supply hopen]

/-- With a block open, to bind returns a variable and to end returns a block. -/
theorem outcome_eq_ok {t : Turn} (h : t.depth ≠ 0) :
    (∀ e, t.call = .emit e → ∃ v s, t.outcome = .ok (.var v) s) ∧
      (t.call = .endBlock → ∃ block s, t.outcome = .ok (.block block) s) := by
  obtain ⟨⟨w, supply⟩, call⟩ := t
  obtain ⟨block, outer, hopen⟩ := List.exists_cons_of_length_pos (Nat.pos_of_ne_zero h)
  refine ⟨?_, ?_⟩
  · rintro e rfl
    obtain ⟨v, w', -, -, hrun⟩ := run_emit_of_open supply hopen e
    exact ⟨v, _, hrun⟩
  · rintro rfl
    exact ⟨block, _, run_endBlock_of_open supply hopen⟩

end Turn

/-- After any calls of a new emitter, some of which may have failed: the open blocks are those begun and not
ended; binding and ending fail exactly if there are none, and change nothing then; an end returns what was
bound directly inside since the last beginning that was not ended, which is the last call at a smaller
depth; and every binding is in exactly one of the blocks returned or open. -/
theorem blocks_of_run (ordinaryStem dataflowStem : String) (supply : VarSupply) (calls : List Call) :
    let start : Site := (new ordinaryStem dataflowStem, supply)
    let turns := start.turns calls
    let last := start.afterAll calls
    last.1.depth = turns.countP Turn.begins - (turns.filterMap Turn.returned?).length ∧
    (turns.filterMap Turn.returned?).length ≤ turns.countP Turn.begins ∧
    (∀ t ∈ turns, ∀ err s, t.outcome = .error err s ↔
      t.depth = 0 ∧ s = t.before ∧
        ((∃ e, t.call = .emit e) ∧ err = .noOpenBlock .emit ∨
          t.call = .endBlock ∧ err = .noOpenBlock .endBlock)) ∧
    (∀ t ∈ turns, t.depth ≠ 0 →
      (∀ e, t.call = .emit e → ∃ v s, t.outcome = .ok (.var v) s) ∧
        (t.call = .endBlock → ∃ block s, t.outcome = .ok (.block block) s)) ∧
    (∀ t ∈ turns, ∀ e, t.call = .normalize e → t.outcome = .ok (.expr e.normalize) t.before) ∧
    (∀ past t later block, turns = past ++ t :: later → t.returned? = some block →
      ∃ older opening inside, past = older ++ opening :: inside ∧
        opening.call = .beginBlock block.kind ∧ opening.depth + 1 = t.depth ∧
        (∀ u ∈ inside, t.depth ≤ u.depth) ∧
        block.bindings = inside.filterMap (Turn.bindingAt? t.depth)) ∧
    (turns.filterMap Turn.binding?).Perm
      ((turns.filterMap Turn.returned?).flatMap Block.bindings ++ last.1.openBlocks.flatMap Block.bindings) ∧
    (turns.filterMap Turn.binding?).Pairwise (·.var.id < ·.var.id) := by
  intro start turns last
  have hstart : Accounts [] start := .start ordinaryStem dataflowStem supply
  have haccounts : Accounts turns last := hstart.append calls
  have hdepth : last.1.depth + (turns.filterMap Turn.returned?).length = turns.countP Turn.begins :=
    haccounts.depth
  refine ⟨by omega, by omega, fun t _ err s => Turn.outcome_eq_error, fun t _ => Turn.outcome_eq_ok, ?_, ?_,
    haccounts.bindings, haccounts.increasing⟩
  · rintro ⟨site, call⟩ - e rfl
    rfl
  · intro past t later block hturns hret
    obtain ⟨before, rfl, hbefore⟩ := Site.exists_calls_of_turns_eq hturns
    have hpast : Accounts (start.turns before) t.before := by
      rw [hbefore]
      exact hstart.append before
    exact hpast.start_of_returned hret

theorem blocks_of_run_nested :
    let start : Site := (new "gv" "lv", ⟨0⟩)
    let turns := start.turns [.beginBlock .ordinary, .emit (.op "a"), .beginBlock .dataflow, .emit (.op "b"),
      .endBlock, .emit (.op "c"), .endBlock, .emit (.op "d")]
    ∃ past t later block, turns = past ++ t :: later ∧ t.returned? = some block ∧
      block.bindings.map (·.var.id) = [0, 2] ∧
      ∃ older opening inside, past = older ++ opening :: inside ∧
        opening.call = .beginBlock block.kind ∧ opening.depth + 1 = t.depth ∧
        (∀ u ∈ inside, t.depth ≤ u.depth) ∧
        block.bindings = inside.filterMap (Turn.bindingAt? t.depth) := by
  intro start turns
  have hturns : turns = turns.take 6 ++ turns[6] :: turns.drop 7 := rfl
  have hruns := blocks_of_run "gv" "lv" ⟨0⟩ [.beginBlock .ordinary, .emit (.op "a"), .beginBlock .dataflow,
    .emit (.op "b"), .endBlock, .emit (.op "c"), .endBlock, .emit (.op "d")]
  obtain ⟨-, -, -, -, -, hblocks, -⟩ := hruns
  exact ⟨_, turns[6], _, _, hturns, rfl, rfl, hblocks _ _ _ _ hturns rfl⟩

end ScopedBuilder.BlockWriter
