import ScopedBuilder.Proofs.InnermostScope
import ScopedBuilder.Proofs.Locality
import ScopedBuilder.Proofs.SingleAssignment

/-!
# The order of bindings in an open function

A function keeps its finished blocks and, in its emitter, those that are still open. Read one after the
other they hold every binding that was made in it. A block that is entered directly on another one ends it
first, so that one block is open at a time; but from a module that was opened inside the function the block
below is not seen, and stays open. If the inner block is then ended with bindings in it, it overtakes
the block around it, and from then on the bindings are out of order.
-/

namespace ScopedBuilder

/-! ## Increasing bindings -/

/-- Bindings with increasing identities, as they were made. -/
abbrev Increasing (bindings : List (Binding Expr)) : Prop :=
  bindings.Pairwise fun b c => b.var.id < c.var.id

/-- Two pieces are in order both ways only if one of them is empty. -/
theorem Increasing.eq_nil_or_eq_nil {inner outer : List (Binding Expr)}
    (h : Increasing (outer ++ inner)) (h' : Increasing (inner ++ outer)) : inner = [] ∨ outer = [] := by
  cases inner with
  | nil => exact .inl rfl
  | cons b inner =>
      cases outer with
      | nil => exact .inr rfl
      | cons c outer =>
          have hlt := (List.pairwise_append.mp h).2.2 c List.mem_cons_self b List.mem_cons_self
          have hgt := (List.pairwise_append.mp h').2.2 b List.mem_cons_self c List.mem_cons_self
          omega

/-- Increasing lists with the same bindings are equal. -/
theorem Increasing.eq_of_perm {bs cs : List (Binding Expr)} (hb : Increasing bs) (hc : Increasing cs)
    (hperm : bs.Perm cs) : bs = cs :=
  List.Perm.eq_of_pairwise (fun _ _ _ _ hlt hgt => absurd hlt (Nat.lt_asymm hgt)) hb hc hperm

theorem Increasing.concat_iff {bs : List (Binding Expr)} {c : Binding Expr}
    (h : ∀ b ∈ bs, b.var.id < c.var.id) : Increasing (bs ++ [c]) ↔ Increasing bs := by
  rw [Increasing, List.pairwise_append]
  refine ⟨And.left, fun hbs => ⟨hbs, List.pairwise_singleton _ _, ?_⟩⟩
  intro b hb d hd
  rw [List.mem_singleton.mp hd]
  exact h b hb

/-! ## What a function holds -/

namespace FuncDraft

variable {f f' : FuncDraft BlockWriter} {block : Block Expr} {outer : List (Block Expr)}

/-- The bindings of the finished blocks and of the open ones, outermost first. -/
def held (f : FuncDraft BlockWriter) : List (Binding Expr) :=
  (f.blocks ++ f.emitter.openBlocks.reverse).flatMap (·.bindings)

/-- Whether the end of the innermost block puts its bindings before earlier ones: there are some in it, and
some in an open block around it. -/
def overtakes (f : FuncDraft BlockWriter) : Bool :=
  match f.emitter.openBlocks with
  | [] => false
  | block :: outer => !block.bindings.isEmpty && outer.any (!·.bindings.isEmpty)

@[simp] theorem held_beginBlock (kind : BlockKind) : (f.beginBlock kind).held = f.held := by
  simp [held]

theorem held_of_open (h : f.emitter.openBlocks = block :: outer) :
    f.held = f.blocks.flatMap (·.bindings) ++
      (outer.reverse.flatMap (·.bindings) ++ block.bindings) := by
  simp [held, h]

theorem held_finishBlock :
    (f.finishBlock block outer).held = f.blocks.flatMap (·.bindings) ++
      (block.bindings ++ outer.reverse.flatMap (·.bindings)) := by
  rw [held, blocks_finishBlock, openBlocks_finishBlock]
  cases hempty : block.bindings.isEmpty <;> simp_all

theorem held_addBinding (h : f.emitter.openBlocks = block :: outer) (b : Binding Expr) :
    (f.addBinding block outer b).held = f.held ++ [b] := by
  rw [held_of_open h, held]
  simp [addBinding]

theorem overtakes_eq_false_iff (h : f.emitter.openBlocks = block :: outer) :
    f.overtakes = false ↔
      block.bindings = [] ∨ outer.reverse.flatMap (·.bindings) = [] := by
  simp only [overtakes, h, Bool.and_eq_false_iff, Bool.not_eq_false', List.isEmpty_iff,
    List.any_eq_false, Bool.not_eq_true', Bool.not_eq_false, List.flatMap_eq_nil_iff,
    List.mem_reverse]

end FuncDraft

/-! ## What has been emitted -/

/-- The bindings that were made in a function, in their order, and whether a block has overtaken another
one. -/
structure Emissions where
  bindings : List (Binding Expr)
  overtaken : Bool

namespace Emissions

def empty : Emissions := ⟨[], false⟩

def bind (made : Emissions) (b : Binding Expr) : Emissions :=
  { made with bindings := made.bindings ++ [b] }

def overtake (made : Emissions) (now : Bool) : Emissions :=
  { made with overtaken := made.overtaken || now }

@[simp] theorem overtake_false (made : Emissions) : made.overtake false = made := by
  simp [overtake]

end Emissions

/-- A function holds the bindings that were made in it, in order unless a block has overtaken another one. All
identities are older than the next one, and the open blocks are always in order. -/
structure FuncDraft.Emits (f : FuncDraft BlockWriter) (made : Emissions) (next : Nat) : Prop where
  perm : f.held.Perm made.bindings
  increasing : Increasing made.bindings
  older : ∀ b ∈ made.bindings, b.var.id < next
  increasing_open : Increasing (f.emitter.openBlocks.reverse.flatMap (·.bindings))
  increasing_held_iff : Increasing f.held ↔ made.overtaken = false

namespace FuncDraft.Emits

variable {f f' : FuncDraft BlockWriter} {made : Emissions} {next : Nat} {block : Block Expr}
  {outer : List (Block Expr)}

theorem start {w : BlockWriter} (h : w.openBlocks = []) (kind : BlockKind) :
    ((FuncDraft.new w).beginBlock kind).Emits .empty next := by
  have hheld : ((FuncDraft.new w).beginBlock kind).held = [] := by
    simp [held, FuncDraft.new, h]
  refine ⟨hheld ▸ .nil, .nil, fun _ hb => absurd hb List.not_mem_nil, ?_, ?_⟩
  · simp [FuncDraft.new, h]
  · rw [hheld]
    exact iff_of_true .nil rfl

/-- The bindings are in order exactly if no block has overtaken another one. -/
theorem held_eq_iff (h : f.Emits made next) : f.held = made.bindings ↔ made.overtaken = false := by
  rw [← h.increasing_held_iff]
  constructor
  · intro heq
    rw [heq]
    exact h.increasing
  · intro hheld
    exact hheld.eq_of_perm h.increasing h.perm

theorem mono {next' : Nat} (h : f.Emits made next) (hle : next ≤ next') : f.Emits made next' :=
  { h with older := fun b hb => Nat.lt_of_lt_of_le (h.older b hb) hle }

theorem rework (h : f.Emits made next) (hemitter : f'.emitter = f.emitter)
    (hblocks : f'.blocks = f.blocks) : f'.Emits made next := by
  have hheld : f'.held = f.held := by
    rw [held, held, hemitter, hblocks]
  obtain ⟨hperm, hincreasing, holder, hopen, hiff⟩ := h
  exact ⟨hheld ▸ hperm, hincreasing, holder, hemitter ▸ hopen, hheld ▸ hiff⟩

theorem beginBlock (h : f.Emits made next) (kind : BlockKind) : (f.beginBlock kind).Emits made next where
  perm := by simpa using h.perm
  increasing := h.increasing
  older := h.older
  increasing_open := by simpa using h.increasing_open
  increasing_held_iff := by simpa using h.increasing_held_iff

/-- The end of the innermost block puts its bindings before those of the blocks around it. -/
theorem finishBlock (h : f.Emits made next) (hopen : f.emitter.openBlocks = block :: outer) :
    (f.finishBlock block outer).Emits (made.overtake f.overtakes) next where
  perm := by
    refine .trans ?_ h.perm
    rw [held_finishBlock, held_of_open hopen]
    exact List.perm_append_comm.append_left _
  increasing := h.increasing
  older := h.older
  increasing_open := by
    have hincreasing := h.increasing_open
    rw [hopen, List.reverse_cons, List.flatMap_append] at hincreasing
    rw [openBlocks_finishBlock]
    exact (List.pairwise_append.mp hincreasing).1
  increasing_held_iff := by
    have hincreasing : Increasing (outer.reverse.flatMap (·.bindings) ++ block.bindings) := by
      simpa [hopen] using h.increasing_open
    have hsame : f.overtakes = false → (f.finishBlock block outer).held = f.held := by
      intro hnone
      rw [held_finishBlock, held_of_open hopen]
      rcases (overtakes_eq_false_iff hopen).mp hnone with hempty | hempty <;> simp [hempty]
    rw [Emissions.overtake, Bool.or_eq_false_iff, ← h.increasing_held_iff]
    -- Two pieces that change places are in order only if one of them is empty, and then nothing has moved.
    constructor
    · intro hheld
      have hpieces := hheld
      rw [held_finishBlock] at hpieces
      have hnone : f.overtakes = false := (overtakes_eq_false_iff hopen).mpr
        (hincreasing.eq_nil_or_eq_nil (List.pairwise_append.mp hpieces).2.1)
      exact ⟨hsame hnone ▸ hheld, hnone⟩
    · rintro ⟨hheld, hnone⟩
      rw [hsame hnone]
      exact hheld

/-- A binding with the next identity comes last. -/
theorem addBinding (h : f.Emits made next) (hopen : f.emitter.openBlocks = block :: outer)
    {b : Binding Expr} (hb : b.var.id = next) :
    (f.addBinding block outer b).Emits (made.bind b) (next + 1) := by
  have hmade : ∀ c ∈ made.bindings, c.var.id < b.var.id := hb ▸ h.older
  have hheld : ∀ c ∈ f.held, c.var.id < b.var.id := fun c hc => hmade c (h.perm.mem_iff.mp hc)
  refine ⟨?_, (Increasing.concat_iff hmade).mpr h.increasing, ?_, ?_, ?_⟩
  · rw [held_addBinding hopen]
    exact h.perm.append_right [b]
  · rintro c hc
    rcases List.mem_append.mp hc with hc | hc
    · exact Nat.lt_succ_of_lt (h.older c hc)
    · rw [List.mem_singleton.mp hc, hb]
      exact Nat.lt_succ_self next
  · have hopened : (f.addBinding block outer b).emitter.openBlocks.reverse.flatMap (·.bindings) =
        f.emitter.openBlocks.reverse.flatMap (·.bindings) ++ [b] := by
      simp [FuncDraft.addBinding, hopen]
    rw [hopened, Increasing.concat_iff]
    · exact h.increasing_open
    · intro c hc
      exact hheld c (by simp [held, hc])
  · rw [held_addBinding hopen, Increasing.concat_iff hheld]
    exact h.increasing_held_iff

theorem endBlock (h : f.Emits made next) (hend : endBlock f = .ok () f') :
    f'.Emits (made.overtake f.overtakes) next := by
  obtain ⟨block, outer, hopen, rfl⟩ := endBlock_eq_ok.mp hend
  exact h.finishBlock hopen

theorem enterBlock {kind : BlockKind} {enclosing : Option BlockKind} (h : f.Emits made next)
    (henter : enterBlock kind enclosing f = .ok () f') :
    f'.Emits (made.overtake (enclosing.isSome && f.overtakes)) next := by
  cases enclosing with
  | none =>
      cases henter
      simpa using h.beginBlock kind
  | some k =>
      obtain ⟨f₁, hend, rfl⟩ := enterBlock_some_eq_ok.mp henter
      exact (h.endBlock hend).beginBlock kind

theorem leaveBlock {enclosing : Option BlockKind} (h : f.Emits made next)
    (hleave : leaveBlock enclosing f = .ok () f') : f'.Emits (made.overtake f.overtakes) next := by
  cases enclosing with
  | none =>
      rw [leaveBlock_none_eq] at hleave
      exact h.endBlock hleave
  | some k =>
      rw [leaveBlock_some_eq k k] at hleave
      exact h.enterBlock hleave

theorem emit {e : Expr} {v : Var} {supply supply' : VarSupply} (h : f.Emits made supply.next)
    (hemit : emit e (f, supply) = .ok v (f', supply')) :
    f'.Emits (made.bind ⟨v, e.normalize⟩) supply'.next := by
  cases hopen : f.emitter.openBlocks with
  | nil => simp [FuncDraft.emit, Emitter.emit, BlockWriter.emit, hopen] at hemit
  | cons block outer =>
      cases hemit.symm.trans (emit_of_open hopen)
      exact h.addBinding hopen rfl

end FuncDraft.Emits

/-! ## The functions at their depths -/

/-- Every function on the stack has a property that may depend on its depth. -/
def Frames.AtDepths {σ : Type} (holds : Nat → FuncDraft σ → Prop) : Frames σ → Prop
  | [] => True
  | .function f :: below => holds below.length f ∧ AtDepths holds below
  | .module _ :: below | .block _ :: below => AtDepths holds below

namespace Frames.AtDepths

variable {σ : Type} {holds holds' : Nat → FuncDraft σ → Prop} {frames above below : Frames σ}

theorem imp (h : AtDepths holds frames)
    (himp : ∀ depth < frames.length, ∀ g, holds depth g → holds' depth g) : AtDepths holds' frames := by
  induction frames with
  | nil => trivial
  | cons x below ih =>
      have hbelow : ∀ depth < below.length, ∀ g, holds depth g → holds' depth g :=
        fun depth hlt => himp depth (Nat.lt_succ_of_lt hlt)
      cases x with
      | function g => exact ⟨himp below.length (Nat.lt_succ_self _) g h.1, ih h.2 hbelow⟩
      | module m | block kind => exact ih h hbelow

theorem of_append (h : AtDepths holds (above ++ below)) : AtDepths holds below := by
  induction above with
  | nil => exact h
  | cons x above ih =>
      cases x with
      | function f => exact ih h.2
      | module m | block kind => exact ih h

/-- What is above every function does not count. -/
theorem append_iff (habove : ∀ x ∈ above, x.isFunction = false) :
    AtDepths holds (above ++ below) ↔ AtDepths holds below := by
  induction above with
  | nil => exact Iff.rfl
  | cons x above ih =>
      obtain ⟨hx, hrest⟩ := List.forall_mem_cons.mp habove
      cases x with
      | function g => cases hx
      | module m | block kind => exact ih hrest

/-- Work on the innermost function adds to its emissions only. -/
theorem emits_split {frames above below : Frames BlockWriter} {f f' : FuncDraft BlockWriter}
    {made now made' : Nat → Emissions} {next next' : Nat}
    (h : AtDepths (fun depth f => f.Emits (made depth) next) frames)
    (hsplit : splitFunction? frames = some (above, f, below)) (hle : next ≤ next')
    (hmade : ∀ depth, made' depth = if below.length = depth then now depth else made depth)
    (hf : f.Emits (made below.length) next → f'.Emits (now below.length) next') :
    AtDepths (fun depth f => f.Emits (made' depth) next') (above ++ .function f' :: below) := by
  obtain ⟨rfl, habove⟩ := splitFunction?_eq_some_iff.mp hsplit
  rw [append_iff habove] at h ⊢
  have hinner : f'.Emits (made' below.length) next' := by
    rw [hmade, if_pos rfl]
    exact hf h.1
  refine ⟨hinner, h.2.imp fun depth hlt g hg => ?_⟩
  rw [hmade, if_neg (Nat.ne_of_gt hlt)]
  exact hg.mono hle

theorem replaceBlock (h : AtDepths holds frames) (kind : BlockKind) :
    AtDepths holds (frames.replaceBlock kind) := by
  induction frames with
  | nil => trivial
  | cons x below ih =>
      cases x with
      | function f => exact ⟨(length_replaceBlock kind below).symm ▸ h.1, ih h.2⟩
      | module m => exact ih h
      | block previous => exact h

end Frames.AtDepths

/-! ## The emissions of the open functions -/

/-- Whether an operation ends the innermost block if it succeeds: it opens one directly upon it, or closes
it. -/
def Action.endsBlock (frames : Frames BlockWriter) : Action → Bool
  | openBlock _ | pushBlock _ => frames.topBlock?.isSome
  | close _ | closeScope => frames.innermostScope?.any (·.kind = .block)
  | _ => false

/-- What an operation that succeeds adds to the emissions of the innermost function. -/
def Emissions.add (made : Emissions) (frames : Frames BlockWriter) (a : Action) (reply : Reply) :
    Emissions :=
  match a.binds?, reply with
  | some e, .var v => made.bind ⟨v, e.normalize⟩
  | _, _ => made.overtake (a.endsBlock frames && frames.nearestFunction?.any (·.overtakes))

namespace Step

/-- The emissions at a depth after a step: a function that is opened there has none, and an operation adds to
them if the innermost function is there. -/
def noteEmission (depth : Nat) (s : Step BlockWriter) (made : Emissions) : Emissions :=
  match s.event, s.outcome with
  | .action .openFunction, .ok .. => if s.before.builder.depth = depth then .empty else made
  | .action a, .ok reply _ =>
    if s.before.builder.frames.functionDepth? = some depth then made.add s.before.builder.frames a reply
    else made
  | _, _ => made

end Step

/-- What has been emitted in the function at a depth since it was opened. -/
def emissions (depth : Nat) (steps : List (Step BlockWriter)) : Emissions :=
  steps.foldl (fun made s => s.noteEmission depth made) .empty

section Runs

variable {w w' : Workspace BlockWriter} {a : Action} {reply : Reply} {made : Emissions} {depth : Nat}
  {config : Config}

namespace Step

theorem noteEmission_openFunction (hrun : Action.openFunction.run w = .ok reply w') :
    noteEmission depth ⟨w, .action .openFunction⟩ made =
      if w.builder.depth = depth then .empty else made := by
  simp [noteEmission, outcome, Event.run, hrun]

theorem noteEmission_of_ok (ha : a ≠ .openFunction) (hrun : a.run w = .ok reply w') :
    noteEmission depth ⟨w, .action a⟩ made =
      if w.builder.frames.functionDepth? = some depth then made.add w.builder.frames a reply
      else made := by
  cases a <;> first | exact absurd rfl ha | simp [noteEmission, outcome, Event.run, hrun]

theorem noteEmission_of_error {e : BuildError} (hrun : a.run w = .error e w') :
    noteEmission depth ⟨w, .action a⟩ made = made := by
  simp [noteEmission, outcome, Event.run, hrun]

/-- What neither binds nor ends a block is not noted. -/
theorem noteEmission_of_silent (ha : a ≠ .openFunction) (hbinds : a.binds? = none)
    (hends : a.endsBlock w.builder.frames = false) (hrun : a.run w = .ok reply w') :
    noteEmission depth ⟨w, .action a⟩ made = made := by
  simp [noteEmission_of_ok ha hrun, Emissions.add, hbinds, hends]

/-- The end of a block is noted for the innermost function. -/
theorem noteEmission_of_split {above below : Frames BlockWriter} {f : FuncDraft BlockWriter}
    (ha : a ≠ .openFunction) (hbinds : a.binds? = none)
    (hsplit : w.builder.frames.splitFunction? = some (above, f, below)) (hrun : a.run w = .ok reply w') :
    noteEmission depth ⟨w, .action a⟩ made =
      if below.length = depth then made.overtake (a.endsBlock w.builder.frames && f.overtakes)
      else made := by
  simp [noteEmission_of_ok ha hrun, Emissions.add, hbinds, Frames.functionDepth?_of_split hsplit,
    Frames.nearestFunction?, hsplit]

/-- A binding is noted for the innermost function. -/
theorem noteEmission_of_binds {above below : Frames BlockWriter} {f : FuncDraft BlockWriter} {e : Expr}
    {v : Var} (hbinds : a.binds? = some e)
    (hsplit : w.builder.frames.splitFunction? = some (above, f, below))
    (hrun : a.run w = .ok (.var v) w') :
    noteEmission depth ⟨w, .action a⟩ made =
      if below.length = depth then made.bind ⟨v, e.normalize⟩ else made := by
  have ha : a ≠ .openFunction := by
    rintro rfl
    cases hbinds
  simp [noteEmission_of_ok ha hrun, Emissions.add, hbinds, Frames.functionDepth?_of_split hsplit]

end Step

open Frames

theorem Closing.emits {made : Nat → Emissions} {scope : Scope} (h : Closing w w')
    (ha : a.closes scope = true) (hscope : w.builder.frames.innermostScope? = some scope)
    (hrun : a.run w = .ok reply w')
    (hall : AtDepths (fun depth f => f.Emits (made depth) w.supply.next) w.builder.frames) :
    AtDepths (fun depth f =>
      f.Emits (Step.noteEmission depth ⟨w, .action a⟩ (made depth)) w'.supply.next) w'.builder.frames := by
  have hopen : a ≠ .openFunction := by
    rintro rfl
    cases ha
  have hbinds : a.binds? = none := by cases a <;> first | rfl | cases ha
  have hends : a.endsBlock w.builder.frames = decide (scope.kind = .block) := by
    cases a with
    | close | closeScope => simp [Action.endsBlock, hscope]
    | _ => cases ha
  have hquiet : scope.kind ≠ .block → ∀ depth,
      Step.noteEmission depth ⟨w, .action a⟩ (made depth) = made depth := by
    intro hkind depth
    exact Step.noteEmission_of_silent hopen hbinds (hends.trans (decide_eq_false hkind)) hrun
  cases h with
  | @block kind rest above below f f' hframes hsplit hne hleave =>
      rw [hframes, innermostScope?_block hsplit hne] at hscope
      cases hscope
      have hsplit' : w.builder.frames.splitFunction? = some (.block kind :: above, f, below) := by
        simp [hframes, hsplit]
      rw [hframes] at hall
      have hrest : AtDepths _ rest := hall
      refine hrest.emits_split hsplit (Nat.le_refl _)
        (fun depth => Step.noteEmission_of_split hopen hbinds hsplit' hrun) fun hf => ?_
      rw [hends]
      exact hf.leaveBlock hleave
  | function => trivial
  | definition hframes _ _ _ =>
      rw [hframes] at hall hscope
      cases hscope
      exact AtDepths.imp hall.2 fun depth _ g hg => (hquiet nofun depth).symm ▸ hg
  | module hframes _ _ =>
      rw [hframes] at hall hscope
      cases hscope
      exact AtDepths.imp hall fun depth _ g hg => (hquiet nofun depth).symm ▸ hg

/-- Every operation keeps account of what is emitted. -/
theorem Change.emits {made : Nat → Emissions} (h : Change w a reply w') (hrun : a.run w = .ok reply w')
    (hnew : w.builder.newEmitter = .ofConfig)
    (hall : AtDepths (fun depth f => f.Emits (made depth) w.supply.next) w.builder.frames) :
    AtDepths (fun depth f =>
      f.Emits (Step.noteEmission depth ⟨w, .action a⟩ (made depth)) w'.supply.next) w'.builder.frames := by
  have hquiet : a ≠ .openFunction → a.binds? = none → a.endsBlock w.builder.frames = false →
      ∀ {frames : Frames BlockWriter},
        AtDepths (fun depth f => f.Emits (made depth) w.supply.next) frames →
        AtDepths (fun depth f =>
          f.Emits (Step.noteEmission depth ⟨w, .action a⟩ (made depth)) w.supply.next) frames := by
    intro hopen hbinds hends frames hkept
    refine hkept.imp fun depth _ g hg => ?_
    rw [Step.noteEmission_of_silent hopen hbinds hends hrun]
    exact hg
  cases h with
  | openModule => exact hquiet nofun rfl rfl hall
  | openFunction =>
      refine ⟨?_, hall.imp ?_⟩
      · dsimp only
        rw [Step.noteEmission_openFunction hrun, Builder.depth, if_pos rfl, hnew]
        exact FuncDraft.Emits.start rfl .ordinary
      · intro depth hlt g hg
        rw [Step.noteEmission_openFunction hrun, Builder.depth, if_neg (Nat.ne_of_gt hlt)]
        exact hg
  | @openBlock _ kind above below f f' ha hsplit henter =>
      have hopen : a ≠ .openFunction := by
        rintro rfl
        cases ha
      have hbinds : a.binds? = none := by cases a <;> first | rfl | cases ha
      have hends : a.endsBlock w.builder.frames = w.builder.frames.topBlock?.isSome := by
        cases a <;> first | rfl | cases ha
      refine hall.emits_split hsplit (Nat.le_refl _)
        (fun depth => Step.noteEmission_of_split hopen hbinds hsplit hrun) fun hf => ?_
      rw [hends]
      exact hf.enterBlock henter
  | close ha hscope hclosing => exact hclosing.emits ha hscope hrun hall
  | abort =>
      split
      · exact hquiet nofun rfl rfl hall
      · trivial
  | editModule ha hframes _ =>
      have hedits : a ≠ .openFunction ∧ a.binds? = none ∧ a.endsBlock w.builder.frames = false := by
        cases a with
        | register | update => exact ⟨nofun, rfl, rfl⟩
        | _ => cases ha
      rw [hframes] at hall
      exact hquiet hedits.1 hedits.2.1 hedits.2.2 hall
  | editFunction ha hframes hedit =>
      have hedits : a ≠ .openFunction ∧ a.binds? = none ∧ a.endsBlock w.builder.frames = false := by
        cases a with
        | addParam | setName | setAttrs | setResultTy | addOutput => exact ⟨nofun, rfl, rfl⟩
        | _ => cases ha
      obtain ⟨hemitter, hblocks⟩ := Action.functionEdit_blocks ha hedit
      rw [hframes] at hall
      exact hquiet hedits.1 hedits.2.1 hedits.2.2 ⟨hall.1.rework hemitter hblocks, hall.2⟩
  | @emit _ e v above below f f' supply ha hsplit hemit =>
      have hnext : w.supply.next ≤ supply.next := by
        rw [(FuncDraft.emit_supply hemit).2]
        exact Nat.le_succ _
      exact hall.emits_split hsplit hnext
        (fun depth => Step.noteEmission_of_binds ha hsplit hrun) fun hf => hf.emit hemit
  | takeResult => split <;> exact hquiet nofun rfl rfl hall
  | setResult | setRenamers | registerRenamer | rename => exact hquiet nofun rfl rfl hall

/-- Along a run every open function holds what has been emitted in it. -/
theorem Workspace.emits_after (config : Config) (supply : VarSupply) {events : List Event} :
    let start := Workspace.new config supply
    let w := start.after events
    w.builder.failed = false →
      AtDepths (fun depth f => f.Emits (emissions depth (start.steps events)) w.supply.next)
        w.builder.frames := by
  intro start w hfailed
  refine (holds_after (fun past (w : Workspace BlockWriter) => w.Sound config ∧
    AtDepths (fun depth f => f.Emits (emissions depth past) w.supply.next) w.builder.frames) ?_
    .nil ⟨sound_new config supply, trivial⟩ events hfailed).2.2
  rintro past w e w' - - - ⟨hsound, hall⟩ hquiet
  refine ⟨hsound.quiet hquiet, ?_⟩
  have hemissions (depth : Nat) : emissions depth (past ++ [⟨w, e⟩]) =
      Step.noteEmission depth ⟨w, e⟩ (emissions depth past) := by
    simp [emissions]
  simp only [hemissions]
  cases hquiet with
  | change hrun hchange => exact hchange.emits hrun hsound.newEmitter_eq hall
  | drawn count => exact hall.imp fun depth _ f hf => hf.mono (Nat.le_add_right _ _)
  | replaced kind => exact hall.replaceBlock kind
  | refused herror => simpa only [Step.noteEmission_of_error herror] using hall

end Runs

/-! ## Modules that are outermost -/

namespace Frames

/-- A module can only be the outermost frame. -/
def Grounded {σ : Type} (frames : Frames σ) : Prop := .module ∉ frames.kinds.tail

/-- Of blocks directly upon each other only the topmost one is the top of a run. -/
theorem runTops_covered {σ : Type} {frames : Frames σ} (h : ∀ x ∈ frames, x.kind = .block) :
    runTops true frames = [] := by
  induction frames with
  | nil => rfl
  | cons x below ih =>
      obtain ⟨hx, hbelow⟩ := List.forall_mem_cons.mp h
      cases x with
      | module m | function f => cases hx
      | block kind => exact ih hbelow

namespace Grounded

variable {σ : Type} {frames above below : Frames σ}

theorem append {kinds more : List ScopeKind} (h : .module ∉ kinds.tail) (hmore : .module ∉ more) :
    .module ∉ (kinds ++ more).tail := by
  cases kinds with
  | nil => exact fun hmem => hmore (List.mem_of_mem_tail hmem)
  | cons kind kinds => simpa using ⟨h, hmore⟩

/-- Between a function and the top of the stack, or the next function, there are only blocks. -/
theorem kind_eq_block (h : Grounded (above ++ .function f :: below))
    (habove : ∀ x ∈ above, x.isFunction = false) : ∀ x ∈ above, x.kind = .block := by
  intro x hx
  have hmem : x.kind ∈ (kinds (above ++ .function f :: below)).tail := by
    rw [kinds_append, kinds_cons, List.tail_append_of_ne_nil (by simp)]
    refine List.mem_append_right _ ?_
    exact List.mem_reverse.mpr (List.mem_map_of_mem hx)
  cases x with
  | module m => exact absurd hmem h
  | function g => simpa [Frame.isFunction] using habove _ hx
  | block kind => rfl

end Grounded

end Frames

section Runs

open Frames

variable {w w' : Workspace BlockWriter} {a : Action} {reply : Reply} {config : Config}

/-- Without modules inside functions no block overtakes another one: only one is open. -/
theorem Workspace.Sound.overtakes_eq_false (h : w.Sound config) (hgrounded : w.builder.frames.Grounded)
    {f : FuncDraft BlockWriter} (hf : w.builder.frames.nearestFunction? = some f) :
    f.overtakes = false := by
  obtain ⟨⟨above, g, below⟩, hsplit, rfl⟩ := Option.map_eq_some_iff.mp hf
  obtain ⟨hkinds, -⟩ := h.inStep.of_split hsplit
  obtain ⟨hframes, habove⟩ := splitFunction?_eq_some_iff.mp hsplit
  rw [hframes] at hgrounded
  have hblocks := hgrounded.kind_eq_block habove
  have hone : g.openKinds.length ≤ 1 := by
    rw [hkinds.length_eq, runTops_eq, runTops_covered hblocks, List.append_nil]
    exact Option.length_toList_le
  unfold FuncDraft.overtakes
  split
  · rfl
  · rename_i block outer hopen
    have houter : outer = [] := by
      simpa [FuncDraft.openKinds, hopen] using hone
    rw [houter, List.any_nil, Bool.and_false]

theorem Change.grounded (h : Change w a reply w') (hnested : w.builder.frames.Nested)
    (hopen : a = .openModule → w.builder.frames.any Frame.isFunction = false)
    (hgrounded : w.builder.frames.Grounded) : w'.builder.frames.Grounded := by
  unfold Grounded at hgrounded ⊢
  cases h with
  | openModule hmodule =>
      have hnil : w.builder.frames = [] := by
        by_contra hne
        rw [(hnested.any_isFunction_iff hmodule).mpr hne] at hopen
        cases hopen rfl
      simp [hnil]
  | openFunction =>
      rw [Workspace.withFrames_frames, kinds_cons, kinds_cons, List.append_assoc]
      exact Grounded.append hgrounded (by simp [Frame.kind])
  | openBlock _ hsplit _ =>
      rw [Workspace.withFrames_frames, kinds_cons, kinds_replace_split hsplit]
      exact Grounded.append hgrounded (by simp [Frame.kind])
  | close _ hscope hclosing =>
      rw [hclosing.kinds_eq hscope, ← List.drop_one, List.drop_take, List.drop_one]
      exact fun hmem => hgrounded (List.mem_of_mem_take hmem)
  | abort =>
      split
      · exact hgrounded
      · simp
  | editModule _ hframes _ | editFunction _ hframes _ =>
      rw [hframes] at hgrounded
      exact hgrounded
  | emit _ hsplit _ =>
      rw [Workspace.withFrames_frames, kinds_replace_split hsplit]
      exact hgrounded
  | takeResult => split <;> exact hgrounded
  | setResult | setRenamers | registerRenamer | rename => exact hgrounded

/-- A step notes an overtaking only if the innermost function is ready for it. -/
theorem Step.noteEmission_overtaken {s : Step BlockWriter} {depth : Nat} {made : Emissions}
    (hnone : ∀ f, s.before.builder.frames.nearestFunction? = some f → f.overtakes = false)
    (h : made.overtaken = false) : (s.noteEmission depth made).overtaken = false := by
  have hadd (a : Action) (reply : Reply) :
      (made.add s.before.builder.frames a reply).overtaken = false := by
    have hready : s.before.builder.frames.nearestFunction?.any (·.overtakes) = false := by
      cases hf : s.before.builder.frames.nearestFunction? with
      | none => rfl
      | some f => exact hnone f hf
    unfold Emissions.add
    split
    · exact h
    · rw [hready, Bool.and_false, Emissions.overtake_false]
      exact h
  unfold noteEmission
  split
  · split
    · rfl
    · exact h
  · split
    · exact hadd _ _
    · exact h
  · exact h

/-- In a session in which modules are opened only outside of functions nothing is overtaken. -/
theorem Workspace.never_overtaken (config : Config) (supply : VarSupply) {events : List Event} :
    let start := Workspace.new config supply
    (start.after events).builder.failed = false →
    (∀ s ∈ start.steps events, s.event = .action .openModule →
      s.before.builder.frames.any Frame.isFunction = false) →
      ∀ depth, (emissions depth (start.steps events)).overtaken = false := by
  intro start hfailed houtside
  refine (holds_after_of_forall
    (fun s => s.event = .action .openModule → s.before.builder.frames.any Frame.isFunction = false)
    (fun past w => w.Sound config ∧ w.builder.frames.Nested ∧ w.builder.frames.Grounded ∧
      ∀ depth, (emissions depth past).overtaken = false) ?_
    .nil ⟨sound_new config supply, .nil, nofun, fun _ => rfl⟩ houtside hfailed).2.2.2
  rintro past w e w' - - houtside ⟨hsound, hnested, hgrounded, hnone⟩ hquiet
  refine ⟨hsound.quiet hquiet, hquiet.nested hnested, ?_, fun depth => ?_⟩
  · cases hquiet with
    | change _ hchange => exact hchange.grounded hnested (fun ha => houtside (ha ▸ rfl)) hgrounded
    | replaced kind =>
        rwa [Grounded, withFrames_frames, kinds, map_kind_replaceBlock]
    | drawn | refused => exact hgrounded
  · have hemissions : emissions depth (past ++ [⟨w, e⟩]) =
        Step.noteEmission depth ⟨w, e⟩ (emissions depth past) := by
      simp [emissions]
    rw [hemissions]
    exact Step.noteEmission_overtaken (fun f => hsound.overtakes_eq_false hgrounded) (hnone depth)

/-- A block that is opened directly on another block ends and records it, and one that is opened on a module
leaves the innermost block of its function open. -/
theorem Action.openBlocks_of_opens {kind : BlockKind} (ha : a.opens? = some kind)
    (hrun : a.run w = .ok reply w') :
    ∃ f f', w.builder.frames.nearestFunction? = some f ∧
      w'.builder.frames.nearestFunction? = some f' ∧
      match w.builder.frames.topBlock? with
      | some _ => ∃ block outer, f.emitter.openBlocks = block :: outer ∧
          f'.blocks = f.blocks ++ [block].filter (!·.bindings.isEmpty) ∧
          f'.emitter.openBlocks = ⟨kind, []⟩ :: outer
      | none => f'.blocks = f.blocks ∧
          f'.emitter.openBlocks = ⟨kind, []⟩ :: f.emitter.openBlocks := by
  obtain ⟨-, _, hopen, -⟩ := (run_opens ha).mp hrun
  obtain ⟨-, above, f, below, f', hsplit, henter, rfl⟩ := BuildM.enter_block_eq_ok.mp hopen
  have habove := (splitFunction?_eq_some_iff.mp hsplit).2
  refine ⟨f, f', by simp [nearestFunction?, hsplit],
    by simp [nearestFunction?, splitFunction?_append habove], ?_⟩
  cases htop : w.builder.frames.topBlock? with
  | none =>
      rw [htop] at henter
      cases henter
      exact ⟨FuncDraft.blocks_beginBlock kind, FuncDraft.openBlocks_beginBlock kind⟩
  | some enclosing =>
      rw [htop] at henter
      obtain ⟨f₁, hend, rfl⟩ := FuncDraft.enterBlock_some_eq_ok.mp henter
      obtain ⟨block, outer, hblocks, rfl⟩ := FuncDraft.endBlock_eq_ok.mp hend
      rw [FuncDraft.blocks_beginBlock, FuncDraft.openBlocks_beginBlock, FuncDraft.openBlocks_finishBlock]
      exact ⟨block, outer, hblocks, FuncDraft.blocks_finishBlock .., rfl⟩

/-- In every session with the standard emitter that has not failed: each open function holds, in its finished
and its open blocks, the bindings that were made in it, and they are in the order in which they were made
exactly if no block of the function with bindings was ended while a block around it was open with bindings.
That is so if modules were opened outside of functions only. A block that is opened directly on another block
ends and records it; on a module it leaves the innermost block of the function open. -/
theorem held_in_order_iff (config : Config) (supply : VarSupply) (events : List Event) :
    let start := Workspace.new config supply
    let w := start.after events
    w.builder.failed = false →
      (∀ above f below, w.builder.frames = above ++ .function f :: below →
        let made := emissions below.length (start.steps events)
        f.held.Perm made.bindings ∧
        (f.held = made.bindings ↔ made.overtaken = false) ∧
        ((∀ s ∈ start.steps events, s.event = .action .openModule →
            s.before.builder.frames.any Frame.isFunction = false) →
          f.held = made.bindings)) ∧
      ∀ (a : Action) kind reply w', a.opens? = some kind → a.run w = .ok reply w' →
        ∃ f f', w.builder.frames.nearestFunction? = some f ∧
          w'.builder.frames.nearestFunction? = some f' ∧
          match w.builder.frames.topBlock? with
          | some _ => ∃ block outer, f.emitter.openBlocks = block :: outer ∧
              f'.blocks = f.blocks ++ [block].filter (!·.bindings.isEmpty) ∧
              f'.emitter.openBlocks = ⟨kind, []⟩ :: outer
          | none => f'.blocks = f.blocks ∧
              f'.emitter.openBlocks = ⟨kind, []⟩ :: f.emitter.openBlocks := by
  intro start w hfailed
  have hall : AtDepths _ w.builder.frames := Workspace.emits_after config supply hfailed
  refine ⟨?_, ?_⟩
  · intro above f below hframes made
    rw [hframes] at hall
    have hf : f.Emits made w.supply.next := (AtDepths.of_append hall).1
    refine ⟨hf.perm, hf.held_eq_iff, fun houtside => hf.held_eq_iff.mpr ?_⟩
    exact Workspace.never_overtaken config supply hfailed houtside below.length
  · intro a kind reply w' ha hrun
    exact Action.openBlocks_of_opens ha hrun

/-- A block on top of the ordinary one comes after it, and the next one ends both. -/
theorem held_in_order_iff_of_blocks :
    let events : List Event :=
      [.action .openFunction, .action (.emit (.op "a")), .action (.openBlock .dataflow),
        .action (.emit (.op "b"))]
    let start := Workspace.new {} ⟨0⟩
    let w := start.after events
    w.builder.failed = false ∧
    (∃ above f below, w.builder.frames = above ++ .function f :: below ∧
      f.held = (emissions below.length (start.steps events)).bindings ∧
      f.held.map (·.var.id) = [0, 1]) ∧
    ∃ reply w' f', (Action.openBlock .ordinary).run w = .ok reply w' ∧
      w'.builder.frames.nearestFunction? = some f' ∧
      f'.blocks.map (fun block => block.bindings.map (·.var.id)) = [[0], [1]] := by
  intro events start w
  obtain ⟨hframes, hopens⟩ := held_in_order_iff {} ⟨0⟩ events rfl
  refine ⟨rfl, ?_, ?_⟩
  · refine ⟨[.block .dataflow, .block .ordinary], _, [], rfl, ?_, rfl⟩
    refine (hframes [.block .dataflow, .block .ordinary] _ [] rfl).2.2 ?_
    simp [Workspace.steps, events]
  · obtain ⟨f, f', hf, hf', block, outer, hopen, hblocks, -⟩ :=
      hopens (.openBlock .ordinary) .ordinary _ _ rfl rfl
    cases hf
    cases hopen
    exact ⟨_, _, f', rfl, hf', by rw [hblocks]; rfl⟩

/-- From a module inside a function a block is opened while the block of the function stays open, and
overtakes it at its end. -/
theorem block_overtakes_across_module :
    let events : List Event :=
      [.action .openFunction, .action (.emit (.op "a")), .action .openModule,
        .action (.openBlock .ordinary), .action (.emit (.op "b")), .action .closeScope]
    let start := Workspace.new {} ⟨0⟩
    let w := start.after events
    w.builder.failed = false ∧ ∃ above f below, w.builder.frames = above ++ .function f :: below ∧
      f.held.map (·.var.id) = [1, 0] ∧
      (emissions below.length (start.steps events)).bindings.map (·.var.id) = [0, 1] :=
  ⟨rfl, [_, .block .ordinary], _, [], rfl, rfl, rfl⟩

end Runs

end ScopedBuilder
