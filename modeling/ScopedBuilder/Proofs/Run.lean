import ScopedBuilder.Proofs.Change
import ScopedBuilder.Proofs.Guard
import ScopedBuilder.Emitter.BlockWriter

/-!
# Runs of a builder

A run is a list of events, each an operation on the builder, or the making of variables elsewhere, which
takes identities from the same supply, or a client's writing into a block of the builder. What holds along a
run is proved once for one event.
-/

namespace ScopedBuilder

variable {σ : Type} [Emitter σ]

/-- Something that happens to a workspace. -/
inductive Event where
  | action (a : Action)
  /-- Variables are made without the builder. -/
  | drawn (count : Nat)
  /-- The client replaces the nearest block, without an operation of the builder. -/
  | replaced (kind : BlockKind)

namespace Event

/-- Carries out an event. -/
def run : Event → BuildM σ Reply
  | action a => a.run
  | drawn count => fun w => .ok .done { w with supply := ⟨w.supply.next + count⟩ }
  | replaced kind => do Builder.replaceBlock kind; return .done

end Event

/-- An event and the workspace that it meets. -/
structure Step (σ : Type) where
  before : Workspace σ
  event : Event

namespace Step

def outcome (s : Step σ) : EStateM.Result BuildError (Workspace σ) Reply :=
  s.event.run s.before

/-- The workspace that an event leaves, also when it fails. -/
def after (s : Step σ) : Workspace σ :=
  match s.outcome with
  | .ok _ w | .error _ w => w

/-- A step that ends a session: a guarded operation fails or is refused, or open frames are dropped. -/
inductive Fails : Step σ → Prop where
  | error {w w' : Workspace σ} {a : Action} {err : BuildError} :
      a.guard?.isSome = true → a.run w = .error err w' → Fails ⟨w, .action a⟩
  | abort {w : Workspace σ} : w.builder.frames ≠ [] → Fails ⟨w, .action .abort⟩

end Step

namespace Workspace

/-- A new builder with the standard emitter, beside identities that may be in use already. -/
def new (config : Config) (supply : VarSupply) : Workspace BlockWriter :=
  ⟨.new config .ofConfig, supply⟩

def next (w : Workspace σ) (e : Event) : Workspace σ := Step.after ⟨w, e⟩

/-- The steps of a run. -/
def steps (w : Workspace σ) : List Event → List (Step σ)
  | [] => []
  | e :: events => ⟨w, e⟩ :: (w.next e).steps events

/-- The workspace at the end of a run. -/
def after (w : Workspace σ) : List Event → Workspace σ
  | [] => w
  | e :: events => (w.next e).after events

/-- Every step of a run meets what the events before it left. -/
theorem mem_steps {w : Workspace σ} {s : Step σ} {events : List Event} (h : s ∈ w.steps events) :
    ∃ past later, events = past ++ s.event :: later ∧ s.before = w.after past := by
  induction events generalizing w with
  | nil => cases h
  | cons e events ih =>
      rcases List.mem_cons.mp h with rfl | hmem
      · exact ⟨[], events, rfl, rfl⟩
      · obtain ⟨past, later, rfl, hbefore⟩ := ih hmem
        exact ⟨e :: past, later, rfl, hbefore⟩

/-! ## Induction along a run -/

/-- What holds at the start and is kept by each step, given the steps so far, holds at the end. -/
theorem after_induction (holds : List (Step σ) → Workspace σ → Prop)
    (hstep : ∀ past w e, holds past w → holds (past ++ [⟨w, e⟩]) (w.next e))
    {past : List (Step σ)} {w : Workspace σ} (hstart : holds past w) (events : List Event) :
    holds (past ++ w.steps events) (w.after events) := by
  induction events generalizing past w with
  | nil => simpa [steps, after] using hstart
  | cons e events ih =>
      have h := ih (hstep past w e hstart)
      simpa [steps, after] using h

/-! ## Failure -/

theorem next_eq_final (w : Workspace σ) (e : Event) : w.next e = BuildM.final e.run w := by
  simp only [next, Step.after, Step.outcome, BuildM.final]
  cases e.run w <;> rfl

theorem next_of_ok {w w' : Workspace σ} {e : Event} {reply : Reply} (h : e.run w = .ok reply w') :
    w.next e = w' :=
  (w.next_eq_final e).trans (BuildM.final_of_ok h)

theorem next_of_error {w w' : Workspace σ} {e : Event} {err : BuildError}
    (h : e.run w = .error err w') : w.next e = w' :=
  (w.next_eq_final e).trans (BuildM.final_of_error h)

/-- Of the operations without a guard only renaming can fail, and then it has no effect. -/
theorem rename_of_unguarded_error {w w' : Workspace σ} {a : Action} {err : BuildError}
    (hguard : a.guard? = none) (h : a.run w = .error err w') :
    (∃ e name, a = .rename e name) ∧ w' = w := by
  cases a <;> cases hguard
  case rename e name =>
    simp only [Action.run, Builder.rename, bind_eq_error, pure_eq_error, BuildM.getBuilder_bind,
      BuildM.lift_eq_error, and_false, exists_false, or_false] at h
    exact ⟨⟨e, name, rfl⟩, h.2⟩
  case takeResult =>
    simp only [Action.run, Builder.takeResult, bind_eq_error, pure_eq_error] at h
    split at h <;> simp at h
  all_goals cases h

/-- An error ends the session, or it has no effect. -/
theorem failed_of_error {w w' : Workspace σ} {a : Action} {err : BuildError}
    (h : a.run w = .error err w') : w'.builder.failed = true ∨ w' = w := by
  cases hguard : a.guard? with
  | some op => exact .inl (a.failed_of_run hguard h)
  | none => exact .inr (rename_of_unguarded_error hguard h).2

theorem next_abort (w : Workspace σ) :
    w.next (.action .abort) =
      if w.builder.frames.isEmpty then w else (w.withFrames []).markFailed := rfl

theorem next_takeResult (w : Workspace σ) :
    w.next (.action .takeResult) = if w.builder.frames.isEmpty then w.withResult none else w :=
  next_of_ok (bind_pure_eq_ok.mpr ⟨_, Builder.takeResult_eq_ok.mpr ⟨rfl, rfl⟩, rfl⟩)

theorem next_rename (w : Workspace σ) (e : Expr) (name : String) :
    w.next (.action (.rename e name)) = w := by
  have hguard : (Action.rename e name).guard? = none := rfl
  cases hrun : (Event.action (.rename e name)).run w with
  | ok reply w' =>
      obtain ⟨_, hrename, -⟩ := bind_pure_eq_ok.mp hrun
      exact (next_of_ok hrun).trans (BuildM.lift_eq_ok.mp hrename).2
  | error err w' => exact (next_of_error hrun).trans (rename_of_unguarded_error hguard hrun).2

/-- Of the operations without a guard only the dropping of open frames ends a session. -/
theorem failed_next_iff_of_unguarded {w : Workspace σ} {a : Action} (hguard : a.guard? = none) :
    (w.next (.action a)).builder.failed = true ↔
      w.builder.failed = true ∨ Step.Fails ⟨w, .action a⟩ := by
  have hquiet : a ≠ .abort → ¬ Step.Fails ⟨w, .action a⟩ := by
    intro ha hfails
    cases hfails with
    | error hsome _ => simp [hguard] at hsome
    | abort => exact ha rfl
  cases a <;> cases hguard
  case abort =>
    rw [next_abort]
    cases hframes : w.builder.frames with
    | nil =>
        refine ⟨.inl, ?_⟩
        rintro (h | h)
        · exact h
        · cases h with
          | error hsome _ => cases hsome
          | abort hne => exact absurd hframes hne
    | cons x below =>
        exact iff_of_true rfl (.inr (.abort (hframes ▸ List.cons_ne_nil x below)))
  case takeResult =>
    rw [next_takeResult, or_iff_left (hquiet nofun)]
    split <;> exact Iff.rfl
  case rename e name => rw [next_rename, or_iff_left (hquiet nofun)]
  case setRenamers => exact (or_iff_left (hquiet nofun)).symm
  case registerRenamer => exact (or_iff_left (hquiet nofun)).symm

/-- A session fails with a step that ends it, and stays failed. -/
theorem failed_next_iff {w : Workspace σ} {e : Event} :
    (w.next e).builder.failed = true ↔ w.builder.failed = true ∨ Step.Fails ⟨w, e⟩ := by
  cases e with
  | drawn | replaced =>
      constructor
      · exact .inl
      · rintro (h | h)
        · exact h
        · cases h
  | action a =>
      cases hguard : a.guard? with
      | some op =>
          cases hrun : (Event.action a).run w with
          | ok reply w' =>
              rw [next_of_ok hrun, a.not_failed_of_run hguard hrun]
              constructor
              · intro h
                cases h
              · rintro (h | h)
                · cases hrun.symm.trans (a.run_of_failed hguard h)
                · cases h with
                  | error _ herror => cases hrun.symm.trans herror
                  | abort => cases hguard
          | error err w' =>
              rw [next_of_error hrun, a.failed_of_run hguard hrun]
              exact iff_of_true rfl (.inr (.error (hguard ▸ rfl) hrun))
      | none => exact failed_next_iff_of_unguarded hguard

/-- Once failed, a builder stays so. -/
theorem failed_next {w : Workspace σ} (hfailed : w.builder.failed = true) (e : Event) :
    (w.next e).builder.failed = true :=
  failed_next_iff.mpr (.inl hfailed)

theorem not_failed_of_next {w : Workspace σ} {e : Event} (h : (w.next e).builder.failed = false) :
    w.builder.failed = false := by
  cases hfailed : w.builder.failed with
  | false => rfl
  | true => simp [failed_next hfailed] at h

/-! ## Steps that do not fail -/

/-- What a step does that does not end in a failed session: an operation succeeds, or identities are
taken, or a block is replaced, or an error has no effect. -/
inductive Quiet (w : Workspace σ) : Event → Workspace σ → Prop where
  | change {a : Action} {reply : Reply} {w' : Workspace σ} :
      a.run w = .ok reply w' → Change w a reply w' → Quiet w (.action a) w'
  | drawn (count : Nat) :
      Quiet w (.drawn count) { w with supply := ⟨w.supply.next + count⟩ }
  | replaced (kind : BlockKind) :
      Quiet w (.replaced kind) (w.withFrames (w.builder.frames.replaceBlock kind))
  | refused {a : Action} {err : BuildError} : a.run w = .error err w → Quiet w (.action a) w

/-- A default block is an ordinary one, or of a kind that a client has written. -/
theorem Quiet.shapedBy {w w' : Workspace σ} {e : Event} {allowed : BlockKind → Prop}
    (h : Quiet w e w') (hordinary : allowed .ordinary)
    (hwritten : ∀ kind, e = .replaced kind → allowed kind)
    (hshape : w.builder.frames.ShapedBy allowed) : w'.builder.frames.ShapedBy allowed := by
  cases h with
  | change _ h => exact h.shapedBy hordinary hshape
  | replaced kind => exact hshape.replaceBlock (hwritten kind rfl)
  | drawn | refused => exact hshape

theorem Quiet.shaped {w w' : Workspace σ} {e : Event} (h : Quiet w e w')
    (hshape : w.builder.frames.Shaped) : w'.builder.frames.Shaped :=
  h.shapedBy trivial (fun _ _ => trivial) hshape

theorem Quiet.config_eq {w w' : Workspace σ} {e : Event} (h : Quiet w e w') :
    w'.builder.config = w.builder.config := by
  cases h with
  | change _ h => exact h.config_eq
  | drawn | replaced | refused => rfl

theorem Quiet.newEmitter_eq {w w' : Workspace σ} {e : Event} (h : Quiet w e w') :
    w'.builder.newEmitter = w.builder.newEmitter := by
  cases h with
  | change _ h => exact h.newEmitter_eq
  | drawn | replaced | refused => rfl

theorem quiet_next {w : Workspace σ} {e : Event} (hshape : w.builder.frames.Shaped)
    (hw : (w.next e).builder.failed = false) : Quiet w e (w.next e) := by
  have hfailed := not_failed_of_next hw
  cases hrun : e.run w with
  | ok reply w' =>
      rw [next_of_ok hrun]
      cases e with
      | action a => exact .change hrun ((Action.run_eq_ok_iff hshape hfailed).mp hrun)
      | drawn count =>
          cases hrun
          exact .drawn count
      | replaced kind =>
          cases hrun
          exact .replaced kind
  | error err w' =>
      rw [next_of_error hrun] at hw ⊢
      cases e with
      | action a =>
          rcases failed_of_error hrun with h | rfl
          · simp [h] at hw
          · exact .refused hrun
      | drawn | replaced => cases hrun

/-- The shape of the stack, and what is kept by each step that does not end in a failed session, holds
along a run as long as the session has not failed. -/
theorem holds_after (holds : List (Step σ) → Workspace σ → Prop)
    (hstep : ∀ past w e w', w.builder.failed = false → w'.builder.failed = false →
      w.builder.frames.Shaped → holds past w → Quiet w e w' → holds (past ++ [⟨w, e⟩]) w')
    {w : Workspace σ} (hshape : w.builder.frames.Shaped) (hstart : holds [] w)
    (events : List Event) (hfailed : (w.after events).builder.failed = false) :
    (w.after events).builder.frames.Shaped ∧ holds (w.steps events) (w.after events) := by
  have hsteps : ∀ past w e,
      w.builder.failed = true ∨ (w.builder.frames.Shaped ∧ holds past w) →
      (w.next e).builder.failed = true ∨
        ((w.next e).builder.frames.Shaped ∧ holds (past ++ [⟨w, e⟩]) (w.next e)) := by
    rintro past w e (h | ⟨hshape, h⟩)
    · exact .inl (failed_next h e)
    · cases hnext : (w.next e).builder.failed with
      | true => exact .inl rfl
      | false =>
          have hquiet := quiet_next hshape hnext
          exact .inr ⟨hquiet.shaped hshape,
            hstep past w e _ (not_failed_of_next hnext) hnext hshape h hquiet⟩
  rcases after_induction _ hsteps (.inr ⟨hshape, hstart⟩) events with h | h
  · simp [hfailed] at h
  · exact h

/-- The same for what only some steps keep, along a run of such steps. -/
theorem holds_after_of_forall (ok : Step σ → Prop) (holds : List (Step σ) → Workspace σ → Prop)
    (hstep : ∀ past w e w', w'.builder.failed = false → w.builder.frames.Shaped → ok ⟨w, e⟩ →
      holds past w → Quiet w e w' → holds (past ++ [⟨w, e⟩]) w')
    {w : Workspace σ} (hshape : w.builder.frames.Shaped) (hstart : holds [] w) {events : List Event}
    (hok : ∀ s ∈ w.steps events, ok s) (hfailed : (w.after events).builder.failed = false) :
    holds (w.steps events) (w.after events) := by
  refine (holds_after (fun past w => (∀ s ∈ past, ok s) → holds past w) ?_ hshape (fun _ => hstart) events
    hfailed).2 hok
  intro past w e w' _ hw' hshape hholds hquiet hpast
  obtain ⟨hbefore, hnow⟩ := List.forall_mem_append.mp hpast
  exact hstep past w e w' hw' hshape (hnow _ List.mem_cons_self) (hholds hbefore) hquiet

theorem forall_mem_steps {ok : Event → Prop} {events : List Event} (h : ∀ e ∈ events, ok e)
    (w : Workspace σ) : ∀ s ∈ w.steps events, ok s.event := by
  intro s hs
  obtain ⟨past, later, rfl, -⟩ := mem_steps hs
  exact h s.event (by simp)

end Workspace

end ScopedBuilder
