import ScopedBuilder.Proofs.Run

/-!
# Failed sessions

A session has failed exactly when a step of its run ended it. From then on the frames and the result stay
as they are, but for two things: the frames can be dropped, and once none is left the result can be taken.
-/

namespace ScopedBuilder

variable {σ : Type} [Emitter σ]

/-! ## What ends a session -/

namespace Workspace

theorem after_append (w : Workspace σ) (past later : List Event) :
    w.after (past ++ later) = (w.after past).after later := by
  induction past generalizing w with
  | nil => rfl
  | cons e past ih => exact ih (w.next e)

/-- A session has failed if it had before the run, or if a step of the run ended it. -/
theorem failed_after_iff {w : Workspace σ} (events : List Event) :
    (w.after events).builder.failed = true ↔
      w.builder.failed = true ∨ ∃ s ∈ w.steps events, s.Fails := by
  induction events generalizing w with
  | nil => simp [after, steps]
  | cons e events ih =>
      calc (w.after (e :: events)).builder.failed = true
          ↔ (w.next e).builder.failed = true ∨ ∃ s ∈ (w.next e).steps events, s.Fails := ih
        _ ↔ (w.builder.failed = true ∨ Step.Fails ⟨w, e⟩) ∨
              ∃ s ∈ (w.next e).steps events, s.Fails := by rw [failed_next_iff]
        _ ↔ w.builder.failed = true ∨ ∃ s ∈ w.steps (e :: events), s.Fails := by
            simp only [steps, List.mem_cons, exists_eq_or_imp, or_assoc]

end Workspace

/-! ## What a failed session still does -/

namespace Event

/-- Whether an event drops the open frames. -/
def drops : Event → Bool
  | action .abort => true
  | _ => false

theorem drops_iff {e : Event} : e.drops = true ↔ e = action .abort := by
  cases e with
  | drawn | replaced => simp [drops]
  | action a => cases a <;> simp [drops]

/-- What an event leaves of the frames and the result of a failed session. Of the operations only two leave
anything else than they found; and a client can still write into a block, which no operation does for it. -/
def remains : Event → Frames σ × Option Artifact → Frames σ × Option Artifact
  | action .abort, (_, result) => ([], result)
  | action .takeResult, ([], _) => ([], none)
  | replaced kind, (frames, result) => (frames.replaceBlock kind, result)
  | _, left => left

omit [Emitter σ] in
theorem remains_of_guard {a : Action} {op : Operation} (h : a.guard? = some op)
    (left : Frames σ × Option Artifact) : (action a).remains left = left := by
  cases a with
  | abort | takeResult => cases h
  | _ => rfl

omit [Emitter σ] in
/-- Unless the frames are dropped, the most that can happen to them is that a block is replaced. -/
theorem fst_remains (e : Event) (left : Frames σ × Option Artifact) :
    (e.remains left).1 =
      match e with
      | replaced kind => left.1.replaceBlock kind
      | e => if e.drops then [] else left.1 := by
  obtain ⟨frames, result⟩ := left
  cases e with
  | drawn | replaced => rfl
  | action a =>
      cases a with
      | takeResult => cases frames <;> rfl
      | _ => rfl

omit [Emitter σ] in
theorem map_kind_remains (e : Event) (left : Frames σ × Option Artifact) :
    (e.remains left).1.map Frame.kind = if e.drops then [] else left.1.map Frame.kind := by
  rw [fst_remains]
  cases e with
  | replaced kind => exact Frames.map_kind_replaceBlock kind left.1
  | drawn | action => exact apply_ite (List.map Frame.kind) ..

omit [Emitter σ] in
theorem modules_remains_subset (e : Event) (left : Frames σ × Option Artifact) :
    (e.remains left).1.modules ⊆ left.1.modules := by
  rw [fst_remains]
  cases e with
  | replaced kind => exact (Frames.modules_replaceBlock kind left.1) ▸ List.Subset.refl _
  | drawn => exact List.Subset.refl _
  | action a =>
      dsimp only
      split
      · exact List.nil_subset _
      · exact List.Subset.refl _

omit [Emitter σ] in
/-- The frames stay where they are until they are dropped. -/
theorem map_kind_foldl_remains (events : List Event) (left : Frames σ × Option Artifact) :
    (events.foldl (fun left e => e.remains left) left).1.map Frame.kind =
      if events.any drops then [] else left.1.map Frame.kind := by
  induction events generalizing left with
  | nil => rfl
  | cons e events ih =>
      rw [List.foldl_cons, ih, map_kind_remains, List.any_cons]
      cases e.drops <;> cases events.any drops <;> rfl

end Event

namespace Workspace

/-- The frames and the result of a workspace. -/
def contents (w : Workspace σ) : Frames σ × Option Artifact := (w.builder.frames, w.builder.result)

variable {w : Workspace σ}

theorem contents_next_of_unguarded {a : Action} (hguard : a.guard? = none) :
    (w.next (.action a)).contents = (Event.action a).remains w.contents := by
  cases a <;> cases hguard
  case abort =>
    rw [next_abort]
    cases hframes : w.builder.frames <;> simp [contents, hframes, Event.remains]
  case takeResult =>
    rw [next_takeResult]
    cases hframes : w.builder.frames <;> simp [contents, hframes, Event.remains]
  case rename e name => rw [next_rename]; rfl
  case setRenamers => rfl
  case registerRenamer => rfl

theorem contents_next (hfailed : w.builder.failed = true) (e : Event) :
    (w.next e).contents = e.remains w.contents := by
  cases e with
  | drawn | replaced => rfl
  | action a =>
      cases hguard : a.guard? with
      | some op =>
          have hrun : (Event.action a).run w = .error (.sessionFailed op) w :=
            a.run_of_failed hguard hfailed
          rw [next_of_error hrun, Event.remains_of_guard hguard]
      | none => exact contents_next_of_unguarded hguard

/-- What is left of a failed session after any operations. -/
theorem contents_after (hfailed : w.builder.failed = true) (events : List Event) :
    (w.after events).contents = events.foldl (fun left e => e.remains left) w.contents := by
  induction events generalizing w with
  | nil => rfl
  | cons e events ih =>
      rw [List.foldl_cons, ← contents_next hfailed e]
      exact ih (failed_next hfailed e)

end Workspace

end ScopedBuilder
