import ScopedBuilder.Proofs.Aftermath
import ScopedBuilder.Proofs.Nesting

/-!
# The artifacts of a session

Artifacts pass through one place, the result. It is filled only when it is empty and emptied only when the
artifact is taken out, so whatever has been written has been taken since or is still there.
-/

namespace ScopedBuilder

variable {σ : Type} [Emitter σ]

/-! ## What there is to write -/

/-- The artifact that closing the innermost scope makes, if that is a module, or a function with nothing
around it. -/
def Frames.artifact? (config : Config) : Frames σ → Option Artifact
  | .module m :: _ => m.assemble.toOption.map .module
  | [.block _, .function f] =>
    match FuncDraft.leaveBlock none f with
    | .ok () f => (f.assemble config).toOption.map .function
    | .error .. => none
  | _ => none

/-- The artifact that an operation of a session that has not failed has at hand to write to the result. -/
def Workspace.offer? (w : Workspace σ) (a : Action) : Option Artifact :=
  if w.builder.failed then none
  else
    match a with
    | .setResult artifact => some artifact
    | .close handle =>
      if w.builder.frames.innermostScope? = some handle then w.builder.frames.artifact? w.builder.config
      else none
    | .closeScope => w.builder.frames.artifact? w.builder.config
    | _ => none

/-- Whether an operation can fill the result or empty it. -/
def Action.concernsResult : Action → Bool
  | setResult _ | takeResult | close _ | closeScope => true
  | _ => false

namespace Step

/-- The artifact that a step has written to the result. -/
def written? (s : Step σ) : Option Artifact :=
  match s.event, s.outcome with
  | .action a, .ok .. => s.before.offer? a
  | _, _ => none

/-- The artifact that a step has taken out. -/
def taken? (s : Step σ) : Option Artifact :=
  match s.event, s.outcome with
  | .action .takeResult, .ok (.artifact artifact) _ => artifact
  | _, _ => none

end Step

/-! ## Closes that make an artifact -/

namespace Frames

/-- What closing the innermost scope makes of it. -/
inductive Makes (config : Config) : Frames σ → Artifact → Prop where
  | module {m : ModuleDraft} {module : Module} {below : Frames σ} :
      m.assemble = .ok module → Makes config (.module m :: below) (.module module)
  | function {kind : BlockKind} {f f' : FuncDraft σ} {func : Func} :
      FuncDraft.leaveBlock none f = .ok () f' → f'.assemble config = .ok func →
      Makes config [.block kind, .function f] (.function func)

theorem artifact?_eq_some_iff {config : Config} {frames : Frames σ} {artifact : Artifact} :
    frames.artifact? config = some artifact ↔ Makes config frames artifact := by
  constructor
  · intro h
    unfold artifact? at h
    split at h
    · rename_i m below
      cases hm : m.assemble with
      | error e => simp [hm, Except.toOption] at h
      | ok module =>
          rw [hm] at h
          cases h
          exact .module hm
    · rename_i kind f
      cases hleave : FuncDraft.leaveBlock none f with
      | error e f' => simp [hleave] at h
      | ok _ f' =>
          cases hfunc : f'.assemble config with
          | error e => simp [hleave, hfunc, Except.toOption] at h
          | ok func =>
              rw [hleave] at h
              dsimp only at h
              rw [hfunc] at h
              cases h
              exact .function hleave hfunc
    · cases h
  · intro h
    cases h with
    | module hm =>
        rw [artifact?, hm]
        rfl
    | function hleave hfunc =>
        rw [artifact?, hleave]
        dsimp only
        rw [hfunc]
        rfl

theorem Makes.exists_scope {config : Config} {frames : Frames σ} {artifact : Artifact}
    (h : Makes config frames artifact) : ∃ scope, frames.innermostScope? = some scope := by
  cases h <;> exact ⟨_, rfl⟩

/-- A block makes no artifact. -/
theorem artifact?_block {config : Config} {kind : BlockKind} {rest above below : Frames σ}
    {f : FuncDraft σ} (hsplit : splitFunction? rest = some (above, f, below)) (hne : above ≠ []) :
    artifact? config (.block kind :: rest) = none := by
  refine Option.eq_none_iff_forall_ne_some.mpr fun artifact h => ?_
  generalize hframes : Frame.block kind :: rest = frames at h
  cases artifact?_eq_some_iff.mp h with
  | module => cases hframes
  | function =>
      cases hframes
      cases hsplit
      exact hne rfl

end Frames

open Frames BuildM

namespace Workspace

variable {w w' : Workspace σ} {a : Action} {artifact : Artifact}

theorem offer?_of_closes (hfailed : w.builder.failed = false) {scope : Scope}
    (hscope : w.builder.frames.innermostScope? = some scope) (ha : a.closes scope = true) :
    w.offer? a = w.builder.frames.artifact? w.builder.config := by
  cases a <;> simp only [Action.closes, Bool.false_eq_true, decide_eq_true_eq] at ha
  case close handle =>
    subst ha
    simp [offer?, hfailed, hscope]
  case closeScope => simp [offer?, hfailed]

theorem offer?_eq_none (h : a.concernsResult = false) : w.offer? a = none := by
  cases a <;> simp only [Action.concernsResult, Bool.true_eq_false] at h <;> simp [offer?]

/-- An artifact is at hand when it is given, or when the innermost scope that is closed makes it. -/
theorem offer?_eq_some_iff :
    w.offer? a = some artifact ↔
      w.builder.failed = false ∧ (a = .setResult artifact ∨
        ∃ scope, w.builder.frames.innermostScope? = some scope ∧ a.closes scope = true ∧
          Makes w.builder.config w.builder.frames artifact) := by
  constructor
  · intro h
    cases hfailed : w.builder.failed with
    | true => simp [offer?, hfailed] at h
    | false =>
        refine ⟨rfl, ?_⟩
        simp only [offer?, hfailed, Bool.false_eq_true, if_false] at h
        cases a with
        | setResult => exact .inl (congrArg Action.setResult (Option.some.inj h))
        | close handle =>
            dsimp only at h
            split at h
            · next hscope =>
                exact .inr ⟨handle, hscope, decide_eq_true rfl, artifact?_eq_some_iff.mp h⟩
            · cases h
        | closeScope =>
            have hmakes := artifact?_eq_some_iff.mp h
            obtain ⟨scope, hscope⟩ := hmakes.exists_scope
            exact .inr ⟨scope, hscope, rfl, hmakes⟩
        | _ => cases h
  · rintro ⟨hfailed, rfl | ⟨scope, hscope, ha, hmakes⟩⟩
    · simp [offer?, hfailed]
    · rw [offer?_of_closes hfailed hscope ha]
      exact artifact?_eq_some_iff.mpr hmakes

end Workspace

namespace Step

variable {w w' : Workspace σ} {a : Action} {reply : Reply}

theorem written?_of_ok (hrun : a.run w = .ok reply w') : written? ⟨w, .action a⟩ = w.offer? a := by
  simp only [written?, outcome, Event.run, hrun]

theorem written?_of_offer?_eq_none (h : w.offer? a = none) : written? ⟨w, .action a⟩ = none := by
  unfold written?
  split
  · next hevent _ =>
      cases hevent
      exact h
  · rfl

theorem written?_of_error {e : BuildError} (hrun : a.run w = .error e w') :
    written? ⟨w, .action a⟩ = none := by
  simp only [written?, outcome, Event.run, hrun]

theorem taken?_of_ne (h : a ≠ .takeResult) : taken? ⟨w, .action a⟩ = none := by
  unfold taken?
  split
  · next hevent _ =>
      cases hevent
      exact absurd rfl h
  · rfl

theorem taken?_takeResult :
    taken? ⟨w, .action .takeResult⟩ = if w.builder.frames.isEmpty then w.builder.result else none := by
  have hrun : Action.takeResult.run w =
      .ok (.artifact (if w.builder.frames.isEmpty then w.builder.result else none))
        (if w.builder.frames.isEmpty then w.withResult none else w) :=
    bind_pure_eq_ok.mpr ⟨_, Builder.takeResult_eq_ok.mpr ⟨rfl, rfl⟩, rfl⟩
  simp only [taken?, outcome, Event.run, hrun]

end Step

/-! ## What becomes of the result -/

/-- What an event does to the result: it fills the empty result, or takes out what is there, or leaves the
result alone. -/
inductive Posting (w : Workspace σ) (e : Event) : Prop where
  | written {artifact : Artifact} : Step.written? ⟨w, e⟩ = some artifact → Step.taken? ⟨w, e⟩ = none →
      w.builder.result = none → (w.next e).builder.result = some artifact → Posting w e
  | taken : Step.written? ⟨w, e⟩ = none → Step.taken? ⟨w, e⟩ = w.builder.result →
      (w.next e).builder.result = none → Posting w e
  | kept : Step.written? ⟨w, e⟩ = none → Step.taken? ⟨w, e⟩ = none →
      (w.next e).builder.result = w.builder.result → Posting w e

namespace Posting

variable {w w' : Workspace σ} {a : Action} {reply : Reply} {e : Event}

/-- In the books of one step nothing is missing. -/
theorem balance (h : Posting w e) :
    w.builder.result.toList ++ (Step.written? ⟨w, e⟩).toList =
      (Step.taken? ⟨w, e⟩).toList ++ (w.next e).builder.result.toList := by
  cases h with
  | written hwritten htaken hbefore hafter => rw [hwritten, htaken, hbefore, hafter]
  | taken hwritten htaken hafter => rw [hwritten, htaken, hafter]
  | kept hwritten htaken hafter =>
      rw [hwritten, htaken, hafter]
      exact List.append_nil _

/-- An operation that does not come with an artifact, and does not take one. -/
theorem of_silent (hoffer : w.offer? a = none) (ha : a ≠ .takeResult)
    (hresult : (w.next (.action a)).builder.result = w.builder.result) : Posting w (.action a) :=
  .kept (Step.written?_of_offer?_eq_none hoffer) (Step.taken?_of_ne ha) hresult

/-- Most operations do not concern the result. -/
theorem of_unconcerned (ha : a.concernsResult = false)
    (hresult : (w.next (.action a)).builder.result = w.builder.result) : Posting w (.action a) := by
  refine of_silent (Workspace.offer?_eq_none ha) ?_ hresult
  rintro rfl
  cases ha

/-- A success with an artifact at hand. -/
theorem of_offer {artifact : Artifact} (hrun : a.run w = .ok reply w')
    (hoffer : w.offer? a = some artifact) (hnone : w.builder.result = none)
    (hresult : w'.builder.result = some artifact) : Posting w (.action a) := by
  have ha : a ≠ .takeResult := by
    rintro rfl
    simp [Workspace.offer?] at hoffer
  refine .written ((Step.written?_of_ok hrun).trans hoffer) (Step.taken?_of_ne ha) hnone ?_
  rw [Workspace.next_of_ok (e := .action a) hrun, hresult]

theorem closing (hrun : a.run w = .ok reply w') (hfailed : w.builder.failed = false) {scope : Scope}
    (hscope : w.builder.frames.innermostScope? = some scope) (ha : a.closes scope = true)
    (hclosing : Closing w w') : Posting w (.action a) := by
  have hnext := congrArg (·.builder.result) (Workspace.next_of_ok (e := .action a) hrun)
  have hoffer := Workspace.offer?_of_closes hfailed hscope ha
  have hne : a ≠ .takeResult := by
    rintro rfl
    cases ha
  cases hclosing with
  | block hframes hsplit hblock _ =>
      rw [hframes, artifact?_block hsplit hblock] at hoffer
      exact of_silent hoffer hne hnext
  | function hframes hleave hfunc hnone =>
      rw [hframes, artifact?_eq_some_iff.mpr (.function hleave hfunc)] at hoffer
      exact of_offer hrun hoffer hnone rfl
  | definition hframes _ _ _ =>
      rw [hframes] at hoffer
      exact of_silent hoffer hne hnext
  | module hframes hm hnone =>
      rw [hframes, artifact?_eq_some_iff.mpr (.module hm)] at hoffer
      exact of_offer hrun hoffer hnone rfl

/-- The operations that ask whether the session has failed. -/
theorem guarded (h : Change w a reply w') (hrun : a.run w = .ok reply w')
    (hguard : a.guard?.isSome = true) (hfailed : w.builder.failed = false) : Posting w (.action a) := by
  have hnext := congrArg (·.builder.result) (Workspace.next_of_ok (e := .action a) hrun)
  cases h with
  | openModule | openFunction => exact of_unconcerned rfl hnext
  | openBlock ha _ _ | editModule ha _ _ | editFunction ha _ _ | emit ha _ _ =>
      refine of_unconcerned ?_ hnext
      cases a <;> first | rfl | cases ha
  | close ha hscope hclosing => exact closing hrun hfailed hscope ha hclosing
  | setResult artifact hnone =>
      have hoffer : w.offer? (.setResult artifact) = some artifact := by
        simp [Workspace.offer?, hfailed]
      exact of_offer hrun hoffer hnone rfl
  | abort | takeResult | setRenamers | registerRenamer | rename => cases hguard

/-- The operations that do not, so that a failed session carries them out as well. -/
theorem unguarded (hguard : a.guard? = none) : Posting w (.action a) := by
  cases a <;> cases hguard
  case abort =>
    refine of_unconcerned rfl ?_
    rw [Workspace.next_abort]
    split <;> rfl
  case takeResult =>
    have hwritten : Step.written? ⟨w, .action .takeResult⟩ = none :=
      Step.written?_of_offer?_eq_none (by simp [Workspace.offer?])
    have htaken := Step.taken?_takeResult (w := w)
    have hnext := congrArg (·.builder.result) w.next_takeResult
    cases hempty : w.builder.frames.isEmpty with
    | true =>
        rw [hempty] at htaken hnext
        exact .taken hwritten htaken hnext
    | false =>
        rw [hempty] at htaken hnext
        exact .kept hwritten htaken hnext
  case setRenamers => exact of_unconcerned rfl rfl
  case registerRenamer => exact of_unconcerned rfl rfl
  case rename e name => exact of_unconcerned rfl (congrArg (·.builder.result) (w.next_rename e name))

end Posting

namespace Workspace

variable {w w' : Workspace σ}

/-- No error touches the result. -/
theorem result_of_error (hshape : w.builder.failed = false → w.builder.frames.Shaped) {a : Action}
    {e : BuildError} (h : a.run w = .error e w') : w'.builder.result = w.builder.result := by
  cases hfailed : w.builder.failed with
  | false => exact (a.spares_of_error (hshape hfailed) hfailed h).result
  | true =>
      cases hguard : a.guard? with
      | some op =>
          cases h.symm.trans (a.run_of_failed hguard hfailed)
          rfl
      | none =>
          obtain ⟨-, rfl⟩ := rename_of_unguarded_error hguard h
          rfl

theorem posting (hshape : w.builder.failed = false → w.builder.frames.Shaped) (e : Event) :
    Posting w e := by
  cases e with
  | drawn | replaced => exact .kept rfl rfl rfl
  | action a =>
      cases hguard : a.guard? with
      | none => exact .unguarded hguard
      | some op =>
          cases hrun : a.run w with
          | ok reply w' =>
              have hfailed := a.not_failed_of_ok hguard hrun
              exact Posting.guarded (.of_run (hshape hfailed) hrun) hrun (hguard ▸ rfl) hfailed
          | error err w' =>
              refine .kept (Step.written?_of_error hrun) (Step.taken?_of_ne ?_) ?_
              · rintro rfl
                cases hguard
              · rw [next_of_error (e := .action a) hrun]
                exact result_of_error hshape hrun

/-- The books after some steps: what has been written has been taken, or it is the result. -/
structure Balanced (past : List (Step σ)) (w : Workspace σ) : Prop where
  shaped : w.builder.failed = false → w.builder.frames.Shaped
  books : past.filterMap Step.written? = past.filterMap Step.taken? ++ w.builder.result.toList

theorem Balanced.next {past : List (Step σ)} (h : Balanced past w) (e : Event) :
    Balanced (past ++ [⟨w, e⟩]) (w.next e) where
  shaped hfailed := by
    have hshape := h.shaped (not_failed_of_next hfailed)
    exact (quiet_next hshape hfailed).shaped hshape
  books := by
    have hsnoc (note : Step σ → Option Artifact) :
        List.filterMap note (past ++ [⟨w, e⟩]) = past.filterMap note ++ (note ⟨w, e⟩).toList := by
      rw [List.filterMap_append]
      cases hnote : note ⟨w, e⟩ <;> simp [hnote]
    rw [hsnoc, hsnoc, h.books, List.append_assoc, List.append_assoc, (posting h.shaped e).balance]

theorem balanced_after (h : Balanced [] w) (events : List Event) :
    Balanced (w.steps events) (w.after events) :=
  after_induction Balanced (fun _ _ e h => h.next e) h events

/-! ## Writing -/

/-- An artifact that is at hand is written if the result is empty. -/
theorem run_of_offer (hshape : w.builder.failed = false → w.builder.frames.Shaped) {a : Action}
    {artifact : Artifact} (h : w.offer? a = some artifact) (hnone : w.builder.result = none) :
    ∃ w', a.run w = .ok .done w' ∧ w'.builder.result = some artifact := by
  obtain ⟨hfailed, rfl | ⟨scope, hscope, ha, hmakes⟩⟩ := offer?_eq_some_iff.mp h
  · exact ⟨_, (Change.setResult artifact hnone).run_eq_ok (hshape hfailed) hfailed, rfl⟩
  · have hrun {w' : Workspace σ} (hclosing : Closing w w') : a.run w = .ok .done w' :=
      (Action.run_closes_eq_ok (hshape hfailed) hscope ha).mpr ⟨hfailed, rfl, hclosing⟩
    generalize hframes : w.builder.frames = frames at hmakes
    cases hmakes with
    | module hm => exact ⟨_, hrun (.module hframes hm hnone), rfl⟩
    | function hleave hfunc => exact ⟨_, hrun (.function hframes hleave hfunc hnone), rfl⟩

/-- A full result refuses it. -/
theorem refused_of_offer {a : Action} {artifact : Artifact} (h : w.offer? a = some artifact)
    (hsome : w.builder.result.isSome = true) :
    ∃ op w', a.run w = .error (.resultAlreadySet op) w' := by
  obtain ⟨hfailed, rfl | ⟨scope, hscope, ha, hmakes⟩⟩ := offer?_eq_some_iff.mp h
  · have hset : Builder.setResult artifact w = .error (.resultAlreadySet .setResult) w.markFailed :=
      guarded_eq_error.mpr (.inr ⟨hfailed, w, fillResult_eq_error.mpr ⟨hsome, rfl, rfl⟩, rfl⟩)
    exact ⟨.setResult, _, bind_eq_error.mpr (.inl hset)⟩
  · obtain ⟨op, -, herror⟩ := Action.run_closes ha hfailed hscope
    generalize hframes : w.builder.frames = frames at hmakes hscope
    cases hmakes with
    | @module m module below hm =>
        cases hscope
        have hrefused : exitTop op w = .error (.resultAlreadySet .finishModule) (w.withFrames below) :=
          (exitTop_module_eq_error hframes).mpr ⟨rfl, .inr ⟨⟨module, hm⟩, hsome, rfl⟩⟩
        exact ⟨_, _, herror _ _ hrefused⟩
    | @function kind f f' func hleave hfunc =>
        cases hscope
        -- the default block is left, and the function itself is refused
        have hblock : exitTop op w = .ok () (w.withFrames [.function f']) :=
          (exitTop_block hframes).mpr ⟨[], _, [], _, rfl, hleave, rfl⟩
        have hrefused : leaveFunction f' (w.withFrames []) =
            .error (.resultAlreadySet .finishFunction) (w.withFrames []) :=
          leaveFunction_eq_error.mpr ⟨rfl, .inr ⟨func, hfunc, .inl ⟨rfl, hsome, rfl⟩⟩⟩
        have hexit : exitTop op (w.withFrames [.function f']) =
            .error (.resultAlreadySet .finishFunction) (w.withFrames []) :=
          (exitTop_function_eq_error rfl).mpr hrefused
        exact ⟨_, _, herror _ _ (bind_eq_error.mpr (.inr ⟨(), _, hblock, hexit⟩))⟩

end Workspace

/-- No artifact is lost, doubled or overwritten, in whatever session, with whatever emitter. What operations
have written to the result is, in that order, what has been taken out of it, followed by what is still there.
An operation that has an artifact at hand writes it if the result is empty, and is refused if it is full; and
neither the dropping of the open frames nor an error touches the result. -/
theorem artifacts_are_accounted_for (config : Config) (newEmitter : Config → σ) (supply : VarSupply)
    (events : List Event) :
    let start : Workspace σ := ⟨.new config newEmitter, supply⟩
    let w := start.after events
    (start.steps events).filterMap Step.written? =
        (start.steps events).filterMap Step.taken? ++ w.builder.result.toList ∧
      (∀ a artifact, w.offer? a = some artifact →
        (w.builder.result = none → ∃ w', a.run w = .ok .done w' ∧ w'.builder.result = some artifact) ∧
        (w.builder.result.isSome = true → ∃ op w', a.run w = .error (.resultAlreadySet op) w' ∧
          w'.builder.result = w.builder.result)) ∧
      ∀ a, (a = .abort ∨ ∃ e w', a.run w = .error e w') →
        (w.next (.action a)).builder.result = w.builder.result := by
  intro start w
  obtain ⟨hshape, hbooks⟩ : Workspace.Balanced (start.steps events) w :=
    Workspace.balanced_after ⟨fun _ => .nil, rfl⟩ events
  refine ⟨hbooks, ?_, ?_⟩
  · intro a artifact hoffer
    refine ⟨Workspace.run_of_offer hshape hoffer, fun hsome => ?_⟩
    obtain ⟨op, w', hrun⟩ := Workspace.refused_of_offer hoffer hsome
    exact ⟨op, w', hrun, Workspace.result_of_error hshape hrun⟩
  · rintro a (rfl | ⟨e, w', hrun⟩)
    · rw [Workspace.next_abort]
      split <;> rfl
    · rw [Workspace.next_of_error (e := .action a) hrun]
      exact Workspace.result_of_error hshape hrun

/-- One artifact is taken out, and a module takes its place, so that a third artifact is refused. -/
theorem artifacts_are_accounted_for_behind_module :
    let start := Workspace.new {} ⟨0⟩
    let events : List Event :=
      [.action (.setResult (.module .empty)), .action .takeResult, .action .openModule,
        .action .closeScope]
    let w := start.after events
    ((start.steps events).filterMap Step.written?).length = 2 ∧
      (start.steps events).filterMap Step.written? =
        (start.steps events).filterMap Step.taken? ++ w.builder.result.toList ∧
      ∃ op w', (Action.setResult (.module .empty)).run w = .error (.resultAlreadySet op) w' ∧
        w'.builder.result = w.builder.result := by
  intro start events w
  obtain ⟨hbooks, hwrites, -⟩ := artifacts_are_accounted_for {} BlockWriter.ofConfig ⟨0⟩ events
  have hoffer : w.offer? (.setResult (.module .empty)) = some (.module .empty) := by rfl
  have hfull : w.builder.result.isSome = true := by rfl
  refine ⟨by decide, hbooks, ?_⟩
  exact (hwrites _ _ hoffer).2 hfull

end ScopedBuilder
