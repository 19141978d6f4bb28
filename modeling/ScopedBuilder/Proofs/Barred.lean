import ScopedBuilder.Proofs.Aftermath
import ScopedBuilder.Proofs.Failure
import ScopedBuilder.Proofs.Nesting

/-!
# Functions that cannot be closed any more

A function in which a module or another function has been opened is never closed successfully. The inner
function has to hand itself over to a module, and a module that is closed inside a function fills the
result, which stays full since nothing can be taken out while the function is open.
-/

namespace ScopedBuilder

namespace ScopeKind

variable {kinds : List ScopeKind} {depth : Nat}

theorem getElem?_append (h : kinds[depth]? = some .function) (more : List ScopeKind) :
    (kinds ++ more)[depth]? = some .function :=
  (List.getElem?_append_left (List.getElem?_eq_some_iff.mp h).1).trans h

/-- A frame that is not that of a function leaves the functions below it. -/
theorem getElem?_of_concat {kind : ScopeKind} (h : (kinds ++ [kind])[depth]? = some .function)
    (hkind : kind ≠ .function) : kinds[depth]? = some .function := by
  rcases Nat.lt_trichotomy depth kinds.length with hlt | rfl | hlt
  · rwa [List.getElem?_append_left hlt] at h
  · rw [List.getElem?_concat_length] at h
    exact absurd (Option.some.inj h) hkind
  · rw [List.getElem?_eq_none (by simp; omega)] at h
    cases h

end ScopeKind

/-! ## The barrier -/

/-- A function is open with some frames below it, and bars the way out: a function is above it, or it is
outside of every module and a module is above it or the result is full. -/
structure Barred (depth : Nat) (kinds : List ScopeKind) (filled : Bool) : Prop where
  isOpen : kinds[depth]? = some .function
  barrier : .function ∈ kinds.drop (depth + 1) ∨
    (.module ∉ kinds.take depth ∧ (.module ∈ kinds ∨ filled = true))

namespace Barred

variable {depth : Nat} {kinds more : List ScopeKind} {filled : Bool}

theorem append (h : Barred depth kinds filled) (more : List ScopeKind) :
    Barred depth (kinds ++ more) filled := by
  obtain ⟨hlt, -⟩ := List.getElem?_eq_some_iff.mp h.isOpen
  refine ⟨ScopeKind.getElem?_append h.isOpen more, ?_⟩
  rw [List.drop_append_of_le_length (by omega), List.take_append_of_le_length (by omega),
    List.mem_append, List.mem_append]
  rcases h.barrier with hfunction | ⟨houtside, hmodule | hfilled⟩
  · exact .inl (.inl hfunction)
  · exact .inr ⟨houtside, .inl (.inl hmodule)⟩
  · exact .inr ⟨houtside, .inr hfilled⟩

theorem fill (h : Barred depth kinds filled) : Barred depth kinds true :=
  ⟨h.isOpen, h.barrier.imp_right fun houtside => ⟨houtside.1, .inr rfl⟩⟩

/-- A function that is opened bars the one that it is opened in. -/
theorem of_function (hopen : kinds[depth]? = some .function) (more : List ScopeKind) :
    Barred depth (kinds ++ .function :: more) filled := by
  obtain ⟨hlt, -⟩ := List.getElem?_eq_some_iff.mp hopen
  refine ⟨ScopeKind.getElem?_append hopen _, .inl ?_⟩
  rw [List.drop_append_of_le_length (by omega)]
  exact List.mem_append_right _ List.mem_cons_self

/-- So does a module above it, or a full result, if there is no module below. -/
theorem of_outside (hopen : kinds[depth]? = some .function) (hmodule : .module ∉ kinds)
    (more : List ScopeKind) (h : .module ∈ more ∨ filled = true) :
    Barred depth (kinds ++ more) filled := by
  obtain ⟨hlt, -⟩ := List.getElem?_eq_some_iff.mp hopen
  refine ⟨ScopeKind.getElem?_append hopen more, .inr ⟨?_, ?_⟩⟩
  · rw [List.take_append_of_le_length (by omega)]
    exact fun hmem => hmodule (List.mem_of_mem_take hmem)
  · exact h.imp_left (List.mem_append_right _)

/-- The end of a block leaves the barrier. -/
theorem of_block (h : Barred depth (kinds ++ [.block]) filled) : Barred depth kinds filled := by
  have hopen := ScopeKind.getElem?_of_concat h.isOpen (by decide)
  obtain ⟨hlt, -⟩ := List.getElem?_eq_some_iff.mp hopen
  have hbarrier := h.barrier
  rw [List.drop_append_of_le_length (by omega), List.take_append_of_le_length (by omega)] at hbarrier
  simp only [List.mem_append, List.mem_singleton, reduceCtorEq, or_false] at hbarrier
  exact ⟨hopen, hbarrier⟩

/-- A function on top is barred only outside of every module, by a full result. -/
theorem of_top (h : Barred kinds.length (kinds ++ [.function] ++ [.block]) filled) :
    .module ∉ kinds ∧ filled = true := by
  rw [List.append_assoc, List.cons_append, List.nil_append] at h
  have hbarrier : .function ∈ [ScopeKind.block] ∨ (.module ∉ kinds ∧
      (.module ∈ kinds ++ [.function, .block] ∨ filled = true)) := by
    simpa only [List.drop_length_add_append, List.take_left', List.drop_one, List.tail_cons] using h.barrier
  rcases hbarrier with hfunction | ⟨houtside, hmodule | hfilled⟩
  · cases List.mem_singleton.mp hfunction
  · simp [houtside] at hmodule
  · exact ⟨houtside, hfilled⟩

end Barred

/-! ## The barrier stays -/

variable {σ : Type}

namespace Frames

theorem module_notMem_kinds {frames : Frames σ} :
    .module ∉ frames.kinds ↔ frames.any Frame.isModule = false := by
  simp [kinds, any_isModule_eq]

/-- A function on a stack is below every frame that is not a function. -/
theorem isOpen_of_cons {x : Frame σ} {below : Frames σ} {depth : Nat} (hx : x.isFunction = false)
    (h : (kinds (x :: below))[depth]? = some .function) : below.kinds[depth]? = some .function := by
  rw [kinds_cons] at h
  refine ScopeKind.getElem?_of_concat h ?_
  cases x with
  | function f => cases hx
  | module | block => simp [Frame.kind]

theorem lt_of_isOpen {frames : Frames σ} {depth : Nat} (h : frames.kinds[depth]? = some .function) :
    depth < frames.length :=
  frames.length_kinds ▸ (List.getElem?_eq_some_iff.mp h).1

/-- The innermost scope is above an open function, or it is that function. -/
theorem Shaped.lt_depth_or_eq {frames : Frames σ} {depth : Nat} {scope : Scope} (h : frames.Shaped)
    (hopen : frames.kinds[depth]? = some .function) (hscope : frames.innermostScope? = some scope) :
    depth < scope.depth ∨ scope = ⟨depth, .function⟩ := by
  cases h with
  | nil => cases hscope
  | module m _ =>
      cases hscope
      exact .inl (lt_of_isOpen (isOpen_of_cons rfl hopen))
  | block kind hbelow =>
      rw [hbelow.innermostScope?_block] at hscope
      cases hscope
      exact .inl (lt_of_isOpen (isOpen_of_cons rfl hopen))
  | @function _ _ f below _ =>
      cases hscope
      have hlt := lt_of_isOpen (isOpen_of_cons rfl hopen)
      rw [List.length_cons, Nat.lt_succ_iff_lt_or_eq] at hlt
      rcases hlt with hlt | rfl
      · exact .inl hlt
      · exact .inr rfl

end Frames

variable [Emitter σ] {w w' : Workspace σ} {a : Action} {reply : Reply} {depth : Nat}

/-- A close leaves the frames below the scope. -/
theorem Closing.length_frames (h : Closing w w') {scope : Scope}
    (hscope : w.builder.frames.innermostScope? = some scope) :
    w'.builder.frames.length = scope.depth := by
  cases h with
  | block hframes hsplit hne _ =>
      rw [hframes, Frames.innermostScope?_block hsplit hne] at hscope
      obtain ⟨rfl, -⟩ := Frames.splitFunction?_eq_some_iff.mp hsplit
      cases hscope
      simp
  | function hframes _ _ _ | definition hframes _ _ _ =>
      rw [hframes] at hscope
      cases hscope
      rfl
  | module hframes _ _ =>
      rw [hframes] at hscope
      cases hscope
      rfl

/-- Whether a function is barred in a workspace. -/
def Workspace.Bars (w : Workspace σ) (depth : Nat) : Prop :=
  Barred depth w.builder.frames.kinds w.builder.result.isSome

namespace Workspace.Bars

omit [Emitter σ] in
theorem replaceBlock (h : w.Bars depth) (kind : BlockKind) :
    (w.withFrames (w.builder.frames.replaceBlock kind)).Bars depth := by
  have hkinds : (w.builder.frames.replaceBlock kind).kinds = w.builder.frames.kinds := by
    simp [Frames.kinds]
  rwa [Bars, Workspace.withFrames_frames, hkinds]

/-- A barred function is not closed, and the close of a scope above it leaves a barrier. -/
theorem closing (h : w.Bars depth) (hshape : w.builder.frames.Shaped) (hnested : w.builder.frames.Nested)
    {scope : Scope} (hscope : w.builder.frames.innermostScope? = some scope) (hclosing : Closing w w') :
    w'.Bars depth := by
  have habove := hshape.lt_depth_or_eq h.isOpen hscope
  unfold Bars at h ⊢
  cases hclosing with
  | block hframes hsplit _ _ =>
      rw [hframes, Frames.kinds_cons] at h
      rw [Workspace.withFrames_frames, Frames.kinds_replace_split hsplit]
      exact h.of_block
  | function hframes _ _ hresult =>
      rw [hframes] at h hscope
      cases hscope
      rcases habove with hlt | heq
      · cases hlt
      · -- the function itself finds the result full
        cases heq
        rw [hresult] at h
        have htop : Barred ([] : List ScopeKind).length ([] ++ [.function] ++ [.block]) false := h
        cases htop.of_top.2
  | @definition _ f f' func m m' below hframes _ _ _ =>
      rw [hframes] at h hscope hnested
      rw [Frames.kinds_cons, Frames.kinds_cons] at h
      cases hscope
      rcases habove with hlt | heq
      · -- a function inside, so that the module is above the one that is barred
        have hopen := h.isOpen
        rw [List.append_assoc, List.getElem?_append_left (by simpa using hlt)] at hopen
        have hmodule : below.any Frame.isModule = false := by
          cases hnested.tail.tail with
          | module _ hmodule _ => exact hmodule
        rw [Workspace.withFrames_frames, Frames.kinds_cons]
        exact Barred.of_outside (Frames.isOpen_of_cons rfl hopen) (Frames.module_notMem_kinds.mpr hmodule)
          _ (.inl List.mem_cons_self)
      · -- the function itself is not on a module
        cases heq
        rw [← Frames.length_kinds] at h
        exact absurd (by simp [Frame.kind]) h.of_top.1
  | @module m module below hframes _ _ =>
      rw [hframes] at h hnested
      cases hnested with
      | module _ hmodule _ =>
          have hopen := Frames.isOpen_of_cons rfl h.isOpen
          have hbarred := Barred.of_outside hopen (Frames.module_notMem_kinds.mpr hmodule) [] (.inr rfl)
          rwa [List.append_nil] at hbarred

/-- Every success leaves a barred function barred, unless the open frames are dropped. -/
theorem change (h : w.Bars depth) (hshape : w.builder.frames.Shaped) (hnested : w.builder.frames.Nested)
    (hchange : Change w a reply w') (hfailed : w'.builder.failed = false) : w'.Bars depth := by
  have hlt := Frames.lt_of_isOpen h.isOpen
  have hne : w.builder.frames.isEmpty = false := by
    rw [List.isEmpty_eq_false_iff]
    exact List.ne_nil_of_length_pos (Nat.zero_lt_of_lt hlt)
  unfold Bars at h ⊢
  cases hchange with
  | openModule => exact Frames.kinds_cons _ _ ▸ h.append _
  | openFunction =>
      rw [Workspace.withFrames_frames, Frames.kinds_cons, Frames.kinds_cons]
      exact (h.append _).append _
  | openBlock _ hsplit _ =>
      rw [Workspace.withFrames_frames, Frames.kinds_cons, Frames.kinds_replace_split hsplit]
      exact h.append _
  | close _ hscope hclosing => exact closing h hshape hnested hscope hclosing
  | abort =>
      rw [hne] at hfailed
      cases hfailed
  | editModule _ hframes _ | editFunction _ hframes _ =>
      rw [hframes] at h
      exact h
  | emit _ hsplit _ =>
      rw [Workspace.withFrames_frames, Frames.kinds_replace_split hsplit]
      exact h
  | setResult => exact h.fill
  | takeResult => exact hne ▸ h
  | setRenamers | registerRenamer | rename => exact h

/-- A module or a function that is opened inside a function bars it. -/
theorem of_opening (hopen : w.builder.frames.kinds[depth]? = some .function)
    (ha : a = .openModule ∨ a = .openFunction) (hchange : Change w a reply w') : w'.Bars depth := by
  unfold Bars
  cases hchange with
  | openModule hmodule =>
      rw [Workspace.withFrames_frames, Frames.kinds_cons]
      exact Barred.of_outside hopen (Frames.module_notMem_kinds.mpr hmodule) _ (.inl List.mem_cons_self)
  | openFunction =>
      rw [Workspace.withFrames_frames, Frames.kinds_cons, Frames.kinds_cons]
      exact (Barred.of_function hopen _).append _
  | openBlock h | close h | editModule h | editFunction h | emit h => rcases ha with rfl | rfl <;> cases h
  | abort | setResult | takeResult | setRenamers | registerRenamer | rename =>
      rcases ha with ha | ha <;> cases ha

end Workspace.Bars

/-! ## Runs -/

namespace Workspace

/-- A function that is barred stays so, as long as the session does not fail. -/
theorem bars_after (hshape : w.builder.frames.Shaped) (hnested : w.builder.frames.Nested)
    (hbars : w.Bars depth) (events : List Event) (hfailed : (w.after events).builder.failed = false) :
    (w.after events).builder.frames.Shaped ∧ (w.after events).builder.frames.Nested ∧
      (w.after events).Bars depth := by
  refine holds_after (fun _ w => w.builder.frames.Nested ∧ w.Bars depth) ?_ hshape ⟨hnested, hbars⟩ events
    hfailed
  rintro _ w e w' - hfailed hshape ⟨hnested, hbars⟩ hquiet
  refine ⟨hquiet.nested hnested, ?_⟩
  cases hquiet with
  | change _ hchange => exact hbars.change hshape hnested hchange hfailed
  | replaced kind => exact hbars.replaceBlock kind
  | drawn | refused => exact hbars

/-- A barred function leaves the stack only when it is dropped or when its close fails. -/
theorem leaves_of_next {e : Event}
    (hbars : w.builder.failed = false →
      w.builder.frames.Shaped ∧ w.builder.frames.Nested ∧ w.Bars depth)
    (hopen : w.builder.frames.kinds[depth]? = some .function)
    (hleft : (w.next e).builder.frames.kinds[depth]? ≠ some .function) :
    e = .action .abort ∨ ∃ a err w', e = .action a ∧
      w.builder.frames.innermostScope? = some ⟨depth, .function⟩ ∧ a.closes ⟨depth, .function⟩ = true ∧
      a.run w = .error err w' := by
  cases hfailed : w.builder.failed with
  | true =>
      refine .inl (Event.drops_iff.mp (Bool.of_not_eq_false fun hdrops => hleft ?_))
      have hkinds : (w.next e).builder.frames.map Frame.kind = w.builder.frames.map Frame.kind := by
        have hremains := congrArg (·.1.map Frame.kind) (contents_next hfailed e)
        rwa [Event.map_kind_remains, hdrops] at hremains
      rw [Frames.kinds, hkinds, ← Frames.kinds, hopen]
  | false =>
      obtain ⟨hshape, hnested, hbars⟩ := hbars hfailed
      cases hnext : (w.next e).builder.failed with
      | false => exact absurd (bars_after hshape hnested hbars [e] hnext).2.2.isOpen hleft
      | true =>
          rcases failed_next_iff.mp hnext with htrue | hfails
          · simp [hfailed] at htrue
          cases hfails with
          | abort => exact .inl rfl
          | @error _ w' a err _ hrun =>
              rw [next_of_error (e := .action a) hrun] at hleft
              rcases (Action.spares_of_error hshape hfailed hrun).frames with
                ⟨more, hmore⟩ | ⟨scope, hscope, hcloses, more, hmore⟩
              · exact absurd (hmore ▸ ScopeKind.getElem?_append hopen more) hleft
              · rcases hshape.lt_depth_or_eq hopen hscope with hlt | rfl
                · rw [← List.getElem?_take_of_lt hlt] at hopen
                  exact absurd (hmore ▸ ScopeKind.getElem?_append hopen more) hleft
                · exact .inr ⟨a, err, w', rfl, hscope, hcloses, hrun⟩

end Workspace

/-- In every session, with whatever emitter: once a module or a function has been opened inside a function,
no operation closes that function successfully any more. As long as the session has not failed the function
stays open, and it leaves the stack only when it is dropped or by a close of it that fails. -/
theorem enclosing_function_never_closes (config : Config) (newEmitter : Config → σ) (supply : VarSupply)
    (past later : List Event) (opening : Action) (reply : Reply) (w₁ : Workspace σ) (depth : Nat) :
    let w := (⟨.new config newEmitter, supply⟩ : Workspace σ).after past
    w.builder.frameKinds[depth]? = some .function →
    (opening = .openModule ∨ opening = .openFunction) → opening.run w = .ok reply w₁ →
      ∀ s ∈ w₁.steps later,
        (s.before.builder.failed = false → s.before.builder.frameKinds[depth]? = some .function) ∧
        (∀ a reply' w', s.event = .action a →
          s.before.builder.frames.innermostScope? = some ⟨depth, .function⟩ →
          a.closes ⟨depth, .function⟩ = true → a.run s.before ≠ .ok reply' w') ∧
        (s.before.builder.frameKinds[depth]? = some .function →
          s.after.builder.frameKinds[depth]? ≠ some .function →
            s.event = .action .abort ∨ ∃ a err w', s.event = .action a ∧
              s.before.builder.frames.innermostScope? = some ⟨depth, .function⟩ ∧
              a.closes ⟨depth, .function⟩ = true ∧ a.run s.before = .error err w') := by
  intro w hopen hopening hrun s hs
  have hfailed : w.builder.failed = false := by
    rcases hopening with rfl | rfl <;> exact Action.not_failed_of_ok rfl hrun
  obtain ⟨hshape, hnested⟩ := Workspace.nested_after config newEmitter supply past hfailed
  have hchange : Change w opening reply w₁ := Change.of_run hshape hrun
  have hbars : w₁.Bars depth := .of_opening hopen hopening hchange
  obtain ⟨before, after, rfl, hbefore⟩ := Workspace.mem_steps hs
  have hbarred : s.before.builder.failed = false → s.before.builder.frames.Shaped ∧
      s.before.builder.frames.Nested ∧ s.before.Bars depth := by
    rw [hbefore]
    exact Workspace.bars_after (hchange.shapedBy trivial hshape) (hchange.nested hnested) hbars before
  refine ⟨fun hfailed => (hbarred hfailed).2.2.isOpen, ?_, Workspace.leaves_of_next hbarred⟩
  intro a reply' w' _ hscope hcloses hclose
  obtain ⟨hshape, hnested, hbars⟩ := hbarred (Action.not_failed_of_closes hcloses hclose)
  obtain ⟨-, -, hclosing⟩ := (Action.run_closes_eq_ok hshape hscope hcloses).mp hclose
  have hstays := Frames.lt_of_isOpen (hbars.closing hshape hnested hscope hclosing).isOpen
  rw [hclosing.length_frames hscope] at hstays
  exact Nat.lt_irrefl depth hstays

/-- A module inside a function is closed, and the function has all that it needs. -/
theorem enclosing_function_never_closes_around_module :
    let w := (Workspace.new {} ⟨0⟩).after [.action .openFunction]
    ∃ reply w₁, Action.openModule.run w = .ok reply w₁ ∧
      let w₂ := w₁.after
        [.action .closeScope, .action (.setResultTy .shape), .action (.addOutput (.op "a"))]
      w₂.builder.failed = false ∧ w₂.builder.frames.innermostScope? = some ⟨0, .function⟩ ∧
        ∀ reply' w', Action.closeScope.run w₂ ≠ .ok reply' w' := by
  refine ⟨_, _, rfl, rfl, rfl, fun reply' w' => ?_⟩
  have hnever := enclosing_function_never_closes {} BlockWriter.ofConfig ⟨0⟩ [.action .openFunction]
    [.action .closeScope, .action (.setResultTy .shape), .action (.addOutput (.op "a")),
      .action .closeScope]
    .openModule _ _ 0 rfl (.inl rfl) rfl ⟨_, .action .closeScope⟩
    (.tail _ (.tail _ (.tail _ (.head _))))
  exact hnever.2.1 .closeScope reply' w' rfl rfl rfl

end ScopedBuilder
