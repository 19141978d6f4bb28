import ScopedBuilder.Builder.Frame

/-!
# The stack of open frames

How the innermost function splits the stack, and the shape that every stack keeps: a function always
has its default block directly above it.
-/

namespace ScopedBuilder

namespace Frames

variable {σ : Type}

/-! ## The innermost function -/

@[simp] theorem splitFunction?_nil : splitFunction? ([] : Frames σ) = none := rfl

@[simp] theorem splitFunction?_function (f : FuncDraft σ) (below : Frames σ) :
    splitFunction? (.function f :: below) = some ([], f, below) := rfl

@[simp] theorem splitFunction?_module (m : ModuleDraft) (below : Frames σ) :
    splitFunction? (.module m :: below) =
      (splitFunction? below).map fun (above, f, rest) => (.module m :: above, f, rest) := rfl

@[simp] theorem splitFunction?_block (kind : BlockKind) (below : Frames σ) :
    splitFunction? (.block kind :: below) =
      (splitFunction? below).map fun (above, f, rest) => (.block kind :: above, f, rest) := rfl

theorem splitFunction?_cons {x : Frame σ} (hx : x.isFunction = false) (below : Frames σ) :
    splitFunction? (x :: below) =
      (splitFunction? below).map fun (above, f, rest) => (x :: above, f, rest) := by
  cases x with
  | function f => cases hx
  | module m => rfl
  | block kind => rfl

theorem splitFunction?_append {above below : Frames σ} {f : FuncDraft σ}
    (h : ∀ x ∈ above, x.isFunction = false) :
    splitFunction? (above ++ .function f :: below) = some (above, f, below) := by
  induction above with
  | nil => rfl
  | cons x above ih =>
      obtain ⟨hx, habove⟩ := List.forall_mem_cons.mp h
      rw [List.cons_append, splitFunction?_cons hx, ih habove]
      rfl

theorem eq_append_of_splitFunction? {frames above below : Frames σ} {f : FuncDraft σ}
    (h : splitFunction? frames = some (above, f, below)) :
    frames = above ++ .function f :: below ∧ ∀ x ∈ above, x.isFunction = false := by
  induction frames generalizing above with
  | nil => cases h
  | cons x frames ih =>
      cases x with
      | function g =>
          cases h
          exact ⟨rfl, by simp⟩
      | module m | block kind =>
          obtain ⟨⟨inner, g, rest⟩, hsplit, heq⟩ := Option.map_eq_some_iff.mp h
          cases heq
          obtain ⟨rfl, hinner⟩ := ih hsplit
          exact ⟨rfl, List.forall_mem_cons.mpr ⟨rfl, hinner⟩⟩

/-- The frames above the innermost function are exactly those before the first function. -/
theorem splitFunction?_eq_some_iff {frames above below : Frames σ} {f : FuncDraft σ} :
    splitFunction? frames = some (above, f, below) ↔
      frames = above ++ .function f :: below ∧ ∀ x ∈ above, x.isFunction = false := by
  constructor
  · exact eq_append_of_splitFunction?
  · rintro ⟨rfl, habove⟩
    exact splitFunction?_append habove

theorem splitFunction?_eq_none_iff {frames : Frames σ} :
    splitFunction? frames = none ↔ frames.any Frame.isFunction = false := by
  induction frames with
  | nil => simp
  | cons x frames ih => cases x <;> simp [Frame.isFunction, ih]

/-! ## The innermost scope -/

@[simp] theorem functionScope?_eq_some_iff {frames below : Frames σ} {kind : BlockKind}
    {f : FuncDraft σ} :
    functionScope? frames = some (kind, f, below) ↔
      frames = .block kind :: .function f :: below := by
  unfold functionScope?
  split <;> simp_all

@[simp] theorem moduleScope?_eq_some_iff {frames below : Frames σ} {m : ModuleDraft} :
    moduleScope? frames = some (m, below) ↔ frames = .module m :: below := by
  unfold moduleScope?
  split <;> simp_all

theorem topBlock?_append {above : Frames σ} (h : above ≠ []) (below : Frames σ) :
    topBlock? (above ++ below) = above.topBlock? := by
  cases above with
  | nil => contradiction
  | cons x above => rfl

/-- A block that is not the default block of a function is a scope of its own. -/
theorem innermostScope?_block {kind : BlockKind} {rest above below : Frames σ} {f : FuncDraft σ}
    (hsplit : splitFunction? rest = some (above, f, below)) (hne : above ≠ []) :
    innermostScope? (.block kind :: rest) = some ⟨rest.length, .block⟩ := by
  cases rest with
  | nil => simp at hsplit
  | cons x rest =>
      cases x with
      | module m => rfl
      | block k => rfl
      | function g =>
          cases hsplit
          exact absurd rfl hne

/-! ## Modules -/

/-- The open modules, innermost first. -/
def modules (frames : Frames σ) : List ModuleDraft := frames.filterMap Frame.module?

@[simp] theorem modules_nil : modules ([] : Frames σ) = [] := rfl

@[simp] theorem modules_module (m : ModuleDraft) (below : Frames σ) :
    modules (.module m :: below) = m :: modules below := rfl

@[simp] theorem modules_function (f : FuncDraft σ) (below : Frames σ) :
    modules (.function f :: below) = modules below := rfl

@[simp] theorem modules_block (kind : BlockKind) (below : Frames σ) :
    modules (.block kind :: below) = modules below := rfl

@[simp] theorem modules_append (above below : Frames σ) :
    modules (above ++ below) = modules above ++ modules below :=
  List.filterMap_append

theorem any_isModule_eq_false_iff {frames : Frames σ} :
    frames.any Frame.isModule = false ↔ frames.modules = [] := by
  induction frames with
  | nil => simp
  | cons x frames ih => cases x <;> simp [Frame.isModule, ← ih]

theorem nearestModule?_eq (frames : Frames σ) : frames.nearestModule? = frames.modules.head? :=
  List.head?_filterMap.symm

/-- Work on a function leaves the modules as they are. -/
theorem modules_replace_split {frames above below : Frames σ} {f f' : FuncDraft σ}
    (hsplit : splitFunction? frames = some (above, f, below)) :
    modules (above ++ .function f' :: below) = frames.modules := by
  obtain ⟨rfl, -⟩ := splitFunction?_eq_some_iff.mp hsplit
  simp

/-! ## The shape of a stack -/

/-- A stack of scopes: a function is pushed and popped together with its default block, which is of an
allowed kind. -/
inductive ShapedBy (allowed : BlockKind → Prop) : Frames σ → Prop where
  | nil : ShapedBy allowed []
  | module (m : ModuleDraft) {below : Frames σ} :
      ShapedBy allowed below → ShapedBy allowed (.module m :: below)
  | block (kind : BlockKind) {below : Frames σ} :
      ShapedBy allowed below → ShapedBy allowed (.block kind :: below)
  | function {kind : BlockKind} (hkind : allowed kind) (f : FuncDraft σ) {below : Frames σ} :
      ShapedBy allowed below → ShapedBy allowed (.block kind :: .function f :: below)

/-- A stack of scopes, whatever the kinds of the default blocks. -/
abbrev Shaped : Frames σ → Prop := ShapedBy fun _ => True

variable {allowed : BlockKind → Prop}

namespace ShapedBy

variable {frames above below : Frames σ} {f f' : FuncDraft σ}

theorem not_function : ¬ ShapedBy allowed (.function f :: below) := nofun

theorem head?_isFunction (h : ShapedBy allowed frames) :
    ∀ x ∈ frames.head?, x.isFunction = false := by
  intro x hx
  cases h with
  | nil => cases hx
  | module | block | function =>
      obtain rfl := Option.some.inj hx
      rfl

/-- A block that is not directly on a function is a scope of its own. -/
theorem innermostScope?_block {kind : BlockKind} (h : ShapedBy allowed below) :
    innermostScope? (.block kind :: below) = some ⟨below.length, .block⟩ := by
  cases h <;> rfl

theorem exists_function {depth : Nat} (h : ShapedBy allowed frames)
    (hscope : frames.innermostScope? = some ⟨depth, .function⟩) :
    ∃ kind f below, frames = .block kind :: .function f :: below ∧ allowed kind ∧
      depth = below.length := by
  cases h with
  | nil | module => cases hscope
  | block kind hbelow =>
      rw [hbelow.innermostScope?_block] at hscope
      cases hscope
  | function hkind f _ =>
      cases Option.some.inj hscope
      exact ⟨_, f, _, rfl, hkind, rfl⟩

/-- Every function has its default block directly above it. -/
theorem exists_block_above (h : ShapedBy allowed frames)
    (hframes : frames = above ++ .function f :: below) :
    ∃ rest kind, above = rest ++ [.block kind] ∧ allowed kind := by
  induction h generalizing above with
  | nil => simp at hframes
  | module m _ ih | block kind _ ih =>
      cases above with
      | nil => cases hframes
      | cons x above =>
          simp only [List.cons_append, List.cons.injEq] at hframes
          obtain ⟨rest, default, rfl, hdefault⟩ := ih hframes.2
          exact ⟨x :: rest, default, rfl, hdefault⟩
  | @function kind hkind g _ _ ih =>
      rcases above with _ | ⟨x, _ | ⟨y, above⟩⟩
      · cases hframes
      · cases hframes
        exact ⟨[], kind, rfl, hkind⟩
      · simp only [List.cons_append, List.cons.injEq] at hframes
        obtain ⟨rest, default, rfl, hdefault⟩ := ih hframes.2.2
        exact ⟨x :: y :: rest, default, rfl, hdefault⟩

theorem above_ne_nil (h : ShapedBy allowed frames)
    (hsplit : splitFunction? frames = some (above, f, below)) : above ≠ [] := by
  obtain ⟨rest, kind, rfl, -⟩ := h.exists_block_above (splitFunction?_eq_some_iff.mp hsplit).1
  simp

/-- Work on a function leaves the shape as it is. -/
theorem replace (h : ShapedBy allowed frames) (hframes : frames = above ++ .function f :: below) :
    ShapedBy allowed (above ++ .function f' :: below) := by
  induction h generalizing above with
  | nil => simp at hframes
  | module m _ ih =>
      cases above with
      | nil => cases hframes
      | cons x above =>
          simp only [List.cons_append, List.cons.injEq] at hframes
          obtain ⟨rfl, hbelow⟩ := hframes
          exact .module m (ih hbelow)
  | block kind _ ih =>
      cases above with
      | nil => cases hframes
      | cons x above =>
          simp only [List.cons_append, List.cons.injEq] at hframes
          obtain ⟨rfl, hbelow⟩ := hframes
          exact .block kind (ih hbelow)
  | function hkind g hbelow ih =>
      rcases above with _ | ⟨x, _ | ⟨y, above⟩⟩
      · cases hframes
      · cases hframes
        exact .function hkind f' hbelow
      · simp only [List.cons_append, List.cons.injEq] at hframes
        obtain ⟨rfl, rfl, hbelow⟩ := hframes
        exact .function hkind g (ih hbelow)

theorem replace_split (h : ShapedBy allowed frames)
    (hsplit : splitFunction? frames = some (above, f, below)) :
    ShapedBy allowed (above ++ .function f' :: below) :=
  h.replace (splitFunction?_eq_some_iff.mp hsplit).1

end ShapedBy

/-! ## Replacing a block -/

variable {kind : BlockKind} {frames above below : Frames σ}

@[simp] theorem replaceBlock_nil : replaceBlock kind ([] : Frames σ) = [] := rfl

@[simp] theorem replaceBlock_module (m : ModuleDraft) :
    replaceBlock kind (.module m :: below) = .module m :: replaceBlock kind below := rfl

@[simp] theorem replaceBlock_function (f : FuncDraft σ) :
    replaceBlock kind (.function f :: below) = .function f :: replaceBlock kind below := rfl

@[simp] theorem replaceBlock_block (previous : BlockKind) :
    replaceBlock kind (.block previous :: below) = .block kind :: below := rfl

/-- Every frame is of the kind that it was of. -/
@[simp] theorem map_kind_replaceBlock (kind : BlockKind) (frames : Frames σ) :
    (replaceBlock kind frames).map Frame.kind = frames.map Frame.kind := by
  induction frames with
  | nil => rfl
  | cons x below ih => cases x <;> simp [Frame.kind, ih]

@[simp] theorem length_replaceBlock (kind : BlockKind) (frames : Frames σ) :
    List.length (replaceBlock kind frames) = List.length frames := by
  have h := congrArg List.length (map_kind_replaceBlock kind frames)
  rwa [List.length_map, List.length_map] at h

@[simp] theorem modules_replaceBlock (kind : BlockKind) (frames : Frames σ) :
    (replaceBlock kind frames).modules = frames.modules := by
  induction frames with
  | nil => rfl
  | cons x below ih => cases x <;> simp [ih]

theorem topBlock?_replaceBlock {top : BlockKind} (h : frames.topBlock? = some top) :
    (replaceBlock kind frames).topBlock? = some kind := by
  cases frames with
  | nil => cases h
  | cons x below => cases x <;> first | rfl | cases h

theorem nearestBlock?_of_topBlock? {top : BlockKind} (h : frames.topBlock? = some top) :
    frames.nearestBlock? = some top := by
  cases frames with
  | nil => cases h
  | cons x below => cases x <;> first | exact h | cases h

@[simp] theorem function_mem_replaceBlock {f : FuncDraft σ} :
    .function f ∈ replaceBlock kind frames ↔ .function f ∈ frames := by
  induction frames with
  | nil => exact Iff.rfl
  | cons x below ih => cases x <;> simp [ih]

theorem isFunction_of_mem_replaceBlock (h : ∀ x ∈ frames, x.isFunction = false) :
    ∀ x ∈ replaceBlock kind frames, x.isFunction = false := by
  induction frames with
  | nil => exact h
  | cons x below ih =>
      obtain ⟨hx, hbelow⟩ := List.forall_mem_cons.mp h
      cases x with
      | function f => cases hx
      | module m => exact List.forall_mem_cons.mpr ⟨rfl, ih hbelow⟩
      | block previous => exact List.forall_mem_cons.mpr ⟨rfl, hbelow⟩

theorem splitFunction?_replaceBlock_eq_none (h : splitFunction? frames = none) :
    splitFunction? (replaceBlock kind frames) = none := by
  rw [splitFunction?_eq_none_iff] at h ⊢
  simpa using isFunction_of_mem_replaceBlock (by simpa using h)

namespace ShapedBy

/-- The nearest block is above the innermost function, which has one directly above it. -/
theorem replaceBlock_eq {f : FuncDraft σ} (h : ShapedBy allowed frames)
    (hsplit : splitFunction? frames = some (above, f, below)) :
    frames.replaceBlock kind = above.replaceBlock kind ++ .function f :: below := by
  induction h generalizing above with
  | nil => simp at hsplit
  | module m _ ih =>
      simp only [splitFunction?_module, Option.map_eq_some_iff, Prod.exists, Prod.mk.injEq] at hsplit
      obtain ⟨above, f, below, hsplit, rfl, rfl, rfl⟩ := hsplit
      simpa using ih hsplit
  | block previous _ ih =>
      simp only [splitFunction?_block, Option.map_eq_some_iff, Prod.exists, Prod.mk.injEq] at hsplit
      obtain ⟨above, f, below, hsplit, rfl, rfl, rfl⟩ := hsplit
      simp [(splitFunction?_eq_some_iff.mp hsplit).1]
  | function _ g _ _ =>
      cases hsplit
      rfl

/-- The block may be the default block of a function. -/
theorem replaceBlock (h : ShapedBy allowed frames) (hkind : allowed kind) :
    ShapedBy allowed (frames.replaceBlock kind) := by
  induction h with
  | nil => exact .nil
  | module m _ ih => exact .module m ih
  | block _ hbelow _ => exact .block kind hbelow
  | function _ f hbelow _ => exact .function hkind f hbelow

end ShapedBy

end Frames

end ScopedBuilder
