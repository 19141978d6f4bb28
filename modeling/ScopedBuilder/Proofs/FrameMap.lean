import ScopedBuilder.Proofs.Stack

/-!
# Stacks with other parts

A stack whose modules and functions are exchanged for others, and whose blocks are kept. Every lookup goes by
the kinds of the frames, so on such a stack it finds the part that has come into the place of the one it
found before.
-/

namespace ScopedBuilder

def Artifact.map (onModule : Module → Module) (onFunction : Func → Func) : Artifact → Artifact
  | .module m => .module (onModule m)
  | .function f => .function (onFunction f)

theorem Artifact.map_id : Artifact.map id id = id := by
  funext artifact
  cases artifact <;> rfl

variable {σ : Type} (onModule : ModuleDraft → ModuleDraft) (onFunction : FuncDraft σ → FuncDraft σ)

namespace Frame

def map : Frame σ → Frame σ
  | .module m => .module (onModule m)
  | .function f => .function (onFunction f)
  | .block kind => .block kind

variable (x : Frame σ)

@[simp] theorem kind_map : (x.map onModule onFunction).kind = x.kind := by cases x <;> rfl

@[simp] theorem isModule_map : (x.map onModule onFunction).isModule = x.isModule := by cases x <;> rfl

@[simp] theorem isFunction_map : (x.map onModule onFunction).isFunction = x.isFunction := by
  cases x <;> rfl

@[simp] theorem blockKind?_map : (x.map onModule onFunction).blockKind? = x.blockKind? := by
  cases x <;> rfl

end Frame

namespace Frames

def mapParts (frames : Frames σ) : Frames σ := frames.map (Frame.map onModule onFunction)

variable (frames above below : Frames σ)

theorem mapParts_cons (x : Frame σ) :
    mapParts onModule onFunction (x :: below) =
      x.map onModule onFunction :: below.mapParts onModule onFunction := rfl

theorem mapParts_split (f : FuncDraft σ) :
    mapParts onModule onFunction (above ++ .function f :: below) =
      above.mapParts onModule onFunction ++
        .function (onFunction f) :: below.mapParts onModule onFunction :=
  List.map_append

theorem length_mapParts : List.length (frames.mapParts onModule onFunction) = List.length frames :=
  List.length_map ..

theorem isEmpty_mapParts : List.isEmpty (frames.mapParts onModule onFunction) = List.isEmpty frames := by
  cases frames <;> rfl

theorem any_isModule_mapParts :
    List.any (frames.mapParts onModule onFunction) Frame.isModule = List.any frames Frame.isModule := by
  simp [mapParts, Function.comp_def]

theorem any_isFunction_mapParts :
    List.any (frames.mapParts onModule onFunction) Frame.isFunction =
      List.any frames Frame.isFunction := by
  simp [mapParts, Function.comp_def]

theorem topBlock?_mapParts : (frames.mapParts onModule onFunction).topBlock? = frames.topBlock? := by
  cases frames <;> simp [topBlock?, mapParts]

theorem innermostScope?_mapParts :
    (frames.mapParts onModule onFunction).innermostScope? = frames.innermostScope? := by
  rcases frames with _ | ⟨_ | _ | _, _ | ⟨_ | _ | _, _⟩⟩ <;>
    simp [innermostScope?, mapParts, Frame.map, Frame.kind]

theorem functionScope?_mapParts :
    (frames.mapParts onModule onFunction).functionScope? =
      frames.functionScope?.map fun x => (x.1, onFunction x.2.1, x.2.2.mapParts onModule onFunction) := by
  rcases frames with _ | ⟨_ | _ | _, _ | ⟨_ | _ | _, _⟩⟩ <;> rfl

theorem moduleScope?_mapParts :
    (frames.mapParts onModule onFunction).moduleScope? =
      frames.moduleScope?.map fun x => (onModule x.1, x.2.mapParts onModule onFunction) := by
  rcases frames with _ | ⟨_ | _ | _, _⟩ <;> rfl

theorem splitFunction?_mapParts :
    (frames.mapParts onModule onFunction).splitFunction? =
      frames.splitFunction?.map fun x =>
        (x.1.mapParts onModule onFunction, onFunction x.2.1, x.2.2.mapParts onModule onFunction) := by
  induction frames with
  | nil => rfl
  | cons x below ih =>
      rw [mapParts_cons]
      cases x with
      | function f => rfl
      | module m =>
          rw [Frame.map, splitFunction?_module, splitFunction?_module, ih]
          cases splitFunction? below <;> rfl
      | block kind =>
          rw [Frame.map, splitFunction?_block, splitFunction?_block, ih]
          cases splitFunction? below <;> rfl

theorem replaceBlock_mapParts (kind : BlockKind) :
    (frames.mapParts onModule onFunction).replaceBlock kind =
      (frames.replaceBlock kind).mapParts onModule onFunction := by
  induction frames with
  | nil => rfl
  | cons x below ih =>
      rw [mapParts_cons]
      cases x with
      | block previous => rfl
      | module m =>
          rw [Frame.map, replaceBlock_module, replaceBlock_module, mapParts_cons, Frame.map, ih]
      | function f =>
          rw [Frame.map, replaceBlock_function, replaceBlock_function, mapParts_cons, Frame.map, ih]

end Frames

end ScopedBuilder
