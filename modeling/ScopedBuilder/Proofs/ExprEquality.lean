import Mathlib.Tactic.Tauto
import ScopedBuilder.Expr.Equality
import ScopedBuilder.Naming.Renamers
import ScopedBuilder.Proofs.NumericEquality

/-!
# Equality of expressions

Two expressions are equal when nothing is left to tell them apart once every variable is taken down to its
identity and every zero to the positive one, and no NaN is among their attributes. So equality is symmetric and
transitive, it is reflexive away from NaNs, and names and annotations of variables do not count.
-/

namespace ScopedBuilder

/-! ## What counts of a variable and of an attribute -/

/-- The variable with its identity and nothing else. -/
def Var.bare (v : Var) : Var := ⟨v.id, "", false, none, none⟩

namespace AttrValue

/-- The value itself, but of the two zeros the positive one. -/
def canonical : AttrValue → AttrValue
  | float x => .float x.canonical
  | str value => .str value
  | int value => .int value
  | bool value => .bool value

def isNaN : AttrValue → Bool
  | float x => x.isNaN
  | str _ | int _ | bool _ => false

end AttrValue

/-- The same keys, with other values. -/
def Attrs.map (g : AttrValue → AttrValue) (a : Attrs) : Attrs where
  entries := a.entries.map fun x => (x.1, g x.2)
  sorted := a.sorted.map _ fun _ _ h => h

namespace Expr

mutual

/-- The expression with every variable and every attribute value replaced. -/
def map (f : Var → Var) (g : AttrValue → AttrValue) : Expr → Expr
  | .var v => .var (f v)
  | .global h => .global h
  | .external symbol => .external symbol
  | .op name => .op name
  | .shape dims => .shape dims
  | .tuple fields ty => .tuple (mapAll f g fields) ty
  | .call callee args attrs typeArgs ty =>
    .call (map f g callee) (mapAll f g args) (attrs.map g) typeArgs ty
  | .seq blocks body ty => .seq (mapBlocks f g blocks) (map f g body) ty

def mapAll (f : Var → Var) (g : AttrValue → AttrValue) : List Expr → List Expr
  | [] => []
  | e :: es => map f g e :: mapAll f g es

def mapBlocks (f : Var → Var) (g : AttrValue → AttrValue) : List (Block Expr) → List (Block Expr)
  | [] => []
  | ⟨kind, bindings⟩ :: blocks => ⟨kind, mapBindings f g bindings⟩ :: mapBlocks f g blocks

def mapBindings (f : Var → Var) (g : AttrValue → AttrValue) :
    List (Binding Expr) → List (Binding Expr)
  | [] => []
  | ⟨v, e⟩ :: bindings => ⟨f v, map f g e⟩ :: mapBindings f g bindings

end

mutual

/-- The values of all attributes in the expression. -/
def attrValues : Expr → List AttrValue
  | .tuple fields _ => attrValuesAll fields
  | .call callee args attrs _ _ =>
    attrValues callee ++ attrValuesAll args ++ attrs.entries.map (·.2)
  | .seq blocks body _ => attrValuesBlocks blocks ++ attrValues body
  | .var _ | .global _ | .external _ | .op _ | .shape _ => []

def attrValuesAll : List Expr → List AttrValue
  | [] => []
  | e :: es => attrValues e ++ attrValuesAll es

def attrValuesBlocks : List (Block Expr) → List AttrValue
  | [] => []
  | ⟨_, bindings⟩ :: blocks => attrValuesBindings bindings ++ attrValuesBlocks blocks

def attrValuesBindings : List (Binding Expr) → List AttrValue
  | [] => []
  | ⟨_, e⟩ :: bindings => attrValues e ++ attrValuesBindings bindings

end

/-- The expression without the names, flags, shapes and types of its variables. -/
def bare (e : Expr) : Expr := e.map .bare id

/-- All that is left to compare. -/
def skeleton (e : Expr) : Expr := e.map .bare .canonical

def hasNaN (e : Expr) : Bool := e.attrValues.any AttrValue.isNaN

end Expr

/-! ## Comparing the parts -/

theorem Var.beq_iff_bare {v w : Var} : (v == w) = true ↔ v.bare = w.bare := by
  change (v.id == w.id) = true ↔ _
  simp [bare]

namespace AttrValue

theorem beq_iff_canonical (a b : AttrValue) :
    (a == b) = true ↔ a.canonical = b.canonical ∧ a.isNaN = false := by
  change same a b = true ↔ _
  cases a with
  | float x => cases b <;> simp [same, canonical, isNaN, Binary64.beq_iff_canonical]
  | str value => cases b <;> simp [same, canonical, isNaN]
  | int value => cases b <;> simp [same, canonical, isNaN]
  | bool value => cases b <;> simp [same, canonical, isNaN]

@[simp] theorem isNaN_canonical (a : AttrValue) : a.canonical.isNaN = a.isNaN := by
  cases a with
  | float x => exact x.isNaN_canonical
  | str _ | int _ | bool _ => rfl

end AttrValue

namespace Attrs

theorem map_map (g g' : AttrValue → AttrValue) (a : Attrs) : (a.map g).map g' = a.map (g' ∘ g) := by
  simp [map, Function.comp_def]

theorem entries_beq_iff (as bs : List (String × AttrValue)) :
    (as == bs) = true ↔
      as.map (fun x => (x.1, x.2.canonical)) = bs.map (fun x => (x.1, x.2.canonical)) ∧
        (as.map (·.2)).any AttrValue.isNaN = false := by
  induction as generalizing bs with
  | nil => cases bs <;> simp
  | cons a as ih =>
      cases bs with
      | nil => simp
      | cons b bs =>
          have hhead : (a == b) = true ↔
              a.1 = b.1 ∧ a.2.canonical = b.2.canonical ∧ a.2.isNaN = false := by
            change (a.1 == b.1 && a.2 == b.2) = true ↔ _
            rw [Bool.and_eq_true, beq_iff_eq, AttrValue.beq_iff_canonical]
          rw [List.cons_beq_cons, Bool.and_eq_true, ih, hhead]
          simp only [List.map_cons, List.cons.injEq, Prod.mk.injEq, List.any_cons, Bool.or_eq_false_iff]
          tauto

theorem beq_iff_map_canonical (a b : Attrs) :
    (a == b) = true ↔
      a.map .canonical = b.map .canonical ∧ (a.entries.map (·.2)).any AttrValue.isNaN = false := by
  change (a.entries == b.entries) = true ↔ _
  rw [entries_beq_iff, map, map, Attrs.mk.injEq]

end Attrs

/-! ## Comparing expressions -/

namespace Expr

mutual

/-- The comparison compares the skeletons, and fails at a NaN. With the same skeleton both sides have their NaNs
at the same places, so it is enough to ask for those of one side. -/
theorem same_iff : ∀ a b : Expr,
    same a b = true ↔ a.skeleton = b.skeleton ∧ a.hasNaN = false
  | .tuple fields ty, b => by
      cases b with
      | tuple gs u =>
          simp only [same, skeleton, map, hasNaN, attrValues, sameAll_iff fields, Bool.and_eq_true,
            beq_iff_eq, tuple.injEq]
          tauto
      | _ => simp [same, skeleton, map]
  | .call callee args attrs typeArgs ty, b => by
      cases b with
      | call g bs qs us u =>
          have hcallee := same_iff callee g
          rw [skeleton, skeleton, hasNaN] at hcallee
          simp only [same, skeleton, map, hasNaN, attrValues, hcallee, sameAll_iff args,
            attrs.beq_iff_map_canonical, Bool.and_eq_true, beq_iff_eq, call.injEq, List.any_append,
            Bool.or_eq_false_iff]
          tauto
      | _ => simp [same, skeleton, map]
  | .seq blocks body ty, b => by
      cases b with
      | seq cs g u =>
          have hbody := same_iff body g
          rw [skeleton, skeleton, hasNaN] at hbody
          simp only [same, skeleton, map, hasNaN, attrValues, sameBlocks_iff blocks, hbody,
            Bool.and_eq_true, beq_iff_eq, seq.injEq, List.any_append, Bool.or_eq_false_iff]
          tauto
      | _ => simp [same, skeleton, map]
  | .var v, b => by
      cases b <;> simp [same, skeleton, map, hasNaN, attrValues, Var.beq_iff_bare]
  | .global _, b | .external _, b | .op _, b | .shape _, b => by
      cases b <;> simp [same, skeleton, map, hasNaN, attrValues]

theorem sameAll_iff : ∀ as bs : List Expr,
    sameAll as bs = true ↔ mapAll .bare .canonical as = mapAll .bare .canonical bs ∧
      (attrValuesAll as).any AttrValue.isNaN = false
  | [], [] | [], _ :: _ | _ :: _, [] => by simp [sameAll, mapAll, attrValuesAll]
  | a :: as, b :: bs => by
      rw [sameAll, Bool.and_eq_true, same_iff a b, sameAll_iff as bs, mapAll, mapAll, List.cons.injEq,
        attrValuesAll, List.any_append, Bool.or_eq_false_iff, and_and_and_comm, skeleton, skeleton, hasNaN]

theorem sameBlocks_iff : ∀ as bs : List (Block Expr),
    sameBlocks as bs = true ↔ mapBlocks .bare .canonical as = mapBlocks .bare .canonical bs ∧
      (attrValuesBlocks as).any AttrValue.isNaN = false
  | [], [] | [], _ :: _ | _ :: _, [] => by simp [sameBlocks, mapBlocks, attrValuesBlocks]
  | ⟨k, as⟩ :: blocks, ⟨l, bs⟩ :: later => by
      simp only [sameBlocks, sameBlock, Bool.and_eq_true, sameBindings_iff as bs, beq_iff_eq,
        sameBlocks_iff blocks later, mapBlocks, List.cons.injEq, Block.mk.injEq, attrValuesBlocks,
        List.any_append, Bool.or_eq_false_iff]
      tauto

theorem sameBindings_iff : ∀ as bs : List (Binding Expr),
    sameBindings as bs = true ↔
      mapBindings .bare .canonical as = mapBindings .bare .canonical bs ∧
      (attrValuesBindings as).any AttrValue.isNaN = false
  | [], [] | [], _ :: _ | _ :: _, [] => by simp [sameBindings, mapBindings, attrValuesBindings]
  | ⟨v, a⟩ :: as, ⟨w, b⟩ :: bs => by
      have hvalue := same_iff a b
      rw [skeleton, skeleton, hasNaN] at hvalue
      simp only [sameBindings, sameBinding, Bool.and_eq_true, Var.beq_iff_bare, hvalue,
        sameBindings_iff as bs, mapBindings, List.cons.injEq, Binding.mk.injEq, attrValuesBindings,
        List.any_append, Bool.or_eq_false_iff]
      tauto

end

/-! ## Comparing what is left -/

section Twice

variable (f f' : Var → Var) (g g' : AttrValue → AttrValue)

mutual

theorem map_map : ∀ e : Expr, (e.map f g).map f' g' = e.map (f' ∘ f) (g' ∘ g)
  | .tuple fields _ => by
      simp only [map, mapAll_mapAll fields]
  | .call callee args attrs _ _ => by
      simp only [map, map_map callee, mapAll_mapAll args, attrs.map_map]
  | .seq blocks body _ => by
      simp only [map, mapBlocks_mapBlocks blocks, map_map body]
  | .var _ | .global _ | .external _ | .op _ | .shape _ => by
      simp only [map, Function.comp_apply]

theorem mapAll_mapAll :
    ∀ es : List Expr, mapAll f' g' (mapAll f g es) = mapAll (f' ∘ f) (g' ∘ g) es
  | [] => rfl
  | e :: es => by
      simp only [mapAll, map_map e, mapAll_mapAll es]

theorem mapBlocks_mapBlocks : ∀ blocks : List (Block Expr),
    mapBlocks f' g' (mapBlocks f g blocks) = mapBlocks (f' ∘ f) (g' ∘ g) blocks
  | [] => rfl
  | ⟨_, bindings⟩ :: blocks => by
      simp only [mapBlocks, mapBindings_mapBindings bindings, mapBlocks_mapBlocks blocks]

theorem mapBindings_mapBindings : ∀ bindings : List (Binding Expr),
    mapBindings f' g' (mapBindings f g bindings) = mapBindings (f' ∘ f) (g' ∘ g) bindings
  | [] => rfl
  | ⟨_, e⟩ :: bindings => by
      simp only [mapBindings, map_map e, mapBindings_mapBindings bindings, Function.comp_apply]

end

end Twice

section Values

variable (f : Var → Var) (g : AttrValue → AttrValue)

mutual

theorem attrValues_map : ∀ e : Expr, (e.map f g).attrValues = e.attrValues.map g
  | .tuple fields _ => by
      simp only [map, attrValues, attrValuesAll_mapAll fields]
  | .call callee args attrs _ _ => by
      simp only [map, attrValues, attrValues_map callee, attrValuesAll_mapAll args, Attrs.map,
        List.map_append, List.map_map, Function.comp_def]
  | .seq blocks body _ => by
      simp only [map, attrValues, attrValuesBlocks_mapBlocks blocks, attrValues_map body,
        List.map_append]
  | .var _ | .global _ | .external _ | .op _ | .shape _ => by
      simp only [map, attrValues, List.map_nil]

theorem attrValuesAll_mapAll :
    ∀ es : List Expr, attrValuesAll (mapAll f g es) = (attrValuesAll es).map g
  | [] => rfl
  | e :: es => by
      simp only [mapAll, attrValuesAll, attrValues_map e, attrValuesAll_mapAll es, List.map_append]

theorem attrValuesBlocks_mapBlocks : ∀ blocks : List (Block Expr),
    attrValuesBlocks (mapBlocks f g blocks) = (attrValuesBlocks blocks).map g
  | [] => rfl
  | ⟨_, bindings⟩ :: blocks => by
      simp only [mapBlocks, attrValuesBlocks, attrValuesBindings_mapBindings bindings,
        attrValuesBlocks_mapBlocks blocks, List.map_append]

theorem attrValuesBindings_mapBindings : ∀ bindings : List (Binding Expr),
    attrValuesBindings (mapBindings f g bindings) = (attrValuesBindings bindings).map g
  | [] => rfl
  | ⟨_, e⟩ :: bindings => by
      simp only [mapBindings, attrValuesBindings, attrValues_map e,
        attrValuesBindings_mapBindings bindings, List.map_append]

end

end Values

variable {a a' b b' c : Expr}

theorem beq_iff : (a == b) = true ↔ a.skeleton = b.skeleton ∧ a.hasNaN = false :=
  same_iff a b

@[simp] theorem hasNaN_skeleton (e : Expr) : e.skeleton.hasNaN = e.hasNaN := by
  simp only [hasNaN, skeleton, attrValues_map, List.any_map, Function.comp_def,
    AttrValue.isNaN_canonical]

@[simp] theorem hasNaN_bare (e : Expr) : e.bare.hasNaN = e.hasNaN := by
  simp only [hasNaN, bare, attrValues_map, List.map_id]

@[simp] theorem skeleton_bare (e : Expr) : e.bare.skeleton = e.skeleton :=
  e.map_map .bare .bare id .canonical

theorem hasNaN_eq_of_skeleton_eq (h : a.skeleton = b.skeleton) : a.hasNaN = b.hasNaN := by
  rw [← hasNaN_skeleton, h, hasNaN_skeleton]

theorem beq_symm (h : (a == b) = true) : (b == a) = true := by
  obtain ⟨hskeleton, hnan⟩ := beq_iff.mp h
  apply beq_iff.mpr
  exact ⟨hskeleton.symm, hasNaN_eq_of_skeleton_eq hskeleton ▸ hnan⟩

theorem beq_trans (hab : (a == b) = true) (hbc : (b == c) = true) : (a == c) = true := by
  obtain ⟨hskeleton, hnan⟩ := beq_iff.mp hab
  apply beq_iff.mpr
  exact ⟨hskeleton.trans (beq_iff.mp hbc).1, hnan⟩

/-- Names, flags, shapes and types of variables do not count. -/
theorem beq_congr (ha : a.bare = a'.bare) (hb : b.bare = b'.bare) : (a == b) = (a' == b') := by
  rw [Bool.eq_iff_iff, beq_iff, beq_iff, ← a.skeleton_bare, ← b.skeleton_bare, ← a.hasNaN_bare, ha,
    hb, skeleton_bare, skeleton_bare, hasNaN_bare]

end Expr

/-- The renamer for variables leaves the identity, which is all that counts. -/
theorem Renamers.rename?_standard_var (v : Var) (name : String) :
    Renamers.standard.rename? (.var v) name = some (.var { v with name := name }) := by
  cases hdataflow : v.dataflow <;>
    simp [rename?, standard, Expr.kind, hdataflow, Renamer.renameVar]

/-- Two expressions are equal exactly if they are the same once each variable is taken down to its identity
and each zero to the positive one, and hold no NaN; for numbers this says that both words stand for one number.
So equality is symmetric and transitive, an expression equals itself exactly if it holds no NaN, and other names
and annotations for variables, here or there, change nothing. The renamer for variables gives such another
name. -/
theorem Expr.beq_iff_same_skeleton :
    (∀ a b : Expr, (a == b) = true ↔ a.skeleton = b.skeleton ∧ a.hasNaN = false) ∧
    (∀ x y : Binary64, x.canonical = y.canonical ∧ x.isNaN = false ↔
      ∃ n, x.number? = some n ∧ y.number? = some n) ∧
    (∀ a b : Expr, (a == b) = (b == a)) ∧
    (∀ a b c : Expr, (a == b) = true → (b == c) = true → (a == c) = true) ∧
    (∀ e : Expr, (e == e) = true ↔ e.hasNaN = false) ∧
    (∀ a a' b b' : Expr, a.bare = a'.bare → b.bare = b'.bare → (a == b) = (a' == b')) ∧
    ∀ (v : Var) (name : String), ∃ w : Var, w.name = name ∧ w.bare = v.bare ∧
      Renamers.standard.rename? (.var v) name = some (.var w) := by
  refine ⟨fun _ _ => beq_iff, ?_, ?_, fun _ _ _ => beq_trans, ?_, fun _ _ _ _ => beq_congr, ?_⟩
  · intro x y
    rw [← Binary64.beq_iff_canonical, Binary64.beq_iff_number?]
  · intro a b
    exact Bool.eq_iff_iff.mpr ⟨beq_symm, beq_symm⟩
  · intro e
    rw [beq_iff]
    exact and_iff_right rfl
  · intro v name
    exact ⟨{ v with name := name }, rfl, rfl, Renamers.rename?_standard_var v name⟩

/-- A call of a kernel on one variable, with a scale. -/
def scaled (v : Var) (scale : Binary64) : Expr :=
  .call (.external "scale") [.tuple [.var v] none] (.ofList [("by", .float scale)]) [.object] none

/-- A call with one zero equals one with the other, whatever the variables are called; with a NaN it does not
even equal itself. -/
theorem Expr.beq_iff_same_skeleton_of_scaled :
    let x : Var := ⟨0, "x", false, none, some .object⟩
    let y : Var := { x with name := "y", dataflow := true, ty := none }
    let zero : Binary64 := ⟨0⟩
    let negativeZero : Binary64 := .ofMagnitude true 0
    (scaled x zero == scaled y zero) = true ∧ (scaled x zero == scaled y negativeZero) = true ∧
      (scaled x (.nan false) == scaled x (.nan false)) = false := by
  intro x y zero negativeZero
  obtain ⟨hiff, hnumber, -, htrans, hrefl, hcongr, -⟩ := Expr.beq_iff_same_skeleton
  have hzero : (scaled x zero == scaled x zero) = true := (hrefl _).mpr (by decide)
  have hrenamed : (scaled x zero == scaled y zero) = true :=
    (hcongr (scaled x zero) (scaled x zero) (scaled y zero) (scaled x zero) rfl rfl).trans hzero
  have hcanonical := (hnumber zero negativeZero).mpr ⟨.finite 0, by decide, by decide⟩
  have hsign : (scaled y zero == scaled y negativeZero) = true := by
    apply (hiff _ _).mpr
    exact ⟨congrArg (scaled y.bare) hcanonical.1, by decide⟩
  refine ⟨hrenamed, htrans _ _ _ hrenamed hsign, ?_⟩
  rw [← Bool.not_eq_true, hrefl]
  decide

end ScopedBuilder
