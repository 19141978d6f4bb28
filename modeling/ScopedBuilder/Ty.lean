/-!
Types of expressions, and the dimensions of tensor shapes.
-/

namespace ScopedBuilder

/-- One extent of a shape: known, or a symbol for an extent known later. -/
inductive Dim where
  | known (extent : Int)
  | symbolic (name : String)
  deriving DecidableEq

namespace Dim

def text : Dim → String
  | known extent => toString extent
  | symbolic name => name

end Dim

/-- A tensor type records its rank, not its shape; a negative rank stands for an unknown one. -/
inductive Ty where
  | object
  | shape
  | tensor (rank : Int) (element : String)
  | tuple (fields : List Ty)
  | func (params : List Ty) (result : Ty)

namespace Ty

mutual

/-- Equality of types is equality of their structure. -/
def decEq : (a b : Ty) → Decidable (a = b)
  | .object, .object => isTrue rfl
  | .shape, .shape => isTrue rfl
  | .tensor m s, .tensor n t => decidable_of_iff (m = n ∧ s = t) (by simp)
  | .tuple as, .tuple bs =>
    match decEqAll as bs with
    | isTrue h => isTrue (by rw [h])
    | isFalse h => isFalse (by simpa using h)
  | .func as r, .func bs s =>
    match decEqAll as bs, decEq r s with
    | isTrue h, isTrue h' => isTrue (by rw [h, h'])
    | isFalse h, _ => isFalse (by simp [h])
    | _, isFalse h => isFalse (by simp [h])
  | .object, .shape | .object, .tensor .. | .object, .tuple _ | .object, .func .. => isFalse nofun
  | .shape, .object | .shape, .tensor .. | .shape, .tuple _ | .shape, .func .. => isFalse nofun
  | .tensor .., .object | .tensor .., .shape | .tensor .., .tuple _ | .tensor .., .func .. =>
    isFalse nofun
  | .tuple _, .object | .tuple _, .shape | .tuple _, .tensor .. | .tuple _, .func .. =>
    isFalse nofun
  | .func .., .object | .func .., .shape | .func .., .tensor .. | .func .., .tuple _ =>
    isFalse nofun

def decEqAll : (as bs : List Ty) → Decidable (as = bs)
  | [], [] => isTrue rfl
  | [], _ :: _ | _ :: _, [] => isFalse nofun
  | a :: as, b :: bs =>
    match decEq a b, decEqAll as bs with
    | isTrue h, isTrue h' => isTrue (by rw [h, h'])
    | isFalse h, _ => isFalse (by simp [h])
    | _, isFalse h => isFalse (by simp [h])

end

instance : DecidableEq Ty := decEq

/-- The type of a tensor of a given shape. -/
def ofShape (dims : List Dim) (element : String) : Ty :=
  .tensor dims.length element

mutual

def text : Ty → String
  | .object => "Object"
  | .shape => "Shape"
  | .tensor rank element => "Tensor(ndim=" ++ toString rank ++ ", " ++ element ++ ")"
  | .tuple fields => "(" ++ ", ".intercalate (texts fields) ++ ")"
  | .func params result => "fn(" ++ ", ".intercalate (texts params) ++ ") -> " ++ text result

def texts : List Ty → List String
  | [] => []
  | t :: ts => text t :: texts ts

end

end Ty

end ScopedBuilder
