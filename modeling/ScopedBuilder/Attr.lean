import ScopedBuilder.Binary64.Text
import ScopedBuilder.Text.Quoted

/-!
Attributes: named settings of a function or a call, kept in the order of their keys.
-/

namespace ScopedBuilder

inductive AttrValue where
  | str (value : String)
  | int (value : Int)
  | float (value : Binary64)
  | bool (value : Bool)

namespace AttrValue

/-- Numbers compare numerically, so a NaN differs from itself; values of two kinds differ. -/
def same : AttrValue → AttrValue → Bool
  | str a, str b => a == b
  | int a, int b => a == b
  | float a, float b => a == b
  | bool a, bool b => a == b
  | _, _ => false

instance : BEq AttrValue := ⟨same⟩

def text : AttrValue → String
  | str value => Text.quote value
  | int value => toString value
  | float value => value.text
  | bool value => toString value

end AttrValue

/-- A finite map from keys to attribute values, in increasing order of the keys. -/
structure Attrs where
  entries : List (String × AttrValue)
  sorted : entries.Pairwise (·.1 < ·.1)

namespace Attrs

def empty : Attrs := ⟨[], .nil⟩

instance : BEq Attrs := ⟨fun a b => a.entries == b.entries⟩

def isEmpty (a : Attrs) : Bool := a.entries.isEmpty

def size (a : Attrs) : Nat := a.entries.length

def find? (a : Attrs) (key : String) : Option AttrValue := a.entries.lookup key

/-- Puts an entry at its place; an entry with the same key is replaced. -/
def insertEntry (key : String) (value : AttrValue) :
    List (String × AttrValue) → List (String × AttrValue)
  | [] => [(key, value)]
  | (k, v) :: rest =>
    if key < k then (key, value) :: (k, v) :: rest
    else if key = k then (key, value) :: rest
    else (k, v) :: insertEntry key value rest

theorem mem_insertEntry {key : String} {value : AttrValue} {entries : List (String × AttrValue)}
    {x : String × AttrValue} (h : x ∈ insertEntry key value entries) :
    x = (key, value) ∨ x ∈ entries := by
  induction entries with
  | nil => exact .inl (List.mem_singleton.mp h)
  | cons entry rest ih =>
    obtain ⟨k, v⟩ := entry
    rw [insertEntry] at h
    split at h
    · exact List.mem_cons.mp h
    · split at h
      · exact (List.mem_cons.mp h).imp_right (List.mem_cons_of_mem _)
      · rcases List.mem_cons.mp h with h | h
        · exact .inr (h ▸ List.mem_cons_self)
        · exact (ih h).imp_right (List.mem_cons_of_mem _)

theorem pairwise_insertEntry (key : String) (value : AttrValue)
    {entries : List (String × AttrValue)} (h : entries.Pairwise (·.1 < ·.1)) :
    (insertEntry key value entries).Pairwise (·.1 < ·.1) := by
  induction entries with
  | nil => exact List.pairwise_singleton _ _
  | cons entry rest ih =>
    obtain ⟨k, v⟩ := entry
    have ⟨hhead, htail⟩ := List.pairwise_cons.mp h
    rw [insertEntry]
    split
    · rename_i hlt
      refine List.pairwise_cons.mpr ⟨fun x hx => ?_, h⟩
      rcases List.mem_cons.mp hx with rfl | hx
      · exact hlt
      · exact String.lt_trans hlt (hhead x hx)
    · rename_i hnot
      split
      · rename_i heq
        exact List.pairwise_cons.mpr ⟨fun x hx => heq ▸ hhead x hx, htail⟩
      · rename_i hne
        refine List.pairwise_cons.mpr ⟨fun x hx => ?_, ih htail⟩
        rcases mem_insertEntry hx with rfl | hx
        · exact Std.lt_of_le_of_ne (String.not_lt.mp hnot) fun e => hne e.symm
        · exact hhead x hx

def insert (a : Attrs) (key : String) (value : AttrValue) : Attrs :=
  ⟨insertEntry key value a.entries, pairwise_insertEntry key value a.sorted⟩

/-- The map with the given entries; a later one replaces an earlier one with the same key. -/
def ofList (entries : List (String × AttrValue)) : Attrs :=
  entries.foldl (fun a (key, value) => a.insert key value) empty

end Attrs

end ScopedBuilder
