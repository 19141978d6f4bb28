import ScopedBuilder.Builder.Error
import ScopedBuilder.Func
import ScopedBuilder.Naming.Scheme

/-!
A module under construction. A name may be reserved before it is defined: one table maps it to a slot,
another holds what is in the slots.
-/

namespace ScopedBuilder

structure ModuleDraft where
  scheme : NameScheme
  /-- The registered names, in the order of registration. -/
  names : List (String × Global)
  slots : List (Option Func)

namespace ModuleDraft

def new (scheme : NameScheme) : ModuleDraft := ⟨scheme, [], []⟩

def global? (m : ModuleDraft) (name : String) : Option Global := m.names.lookup name

def contains (m : ModuleDraft) (name : String) : Bool := (m.global? name).isSome

/-- The definition in the slot of a name, if there is one. -/
def definition? (m : ModuleDraft) (g : Global) : Option Func := m.slots[g.index]?.join

def isDefined (m : ModuleDraft) (name : String) : Bool :=
  ((m.global? name).bind m.definition?).isSome

/-- Fills or clears the slot of a name. -/
def setSlot (m : ModuleDraft) (g : Global) (f : Option Func) : ModuleDraft :=
  { m with slots := m.slots.set g.index f }

/-- Registers a name in a new slot, or rebinds the name that the scheme hands back if it is taken. -/
def register (m : ModuleDraft) (name : String) (f : Option Func) (rename : Bool) (op : Operation) :
    Except BuildError (Global × ModuleDraft) :=
  if !rename && m.contains name then .error (.duplicateFunction name op)
  else
    let unique := m.scheme.fresh name (m.names.map (·.1))
    match m.global? unique with
    | some g => .ok (g, m.setSlot g f)
    | none =>
      let g := ⟨unique, m.slots.length⟩
      .ok (g, { m with names := m.names ++ [(unique, g)], slots := m.slots ++ [f] })

/-- Defines a registered name, for the first time if that is required. -/
def update (m : ModuleDraft) (name : String) (f : Func) (first : Bool) (op : Operation) :
    Except BuildError ModuleDraft :=
  match m.global? name with
  | none => .error (.unknownName name op)
  | some g =>
    if first && (m.definition? g).isSome then .error (.alreadyDefined name op)
    else .ok (m.setSlot g (some f))

/-- Takes in a finished function: it defines a name reserved for it, or registers its own. -/
def define (m : ModuleDraft) (name : String) (f : Func) (op : Operation) :
    Except BuildError ModuleDraft :=
  if m.contains name then m.update name f true op
  else (m.register name (some f) false op).map (·.2)

/-- The entry of a registered name in the finished module. -/
def entry (m : ModuleDraft) (name : String) (g : Global) : Except BuildError (Global × Func) :=
  match m.definition? g with
  | some f => .ok (g, f)
  | none => .error (.undefinedFunction name)

/-- The finished module; every registered name must be defined. -/
def assemble (m : ModuleDraft) : Except BuildError Module :=
  (m.names.mapM fun (name, g) => m.entry name g).map Module.mk

end ModuleDraft

end ScopedBuilder
