import ScopedBuilder.Builder.FuncDraft
import ScopedBuilder.Builder.ModuleDraft

/-!
The stack of open frames. A scope is a frame, except that a function and the block directly above it,
its default block, are one scope.
-/

namespace ScopedBuilder

inductive Frame (σ : Type) where
  | module (m : ModuleDraft)
  | function (f : FuncDraft σ)
  | block (kind : BlockKind)

namespace Frame

variable {σ : Type}

def kind : Frame σ → ScopeKind
  | module _ => .module
  | function _ => .function
  | block _ => .block

def isModule : Frame σ → Bool
  | module _ => true
  | function _ | block _ => false

def isFunction : Frame σ → Bool
  | function _ => true
  | module _ | block _ => false

def module? : Frame σ → Option ModuleDraft
  | module m => some m
  | function _ | block _ => none

def blockKind? : Frame σ → Option BlockKind
  | block kind => some kind
  | module _ | function _ => none

end Frame

/-- The open frames, innermost first. -/
abbrev Frames (σ : Type) := List (Frame σ)

namespace Frames

variable {σ : Type}

/-- The scope that a close would end. -/
def innermostScope? : Frames σ → Option Scope
  | [] => none
  | .block _ :: .function _ :: below => some ⟨below.length, .function⟩
  | frame :: below => some ⟨below.length, frame.kind⟩

/-- The kind of the block on top, if a block is there. -/
def topBlock? (frames : Frames σ) : Option BlockKind := frames.head?.bind Frame.blockKind?

/-- The innermost scope if it is a function: the default block, the function, the frames below. -/
def functionScope? : Frames σ → Option (BlockKind × FuncDraft σ × Frames σ)
  | .block kind :: .function f :: below => some (kind, f, below)
  | _ => none

/-- The innermost scope if it is a module, and the frames below. -/
def moduleScope? : Frames σ → Option (ModuleDraft × Frames σ)
  | .module m :: below => some (m, below)
  | _ => none

/-- The innermost function, between the frames above it and those below. -/
def splitFunction? : Frames σ → Option (Frames σ × FuncDraft σ × Frames σ)
  | [] => none
  | .function f :: below => some ([], f, below)
  | frame :: below => (splitFunction? below).map fun (above, f, rest) => (frame :: above, f, rest)

def nearestFunction? (frames : Frames σ) : Option (FuncDraft σ) :=
  frames.splitFunction?.map fun (_, f, _) => f

def nearestModule? (frames : Frames σ) : Option ModuleDraft := frames.findSome? Frame.module?

def nearestBlock? (frames : Frames σ) : Option BlockKind := frames.findSome? Frame.blockKind?

/-- The stack with a block of another kind in place of the nearest one, if there is a block. -/
def replaceBlock (kind : BlockKind) : Frames σ → Frames σ
  | [] => []
  | .block _ :: below => .block kind :: below
  | frame :: below => frame :: replaceBlock kind below

end Frames

end ScopedBuilder
