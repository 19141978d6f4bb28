import ScopedBuilder.Emitter.Basic
import ScopedBuilder.Builder.Operation

/-!
The ways in which construction fails: each cause, its category and its message.
-/

namespace ScopedBuilder

inductive BuildError where
  | noActiveBuilder (operation : Operation)
  | builderAlreadyActive (operation : Operation)
  | builderInUse (operation : Operation)
  /-- An earlier error ended the session. -/
  | sessionFailed (operation : Operation)
  | emptyStack (operation : Operation)
  /-- A handle does not name the innermost scope, which is at the last depth. -/
  | unbalancedScope (operation : Operation) (handle : Scope) (innermost : Nat)
  | nestedModule (operation : Operation)
  | resultAlreadySet (operation : Operation)
  | moduleNotFound (operation : Operation)
  | notImmediatelyInModule (operation : Operation)
  | notInFunction (operation : Operation)
  | notImmediatelyInFunction (operation : Operation)
  | noInsertionTarget (name : String)
  | duplicateFunction (name : String) (operation : Operation)
  | duplicateName (previous : String) (operation : Operation)
  | duplicateAttrs (count : Nat) (operation : Operation)
  | duplicateResultTy (previous : Ty) (operation : Operation)
  | alreadyDefined (name : String) (operation : Operation)
  | unknownName (name : String) (operation : Operation)
  | undefinedFunction (name : String)
  | missingResultTy (name : String)
  | missingOutput (name : String)
  | noRenamer (kind : ExprKind) (name : String)
  | emitter (cause : EmitterError)
  deriving DecidableEq

/-- The contract that an error reports as broken. -/
inductive ErrorCategory where
  /-- A scope that must enclose the operation is not open. -/
  | scopeNotFound
  /-- The scope is open, but not the innermost one. -/
  | scopeNotImmediate
  /-- What can be set once was set again. -/
  | duplicateDefinition
  /-- What was reserved or is required was not defined by the end of its scope. -/
  | undefinedEntity
  | resultAlreadySet
  | unknownName
  /-- The rules of opening, closing and sharing a builder. -/
  | protocol
  deriving DecidableEq

namespace BuildError

def category : BuildError → ErrorCategory
  | moduleNotFound _ | notInFunction _ | noInsertionTarget _ => .scopeNotFound
  | notImmediatelyInModule _ | notImmediatelyInFunction _ => .scopeNotImmediate
  | duplicateFunction .. | duplicateName .. | duplicateAttrs .. | duplicateResultTy ..
  | alreadyDefined .. => .duplicateDefinition
  | undefinedFunction _ | missingResultTy _ | missingOutput _ => .undefinedEntity
  | resultAlreadySet _ => .resultAlreadySet
  | unknownName .. => .unknownName
  | noActiveBuilder _ | builderAlreadyActive _ | builderInUse _ | sessionFailed _ | emptyStack _
  | unbalancedScope .. | nestedModule _ | noRenamer .. | emitter _ => .protocol

def message : BuildError → String
  | noActiveBuilder op => "no builder is active on this thread (" ++ op.text ++ ")"
  | builderAlreadyActive op => "a builder is already active on this thread (" ++ op.text ++ ")"
  | builderInUse op => "the active builder is already borrowed (" ++ op.text ++ ")"
  | sessionFailed op => op.text ++ " failed: the session already failed and must be aborted"
  | emptyStack op => op.text ++ ": no scope is open"
  | unbalancedScope op handle _ =>
    op.text ++ ": " ++ handle.kind.text ++ " scope at depth " ++ toString handle.depth
      ++ " is not the innermost open scope"
  | nestedModule op => op.text ++ ": a module is already open"
  | resultAlreadySet op => op.text ++ ": the builder result has already been set"
  | moduleNotFound op => "module frame not found, '" ++ op.text ++ "' must be called inside a module"
  | notImmediatelyInModule op => "'" ++ op.text ++ "' must be called immediately under a module"
  | notInFunction op =>
    "function frame not found, '" ++ op.text ++ "' must be called inside a function"
  | notImmediatelyInFunction op => "'" ++ op.text ++ "' must be called immediately under a function"
  | noInsertionTarget name => "cannot find where to insert function " ++ Text.quote name
  | duplicateFunction name op =>
    "function " ++ Text.quote name ++ " already exists (" ++ op.text ++ ")"
  | duplicateName previous op =>
    "duplicate function name, previous one is " ++ Text.quote previous ++ " (" ++ op.text ++ ")"
  | duplicateAttrs count op =>
    "duplicate function attributes, " ++ toString count ++ " already set (" ++ op.text ++ ")"
  | duplicateResultTy previous op =>
    "duplicate function return type, previous one is " ++ previous.text ++ " (" ++ op.text ++ ")"
  | alreadyDefined name op =>
    "function " ++ Text.quote name ++ " has already been defined (" ++ op.text ++ ")"
  | unknownName name op => "function " ++ Text.quote name ++ " does not exist (" ++ op.text ++ ")"
  | undefinedFunction name => "function " ++ Text.quote name ++ " is not defined"
  | missingResultTy name => "return type of function " ++ Text.quote name ++ " must be defined"
  | missingOutput name =>
    "function " ++ Text.quote name ++ " returns nothing, at least one output is required"
  | noRenamer kind name =>
    "no renamer registered for " ++ kind.text ++ " nodes (naming " ++ Text.quote name ++ ")"
  | emitter cause => cause.message

end BuildError

end ScopedBuilder
