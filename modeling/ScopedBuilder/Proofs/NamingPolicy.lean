import ScopedBuilder.Proofs.Client
import ScopedBuilder.Proofs.Table
import ScopedBuilder.Proofs.Translation

/-!
# The naming policy

The policy decides what becomes of a function whose name is taken. As long as nobody asks for a taken name
to be changed, a session under another policy gives the same answers, and its frames are the same but for
the policy that a module notes.
-/

namespace ScopedBuilder

variable {σ α : Type} {op : Operation}

/-! ## Modules under another scheme -/

namespace ModuleDraft

def withScheme (scheme : NameScheme) (m : ModuleDraft) : ModuleDraft := { m with scheme := scheme }

variable {scheme : NameScheme} {m : ModuleDraft} {name : String}

@[simp] theorem contains_withScheme : (m.withScheme scheme).contains name = m.contains name := rfl

theorem fresh_eq (h : m.contains name = false) (scheme : NameScheme) :
    scheme.fresh name (m.names.map (·.1)) = name := by
  have hnone : m.names.lookup name = none := by simpa [contains, global?] using h
  refine NameScheme.fresh_of_notMem ?_
  intro hmem
  obtain ⟨x, hx, rfl⟩ := List.mem_map.mp hmem
  simpa using List.lookup_eq_none_iff.mp hnone x hx

/-- The scheme is asked only for names that are free, unless a taken name is to be changed. -/
theorem register_withScheme {f : Option Func} {rename : Bool}
    (h : rename = true → m.contains name = false) :
    (m.withScheme scheme).register name f rename op =
      (m.register name f rename op).map fun x => (x.1, x.2.withScheme scheme) := by
  unfold register
  rw [contains_withScheme]
  split
  · rfl
  · rename_i hrefused
    have hfree : m.contains name = false := by
      cases rename with
      | true => exact h rfl
      | false => simpa using hrefused
    have hscheme : (m.withScheme scheme).scheme.fresh name ((m.withScheme scheme).names.map (·.1)) = name :=
      fresh_eq hfree scheme
    have hglobal : (m.withScheme scheme).global? name = m.global? name := rfl
    dsimp only
    rw [hscheme, fresh_eq hfree, hglobal]
    cases m.global? name <;> rfl

theorem update_withScheme {f : Func} {first : Bool} :
    (m.withScheme scheme).update name f first op = (m.update name f first op).map (withScheme scheme) := by
  have hglobal : (m.withScheme scheme).global? name = m.global? name := rfl
  unfold update
  rw [hglobal]
  cases m.global? name with
  | none => rfl
  | some g =>
      have hdefinition : (m.withScheme scheme).definition? g = m.definition? g := rfl
      dsimp only
      rw [hdefinition]
      split <;> rfl

/-- A function that is taken in is registered only under a name that is free. -/
theorem define_withScheme {f : Func} :
    (m.withScheme scheme).define name f op = (m.define name f op).map (withScheme scheme) := by
  have hregister : (m.withScheme scheme).register name (some f) false op = _ :=
    register_withScheme (fun h => nomatch h)
  unfold define
  rw [contains_withScheme, update_withScheme, hregister]
  split
  · rfl
  · cases m.register name (some f) false op <;> rfl

end ModuleDraft

/-! ## Sessions under another policy -/

/-- The frames with another scheme noted in their modules. -/
def Frames.withScheme (scheme : NameScheme) (frames : Frames σ) : Frames σ :=
  frames.mapParts (·.withScheme scheme) id

/-- The scheme of a policy, by whatever separator it numbers the names. -/
def NamingPolicy.scheme (naming : NamingPolicy) (separator : String) : NameScheme :=
  Config.nameScheme { naming := naming, suffixSeparator := separator }

def Config.withNaming (naming : NamingPolicy) (separator : String) (c : Config) : Config :=
  { c with naming := naming, suffixSeparator := separator }

/-- A builder under another policy. It makes its emitters as under the policy that it had. -/
def Builder.withNaming (naming : NamingPolicy) (separator : String) (b : Builder σ) : Builder σ :=
  { b with
    frames := b.frames.withScheme (naming.scheme separator)
    config := b.config.withNaming naming separator
    newEmitter := fun c => b.newEmitter (c.withNaming b.config.naming b.config.suffixSeparator) }

def Workspace.withNaming (naming : NamingPolicy) (separator : String) (w : Workspace σ) : Workspace σ :=
  { w with builder := w.builder.withNaming naming separator }

section Counterparts

variable [Emitter σ] {naming : NamingPolicy} {separator : String}

/-- Only the modules differ under another policy, by the scheme that they note. -/
def underPolicy (naming : NamingPolicy) (separator : String) : Translation σ where
  module := (·.withScheme (naming.scheme separator))
  function := id
  finished := id
  func := id
  Related w w' := w' = w.withNaming naming separator
  frames_eq := by
    rintro w _ rfl
    rfl
  result_eq := by
    rintro w _ rfl
    rw [Artifact.map_id, Option.map_id]
    rfl
  failed_eq := by
    rintro w _ rfl
    rfl
  withFrames := by
    rintro w _ frames rfl
    rfl
  withResult := by
    rintro w _ result rfl
    rw [Artifact.map_id, Option.map_id]
    rfl
  markFailed := by
    rintro w _ rfl
    rfl
  newModule_eq := by
    rintro w _ rfl
    rfl
  newFunction_eq := by
    rintro w _ rfl
    rfl
  nameOrEmpty_eq _ := rfl
  beginBlock_eq _ _ := rfl
  endBlock_eq f := (congrFun FuncDraft.mapOutcome_id (FuncDraft.endBlock f)).symm
  assemble_eq := by
    rintro w _ f rfl
    exact (congrFun Except.map_id (f.assemble w.builder.config)).symm
  finish_eq m := (congrFun Except.map_id m.assemble).symm
  define_eq _ _ _ _ := ModuleDraft.define_withScheme
  update_eq _ _ _ _ _ := ModuleDraft.update_withScheme

/-- Functions are the same under another policy, so work on the nearest one goes on as before. -/
theorem onNearestFunction_withNaming (act : EStateM BuildError (FuncDraft σ × VarSupply) α) :
    (underPolicy naming separator).Translates id (BuildM.onNearestFunction op act)
      (BuildM.onNearestFunction op act) := by
  rintro w _ rfl
  have hsplit : (w.withNaming naming separator).builder.frames.splitFunction? = _ :=
    Frames.splitFunction?_mapParts _ _ w.builder.frames
  have hsupply : (w.withNaming naming separator).supply = w.supply := rfl
  unfold BuildM.onNearestFunction
  rw [hsplit, hsupply]
  rcases w.builder.frames.splitFunction? with _ | ⟨above, f, below⟩
  · exact .error _ rfl
  · have hrelated (x : FuncDraft σ × VarSupply) : (underPolicy naming separator).Related
        { w.withFrames (above ++ .function x.1 :: below) with supply := x.2 }
        { (w.withNaming naming separator).withFrames
            (above.withScheme (naming.scheme separator) ++
              .function x.1 :: below.withScheme (naming.scheme separator)) with supply := x.2 } := by
      have hframes := Frames.mapParts_split (·.withScheme (naming.scheme separator)) id above below x.1
      exact congrArg (fun frames => ({ (w.withNaming naming separator).withFrames frames with
        supply := x.2 } : Workspace σ)) hframes.symm
    dsimp only [Option.map_some, id_eq]
    cases act (f, w.supply) with
    | ok a x => exact .ok a (hrelated x)
    | error e x => exact .error e (hrelated x)

theorem inFunctionScope_withNaming (act : FuncDraft σ → Except BuildError (α × FuncDraft σ)) :
    (underPolicy naming separator).Translates id (BuildM.inFunctionScope op act)
      (BuildM.inFunctionScope op act) :=
  .inFunctionScope fun f => (congrFun Except.map_id (act f)).symm

/-- A registration follows unless it asks for a taken name to be changed. -/
theorem register_withNaming {w : Workspace σ} {name : String} {f : Option Func} {rename : Bool}
    (h : rename = true → w.builder.failed = false → ∀ m below, w.builder.frames = .module m :: below →
      m.contains name = false) :
    (underPolicy naming separator).Agree id (Builder.register name f rename w)
      (Builder.register name f rename (w.withNaming naming separator)) := by
  have hrelated : (underPolicy naming separator).Related w (w.withNaming naming separator) := rfl
  cases hfailed : w.builder.failed with
  | true =>
      have hfailed' : (w.withNaming naming separator).builder.failed = true := hfailed
      simp only [Builder.register, BuildM.guarded, hfailed, hfailed', if_true]
      exact .error _ hrelated
  | false =>
      refine Translation.Agree.guarded ?_ hfailed hfailed
      exact Translation.Translates.inModuleScope_at hrelated fun m below hframes =>
        ModuleDraft.register_withScheme fun hrename => h hrename hfailed m below hframes

open Translation in
/-- Nothing else has to do with the scheme. -/
theorem Action.run_withNaming {a : Action} (h : ∀ name f allowRename, a ≠ register name f allowRename) :
    (underPolicy (σ := σ) naming separator).Translates id a.run a.run := by
  cases a with
  | register name f allowRename => exact absurd rfl (h name f allowRename)
  | openModule => exact Translates.openModule.reply fun _ => rfl
  | openFunction => exact Translates.openFunction.reply fun _ => rfl
  | openBlock kind => exact (Translates.openBlock kind).reply fun _ => rfl
  | pushBlock kind => exact (Translates.pushBlock kind).reply fun _ => rfl
  | close handle => exact (Translates.close handle).reply fun _ => rfl
  | closeScope => exact Translates.closeScope.reply fun _ => rfl
  | abort => exact Translates.abort.reply fun _ => rfl
  | update name f first => exact (Translates.update name f first).reply fun _ => rfl
  | addParam name v =>
      refine (Translates.getBuilder_bind ?_).guarded.reply fun _ => rfl
      rintro w _ rfl
      exact inFunctionScope_withNaming _
  | setName | setAttrs | setResultTy | addOutput =>
      exact (inFunctionScope_withNaming _).guarded.reply fun _ => rfl
  | emit | emitKernelCall => exact (onNearestFunction_withNaming _).guarded.reply fun _ => rfl
  | setResult artifact => cases artifact <;> exact (Translates.setResult _).reply fun _ => rfl
  | takeResult =>
      exact Translates.takeResult.reply fun taken => by simp [underPolicy, Artifact.map_id]
  | setRenamers | registerRenamer =>
      rintro w _ rfl
      exact .ok _ rfl
  | rename e name =>
      refine (Translates.getBuilder_bind ?_).reply fun _ => rfl
      rintro w _ rfl
      exact .lift (congrFun Except.map_id (Builder.renamed w.builder.renamers e name)).symm

end Counterparts

/-! ## Runs -/

section Runs

variable [Emitter σ] {naming : NamingPolicy} {separator : String}

/-- Whether a step asks the open module for a name that it has, and allows that it be changed. -/
def Step.asksForTaken (s : Step σ) : Bool :=
  match s.event, s.before.builder.failed, s.before.builder.frames with
  | .action (.register name _ true), false, .module m :: _ => m.contains name
  | _, _, _ => false

/-- Every other event has the same answer under another policy, and leaves the same but for the policy. -/
theorem Event.run_withNaming {e : Event} {w : Workspace σ} (h : Step.asksForTaken ⟨w, e⟩ = false) :
    (underPolicy naming separator).Agree id (e.run w) (e.run (w.withNaming naming separator)) := by
  have hrelated : (underPolicy naming separator).Related w (w.withNaming naming separator) := rfl
  cases e with
  | drawn count => exact .ok _ rfl
  | replaced kind =>
      have hreplace := Translation.Translates.replaceBlock kind w _ hrelated
      exact hreplace.map_ok fun _ => rfl
  | action a =>
      have hother hne := Action.run_withNaming (a := a) hne w _ hrelated
      cases a with
      | register name f rename =>
          refine (register_withNaming fun hrename hfailed m below hframes => ?_).map_ok fun _ => rfl
          subst hrename
          simpa [Step.asksForTaken, hfailed, hframes] using h
      | _ => exact hother fun _ _ _ => nofun

variable (naming separator)

theorem Workspace.next_withNaming {e : Event} {w : Workspace σ} (h : Step.asksForTaken ⟨w, e⟩ = false) :
    BuildM.outcome e.run (w.withNaming naming separator) = BuildM.outcome e.run w ∧
      (w.withNaming naming separator).next e = (w.next e).withNaming naming separator := by
  have hagree : (underPolicy naming separator).Agree id _ _ := Event.run_withNaming h
  simp only [next_eq_final, BuildM.outcome, BuildM.final]
  generalize e.run w = left, e.run (w.withNaming naming separator) = right at hagree
  cases hagree with
  | ok reply hrelated => exact ⟨rfl, hrelated⟩
  | error err hrelated => exact ⟨rfl, hrelated⟩

theorem Workspace.steps_withNaming {w : Workspace σ} {events : List Event}
    (h : ∀ s ∈ w.steps events, s.asksForTaken = false) :
    ((w.withNaming naming separator).steps events).map (fun s => BuildM.outcome s.event.run s.before) =
        (w.steps events).map (fun s => BuildM.outcome s.event.run s.before) ∧
      (w.withNaming naming separator).after events = (w.after events).withNaming naming separator := by
  induction events generalizing w with
  | nil => exact ⟨rfl, rfl⟩
  | cons e events ih =>
      obtain ⟨hanswer, hnext⟩ := next_withNaming naming separator (h _ List.mem_cons_self)
      obtain ⟨hanswers, hafter⟩ := ih fun s hs => h s (List.mem_cons_of_mem _ hs)
      simp only [steps, after, List.map_cons, hnext, hanswers, hanswer, hafter]
      exact ⟨trivial, trivial⟩

/-- Two sessions whose settings differ in nothing but the policy for taken names, with whatever emitter that
does not depend on it: as long as no name that is taken is asked for and may be changed, each step has the
same answer, whether it succeeds or fails. At the end the frames are the same but for the policy that the
module notes, and so are the result, the renamers, the identities and the mark of a failed session. -/
theorem same_under_naming (config : Config) (naming : NamingPolicy) (separator : String)
    (newEmitter : Config → σ)
    (hemitter : ∀ (c : Config) naming separator, newEmitter (c.withNaming naming separator) = newEmitter c)
    (supply : VarSupply) (events : List Event) :
    let start : Workspace σ := ⟨.new config newEmitter, supply⟩
    let other : Workspace σ := ⟨.new (config.withNaming naming separator) newEmitter, supply⟩
    (∀ s ∈ start.steps events, s.asksForTaken = false) →
      (other.steps events).map (fun s => BuildM.outcome s.event.run s.before) =
          (start.steps events).map (fun s => BuildM.outcome s.event.run s.before) ∧
        (other.after events).builder.frames =
          (start.after events).builder.frames.withScheme (naming.scheme separator) ∧
        (other.after events).builder.result = (start.after events).builder.result ∧
        (other.after events).builder.renamers = (start.after events).builder.renamers ∧
        (other.after events).builder.failed = (start.after events).builder.failed ∧
        (other.after events).supply = (start.after events).supply := by
  intro start other htaken
  have hnew : (fun c => newEmitter (c.withNaming config.naming config.suffixSeparator)) = newEmitter :=
    funext fun c => hemitter c _ _
  have hother : other = start.withNaming naming separator := by
    simp only [other, start, Workspace.withNaming, Builder.withNaming, Builder.new, hnew]
    rfl
  obtain ⟨hanswers, hafter⟩ := Workspace.steps_withNaming naming separator htaken
  rw [hother, hafter]
  exact ⟨hanswers, rfl, rfl, rfl, rfl, rfl⟩

/-- A name is reserved and may be changed, a second registration of it is refused, and so is all that comes
after. -/
theorem same_under_naming_refused :
    let f : Func := ⟨[], .seq [] (.op "a") none, .shape, .empty⟩
    let events : List Event :=
      [.action .openModule, .action (.register "f" none true), .action (.update "f" f true),
        .action (.register "f" (some f) false), .action (.register "f" none true)]
    let start := Workspace.new { naming := .identity } ⟨0⟩
    let other := Workspace.new { naming := .suffix, suffixSeparator := "." } ⟨0⟩
    (∀ s ∈ start.steps events, s.asksForTaken = false) ∧
      (other.steps events).map (fun s => BuildM.outcome s.event.run s.before) =
        (start.steps events).map (fun s => BuildM.outcome s.event.run s.before) ∧
      (other.after events).builder.frames =
        (start.after events).builder.frames.withScheme (.numbered ".") := by
  intro f events start other
  have hall : (start.steps events).all (!·.asksForTaken) = true := rfl
  have hfree : ∀ s ∈ start.steps events, s.asksForTaken = false := by simpa using hall
  obtain ⟨hanswers, hframes, -⟩ := same_under_naming { naming := .identity } .suffix "."
    BlockWriter.ofConfig (fun _ _ _ => rfl) ⟨0⟩ events hfree
  exact ⟨hfree, hanswers, hframes⟩

end Runs

end ScopedBuilder
