import Mathlib.Algebra.Order.BigOperators.Group.List
import Mathlib.Algebra.Order.Group.Nat
import Mathlib.Order.Monotone.Basic
import ScopedBuilder.Proofs.Relabel.Action

/-!
# Interleaved scripts

Several clients work at the same time, each on a builder of its own; all that they share is the supply of
identities. However their steps interleave, each of them sees what it sees when it is alone, except that its
variables have other identities. Both runs are compared with the same third one: the script alone, with
identities from zero on.
-/

namespace ScopedBuilder

/-! ## Moves -/

/-- What a client does in one step: it works on its builder, it puts a block of its own making in place of
the nearest one, or it makes a variable. -/
inductive Move where
  | act (a : Action)
  | replace (kind : BlockKind)
  | make (name : String) (dataflow : Bool) (shape : Option (List Dim)) (ty : Option Ty)

namespace Move

def run : Move → BuildM BlockWriter Reply
  | act a => a.run
  | replace kind => do Builder.replaceBlock kind; return .done
  | make name dataflow shape ty => fun w =>
    let (v, supply) := w.supply.fresh name dataflow ty
    .ok (.var { v with shape := shape }) { w with supply := supply }

def relabel (π : Nat → Nat) : Move → Move
  | act a => act (a.relabel π)
  | replace kind => replace kind
  | make name dataflow shape ty => make name dataflow shape ty

/-- Whether a move leaves the renamers alone. -/
def keepsRenamers : Move → Bool
  | act a => a.keepsRenamers
  | replace _ | make .. => true

variable {π : Nat → Nat} {m : Move} {b : Builder BlockWriter} {s s' : VarSupply}

@[simp] theorem relabel_relabel (ρ : Nat → Nat) (m : Move) :
    (m.relabel π).relabel ρ = m.relabel (ρ ∘ π) := by
  cases m <;> simp [relabel]

@[simp] theorem keepsRenamers_relabel (m : Move) :
    (m.relabel π).keepsRenamers = m.keepsRenamers := by
  rcases m with a | _ | _
  · cases a <;> rfl
  · rfl
  · rfl

/-- A move does the same on a relabelled builder, if the identities that it takes are related. -/
theorem alike (hb : b.Standard) (hkeeps : m.keepsRenamers = true)
    (hdraw : (BuildM.final (m.relabel π).run ⟨b.relabel π, s'⟩).supply ≠ s' → π s.next = s'.next) :
    ∃ drawn, Alike π (Reply.relabel π) ⟨s.next + drawn⟩ ⟨s'.next + drawn⟩
      (m.run ⟨b, s⟩) ((m.relabel π).run ⟨b.relabel π, s'⟩) := by
  cases m with
  | act a => exact a.alike hb hkeeps hdraw
  | replace kind =>
      exact ⟨0, (Translation.Translates.replaceBlock kind).reply (fun _ => rfl) _ _ hb.related⟩
  | make name dataflow shape ty =>
      have hnext : π s.next = s'.next :=
        hdraw fun heq => Nat.succ_ne_self s'.next (congrArg VarSupply.next heq)
      have hvar : Reply.var ⟨s'.next, name, dataflow, shape, ty⟩ =
          (Reply.var ⟨s.next, name, dataflow, shape, ty⟩).relabel π := by
        simp [Reply.relabel, Var.relabel, hnext]
      refine ⟨1, ?_⟩
      simp only [run, relabel, VarSupply.fresh, hvar]
      exact .ok _ hb.related

end Move

/-! ## Scripts -/

/-- What the move of a client led to. -/
abbrev MoveOutcome := Except BuildError Reply

def MoveOutcome.relabel (π : Nat → Nat) (outcome : MoveOutcome) : MoveOutcome :=
  outcome.map (·.relabel π)

/-- A client: its next move depends on its builder and on the outcomes of its moves so far. It knows
variables from there only, so that with other identities it does the same with the other identities; it
may compare them. It leaves the standard renamers in force. -/
structure Script where
  next : Builder BlockWriter → List MoveOutcome → Option Move
  next_relabel : ∀ π : Nat → Nat, StrictMono π → ∀ b past,
    next (b.relabel π) (past.map (·.relabel π)) = (next b past).map (·.relabel π)
  keepsRenamers : ∀ b past, ∀ m ∈ next b past, m.keepsRenamers = true

/-- A client at work: its builder, and the outcomes of its moves so far. -/
structure Party where
  builder : Builder BlockWriter
  outcomes : List MoveOutcome

namespace Party

def start (config : Config) : Party := ⟨.new config .ofConfig, []⟩

def relabel (π : Nat → Nat) (p : Party) : Party :=
  ⟨p.builder.relabel π, p.outcomes.map (·.relabel π)⟩

@[simp] theorem relabel_relabel (π ρ : Nat → Nat) (p : Party) :
    (p.relabel π).relabel ρ = p.relabel (ρ ∘ π) := by
  have houtcome (outcome : MoveOutcome) :
      (outcome.relabel π).relabel ρ = outcome.relabel (ρ ∘ π) := by
    cases outcome <;> simp [MoveOutcome.relabel, Except.map]
  simp [relabel, Function.comp_def, houtcome]

/-- The client after a move. -/
def record (p : Party) :
    EStateM.Result BuildError (Workspace BlockWriter) Reply → Party × VarSupply
  | .ok reply w => (⟨w.builder, p.outcomes ++ [.ok reply]⟩, w.supply)
  | .error e w => (⟨w.builder, p.outcomes ++ [.error e]⟩, w.supply)

end Party

namespace Script

/-- One step of a client; a script that has ended does nothing. -/
def step (script : Script) (p : Party) (s : VarSupply) : Party × VarSupply :=
  match script.next p.builder p.outcomes with
  | none => (p, s)
  | some m => p.record (m.run ⟨p.builder, s⟩)

/-- Some steps of a client that nothing comes between. -/
def iterate (script : Script) (p : Party) (s : VarSupply) : Nat → Party
  | 0 => p
  | n + 1 => script.iterate (script.step p s).1 (script.step p s).2 n

end Script

/-! ## Clients with a plan -/

/-- The identity of the variable that a move returned. -/
def MoveOutcome.identity? : MoveOutcome → Option Nat
  | .ok (.var v) => some v.id
  | _ => none

theorem MoveOutcome.identity?_relabel (π : Nat → Nat) (outcome : MoveOutcome) :
    (outcome.relabel π).identity? = outcome.identity?.map π := by
  rcases outcome with _ | reply
  · rfl
  · cases reply <;> rfl

/-- The identities that the moves so far returned. -/
def received (past : List MoveOutcome) : List Nat :=
  past.filterMap (·.identity?)

theorem received_relabel (π : Nat → Nat) (past : List MoveOutcome) :
    received (past.map (·.relabel π)) = (received past).map π := by
  simp only [received, List.filterMap_map, List.map_filterMap, Function.comp_def,
    MoveOutcome.identity?_relabel]

/-- The client that makes a variable and then, one by one, the moves of a plan, whatever they lead to. In
the plan a variable is a position among the variables that the client has received; a position that is not
there yet stands for the first one. -/
def Script.following (plan : List Move) : Script where
  next _ past :=
    match received past with
    | [] => some (.make "first" false none none)
    | first :: others =>
      (plan.filter Move.keepsRenamers)[past.length - 1]?.map
        (·.relabel fun position : Nat => (first :: others)[position]?.getD first)
  next_relabel π _ b past := by
    rw [received_relabel, List.length_map]
    cases received past with
    | nil => rfl
    | cons first others =>
        have hposition : (fun position : Nat => ((first :: others).map π)[position]?.getD (π first)) =
            π ∘ fun position : Nat => (first :: others)[position]?.getD first := by
          funext position
          rw [List.getElem?_map, Option.getD_map, Function.comp_apply]
        rw [List.map_cons] at hposition
        simp only [List.map_cons, hposition, Option.map_map, Function.comp_def,
          Move.relabel_relabel]
  keepsRenamers b past m hm := by
    split at hm
    · obtain rfl := Option.some.inj hm
      rfl
    · obtain ⟨planned, hplanned, rfl⟩ := Option.map_eq_some_iff.mp hm
      rw [Move.keepsRenamers_relabel]
      exact (List.mem_filter.mp (List.mem_of_getElem? hplanned)).2

/-- Clients at work beside each other. -/
structure World (ι : Type) where
  parties : ι → Party
  supply : VarSupply

namespace World

variable {ι : Type} [DecidableEq ι]

def start (configs : ι → Config) (supply : VarSupply) : World ι :=
  ⟨fun i => .start (configs i), supply⟩

/-- One client makes a step. -/
def step (scripts : ι → Script) (w : World ι) (i : ι) : World ι :=
  let (p, supply) := (scripts i).step (w.parties i) w.supply
  ⟨Function.update w.parties i p, supply⟩

/-- The clients make steps in the order of a schedule. -/
def run (scripts : ι → Script) (w : World ι) (schedule : List ι) : World ι :=
  schedule.foldl (step scripts) w

end World

/-! ## One step -/

namespace Party

variable {π : Nat → Nat} {t t' : VarSupply}

theorem supply_record (p : Party) (act : BuildM BlockWriter Reply) (w : Workspace BlockWriter) :
    (p.record (act w)).2 = (BuildM.final act w).supply := by
  simp only [BuildM.final]
  cases act w <;> rfl

theorem record_relabel (p : Party)
    {x y : EStateM.Result BuildError (Workspace BlockWriter) Reply}
    (h : Alike π (Reply.relabel π) t t' x y) :
    ∃ p' : Party, p'.builder.Standard ∧ p.record x = (p', t) ∧
      (p.relabel π).record y = (p'.relabel π, t') := by
  cases h with
  | ok reply hrelated =>
      obtain ⟨b, hb, rfl, rfl⟩ := hrelated
      refine ⟨⟨b, p.outcomes ++ [.ok reply]⟩, hb, rfl, ?_⟩
      simp [record, relabel, MoveOutcome.relabel, Except.map]
  | error e hrelated =>
      obtain ⟨b, hb, rfl, rfl⟩ := hrelated
      refine ⟨⟨b, p.outcomes ++ [.error e]⟩, hb, rfl, ?_⟩
      simp [record, relabel, MoveOutcome.relabel, Except.map]

end Party

namespace Script

variable {π : Nat → Nat} {script : Script} {p : Party} {s s' : VarSupply}

/-- A step of a relabelled client is the relabelled step, if the identities that it takes are related. -/
theorem step_relabel (hπ : StrictMono π) (hp : p.builder.Standard)
    (hdraw : (script.step (p.relabel π) s').2 ≠ s' → π s.next = s'.next) :
    ∃ (p' : Party) (drawn : Nat), p'.builder.Standard ∧
      script.step p s = (p', ⟨s.next + drawn⟩) ∧
      script.step (p.relabel π) s' = (p'.relabel π, ⟨s'.next + drawn⟩) := by
  have hmove := script.next_relabel π hπ p.builder p.outcomes
  cases hnext : script.next p.builder p.outcomes with
  | none =>
      rw [hnext, Option.map_none] at hmove
      have hstep : script.step p s = (p, s) := by rw [step, hnext]
      have hstep' : script.step (p.relabel π) s' = (p.relabel π, s') := by
        simp only [step, Party.relabel, hmove]
      exact ⟨p, 0, hp, hstep, hstep'⟩
  | some m =>
      rw [hnext, Option.map_some] at hmove
      have hstep : script.step p s = p.record (m.run ⟨p.builder, s⟩) := by rw [step, hnext]
      have hstep' : script.step (p.relabel π) s' =
          (p.relabel π).record ((m.relabel π).run ⟨p.builder.relabel π, s'⟩) := by
        simp only [step, Party.relabel, hmove]
      rw [hstep', Party.supply_record] at hdraw
      obtain ⟨drawn, halike⟩ := m.alike hp (script.keepsRenamers _ _ m hnext) hdraw
      obtain ⟨p', hp', hrecord, hrecord'⟩ := p.record_relabel halike
      exact ⟨p', drawn, hp', hstep.trans hrecord, hstep'.trans hrecord'⟩

/-- A step takes identities from the supply and gives none back. -/
theorem step_standard (script : Script) (s : VarSupply) (hp : p.builder.Standard) :
    (script.step p s).1.builder.Standard ∧ s.next ≤ (script.step p s).2.next := by
  cases hnext : script.next p.builder p.outcomes with
  | none =>
      rw [step, hnext]
      exact ⟨hp, Nat.le_refl _⟩
  | some m =>
      -- Compared with the run in which all variables have one identity.
      have halike : ∃ drawn, Alike (fun _ => s.next) (Reply.relabel _) ⟨s.next + drawn⟩
          ⟨s.next + drawn⟩ (m.run ⟨p.builder, s⟩) _ :=
        m.alike hp (script.keepsRenamers _ _ m hnext) fun _ => rfl
      obtain ⟨drawn, halike⟩ := halike
      obtain ⟨p', hp', hrecord, -⟩ := p.record_relabel halike
      rw [step, hnext]
      dsimp only
      rw [hrecord]
      exact ⟨hp', Nat.le_add_right _ _⟩

end Script

/-! ## Runs -/

namespace World

variable {ι : Type} [DecidableEq ι] {scripts : ι → Script} {w : World ι} {i j : ι}

/-- Every client has the standard emitter and the standard renamers. -/
def Standard (w : World ι) : Prop := ∀ i, (w.parties i).builder.Standard

omit [DecidableEq ι] in
theorem standard_start (configs : ι → Config) (supply : VarSupply) :
    (start configs supply).Standard :=
  fun _ => ⟨rfl, rfl⟩

theorem parties_step_self (scripts : ι → Script) (w : World ι) (i : ι) :
    (w.step scripts i).parties i = ((scripts i).step (w.parties i) w.supply).1 := by
  simp [step]

theorem parties_step_of_ne (h : i ≠ j) : (w.step scripts j).parties i = w.parties i := by
  simp [step, h]

theorem supply_step (scripts : ι → Script) (w : World ι) (i : ι) :
    (w.step scripts i).supply = ((scripts i).step (w.parties i) w.supply).2 := rfl

theorem Standard.step (h : w.Standard) (scripts : ι → Script) (j : ι) :
    (w.step scripts j).Standard := by
  intro i
  by_cases hij : i = j
  · subst hij
    rw [parties_step_self]
    exact ((scripts i).step_standard w.supply (h i)).1
  · rw [parties_step_of_ne hij]
    exact h i

theorem Standard.supply_le_step (h : w.Standard) (scripts : ι → Script) (j : ι) :
    w.supply.next ≤ (w.step scripts j).supply.next :=
  ((scripts j).step_standard w.supply (h j)).2

/-- The identities that one client takes along a schedule. -/
def draws (scripts : ι → Script) (i : ι) : World ι → List ι → List Nat
  | _, [] => []
  | w, j :: schedule =>
    let w' := w.step scripts j
    (if j = i then List.range' w.supply.next (w'.supply.next - w.supply.next) else []) ++
      draws scripts i w' schedule

theorem draws_cons_self (scripts : ι → Script) (w : World ι) (i : ι) (schedule : List ι) :
    draws scripts i w (i :: schedule) =
      List.range' w.supply.next ((w.step scripts i).supply.next - w.supply.next) ++
        draws scripts i (w.step scripts i) schedule := by
  rw [draws, if_pos rfl]

theorem draws_cons_of_ne (h : j ≠ i) (schedule : List ι) :
    draws scripts i w (j :: schedule) = draws scripts i (w.step scripts j) schedule := by
  rw [draws, if_neg h, List.nil_append]

/-- The identities that a client takes increase. -/
theorem Standard.pairwise_draws (h : w.Standard) (scripts : ι → Script) (i : ι)
    (schedule : List ι) :
    (draws scripts i w schedule).Pairwise (· < ·) ∧
      ∀ n ∈ draws scripts i w schedule, w.supply.next ≤ n := by
  induction schedule generalizing w with
  | nil => exact ⟨.nil, nofun⟩
  | cons j schedule ih =>
      have hstep := h.supply_le_step scripts j
      obtain ⟨hpairwise, hle⟩ := ih (h.step scripts j)
      by_cases hj : j = i
      · subst hj
        rw [draws_cons_self]
        refine ⟨List.pairwise_append.mpr ⟨List.pairwise_lt_range', hpairwise, ?_⟩, ?_⟩
        · intro m hm n hn
          have hlater := hle n hn
          rw [List.mem_range'_1] at hm
          omega
        · refine List.forall_mem_append.mpr ⟨?_, fun n hn => hstep.trans (hle n hn)⟩
          intro n hn
          exact (List.mem_range'_1.mp hn).1
      · rw [draws_cons_of_ne hj]
        exact ⟨hpairwise, fun n hn => hstep.trans (hle n hn)⟩

/-- The step of a client that is alone up to a map of identities is its step alone, up to the map, if the
map carries the identities that the step takes alone to those that it takes beside the others. -/
theorem step_self_relabel {π : Nat → Nat} (hπ : StrictMono π) {p : Party} {s : VarSupply}
    (hp : p.builder.Standard) (hw : w.Standard) (hparty : w.parties i = p.relabel π)
    (hdrawn : (List.range' s.next ((w.step scripts i).supply.next - w.supply.next)).map π =
      List.range' w.supply.next ((w.step scripts i).supply.next - w.supply.next)) :
    ∃ p' : Party, p'.builder.Standard ∧
      (scripts i).step p s =
        (p', ⟨s.next + ((w.step scripts i).supply.next - w.supply.next)⟩) ∧
      (w.step scripts i).parties i = p'.relabel π := by
  have hle := hw.supply_le_step scripts i
  have hsupply := supply_step scripts w i
  rw [hparty] at hsupply
  -- If the step takes an identity, the first one that it takes is the next one of the supply.
  have hnext : ((scripts i).step (p.relabel π) w.supply).2 ≠ w.supply → π s.next = w.supply.next := by
    intro hne
    rw [← hsupply] at hne
    have hlt : w.supply.next < (w.step scripts i).supply.next :=
      Nat.lt_of_le_of_ne hle fun heq => hne (congrArg VarSupply.mk heq.symm)
    obtain ⟨d, hd⟩ := Nat.exists_eq_succ_of_ne_zero (Nat.sub_ne_zero_of_lt hlt)
    rw [hd, List.range'_succ, List.range'_succ] at hdrawn
    exact List.head_eq_of_cons_eq hdrawn
  obtain ⟨p', drawn, hp', hstep, hstep'⟩ := (scripts i).step_relabel hπ hp hnext
  refine ⟨p', hp', ?_, ?_⟩
  · rw [hsupply, hstep', Nat.add_sub_cancel_left, hstep]
  · rw [parties_step_self, hparty, hstep']

/-- A client that is alone up to a map of identities stays so, if the map carries the identities that it
takes when it is alone to those that it takes beside the others. -/
theorem parties_run {π : Nat → Nat} (hπ : StrictMono π) {p : Party} {s : VarSupply}
    (hp : p.builder.Standard) (hw : w.Standard) (hparty : w.parties i = p.relabel π)
    {schedule : List ι}
    (hdraws : (List.range' s.next (draws scripts i w schedule).length).map π =
      draws scripts i w schedule) :
    (w.run scripts schedule).parties i =
      ((scripts i).iterate p s (schedule.count i)).relabel π := by
  induction schedule generalizing w p s with
  | nil => exact hparty
  | cons j schedule ih =>
      by_cases hj : j = i
      · subst hj
        rw [draws_cons_self, List.length_append, List.length_range', ← List.range'_append_1,
          List.map_append] at hdraws
        obtain ⟨hnow, hlater⟩ := List.append_inj hdraws (by simp)
        obtain ⟨p', hp', hstep, hparty'⟩ := step_self_relabel hπ hp hw hparty hnow
        rw [List.count_cons_self, Script.iterate, hstep]
        exact ih hp' (hw.step scripts j) hparty' hlater
      · rw [draws_cons_of_ne hj] at hdraws
        rw [List.count_cons_of_ne hj]
        exact ih hp (hw.step scripts j) ((parties_step_of_ne (Ne.symm hj)).trans hparty) hdraws

end World

/-! ## Maps of identities -/

/-- An increasing list holds the first values of an increasing map that leaves room beside its values. -/
theorem exists_strictMono_map_range' {ids : List Nat} (h : ids.Pairwise (· < ·)) :
    ∃ π gap : Nat → Nat, StrictMono π ∧ Function.Injective gap ∧ (∀ k m, π k ≠ gap m) ∧
      (List.range' 0 ids.length).map π = ids := by
  obtain ⟨bound, hbound⟩ : ∃ bound, ∀ n ∈ ids, n < bound :=
    ⟨ids.sum + 1, fun n hn => Nat.lt_succ_of_le (List.le_sum_of_mem hn)⟩
  -- After the list the even distances from the bound follow; the odd ones stay free.
  let π := fun k => ids[k]?.getD (bound + 2 * k)
  have hof_lt (k : Nat) (hk : k < ids.length) : π k = ids[k] := by simp [π, hk]
  have hof_le (k : Nat) (hk : ids.length ≤ k) : π k = bound + 2 * k := by simp [π, hk]
  have hlt_bound (k : Nat) (hk : k < ids.length) : π k < bound := by
    rw [hof_lt k hk]
    exact hbound _ (List.getElem_mem hk)
  refine ⟨π, fun m => bound + 2 * m + 1, strictMono_nat_of_lt_succ fun k => ?_, ?_, ?_, ?_⟩
  · rcases Nat.lt_trichotomy (k + 1) ids.length with hk | hk | hk
    · rw [hof_lt k (by omega), hof_lt (k + 1) hk]
      exact List.pairwise_iff_getElem.mp h k (k + 1) (by omega) hk (by omega)
    · have hlt := hlt_bound k (by omega)
      rw [hof_le (k + 1) (by omega)]
      omega
    · rw [hof_le k (by omega), hof_le (k + 1) (by omega)]
      omega
  · intro m n hmn
    dsimp only at hmn
    omega
  · intro k m
    rcases Nat.lt_or_ge k ids.length with hk | hk
    · have hlt := hlt_bound k hk
      dsimp only
      omega
    · rw [hof_le k hk]
      dsimp only
      omega
  · refine List.ext_getElem (by simp) fun k hk _ => ?_
    have hk : k < ids.length := by simpa using hk
    simp [hof_lt k hk]

theorem injective_extend {α β γ : Type} {f : α → β} {g : α → γ} {gap : β → γ}
    (hf : Function.Injective f) (hg : Function.Injective g) (hgap : Function.Injective gap)
    (hne : ∀ k m, g k ≠ gap m) :
    Function.Injective (Function.extend f g gap) := by
  intro m n hmn
  by_cases hm : ∃ k, f k = m
  · obtain ⟨k, rfl⟩ := hm
    rw [hf.extend_apply] at hmn
    by_cases hn : ∃ l, f l = n
    · obtain ⟨l, rfl⟩ := hn
      rw [hf.extend_apply] at hmn
      exact congrArg f (hg hmn)
    · rw [Function.extend_apply' _ _ _ hn] at hmn
      exact absurd hmn (hne k n)
  · rw [Function.extend_apply' _ _ _ hm] at hmn
    by_cases hn : ∃ l, f l = n
    · obtain ⟨l, rfl⟩ := hn
      rw [hf.extend_apply] at hmn
      exact absurd hmn.symm (hne l m)
    · rw [Function.extend_apply' _ _ _ hn] at hmn
      exact hgap hmn

/-! ## Non-interference -/

section NonInterference

variable {ι : Type} [DecidableEq ι]

/-- A client beside others is the client alone on the supply from zero on, up to the identities. -/
theorem World.parties_run_start (scripts : ι → Script) (configs : ι → Config) (supply : VarSupply)
    (schedule : List ι) (i : ι) :
    ∃ π gap : Nat → Nat, StrictMono π ∧ Function.Injective gap ∧ (∀ k m, π k ≠ gap m) ∧
      ((start configs supply).run scripts schedule).parties i =
        ((scripts i).iterate (.start (configs i)) ⟨0⟩ (schedule.count i)).relabel π := by
  have hstandard := standard_start configs supply
  obtain ⟨π, gap, hπ, hgap, hne, hmap⟩ :=
    exists_strictMono_map_range' (hstandard.pairwise_draws scripts i schedule).1
  have hstart : (start configs supply).parties i = (Party.start (configs i)).relabel π := rfl
  exact ⟨π, gap, hπ, hgap, hne, parties_run (s := ⟨0⟩) hπ ⟨rfl, rfl⟩ hstandard hstart hmap⟩

/-- Clients do not interfere: along every schedule each of them gets the same outcomes, and is left with
the same builder, as if it made its steps alone, up to an injective map of the identities of variables. -/
theorem scripts_do_not_interfere (scripts : ι → Script) (configs : ι → Config)
    (shared alone : VarSupply) (schedule : List ι) (i : ι) :
    ∃ ρ : Nat → Nat, Function.Injective ρ ∧
      ((World.start configs shared).run scripts schedule).parties i =
        (((World.start configs alone).run scripts (schedule.filter (· = i))).parties i).relabel ρ := by
  obtain ⟨π, gap, hπ, hgap, hne, hshared⟩ :=
    World.parties_run_start scripts configs shared schedule i
  obtain ⟨π', -, hπ', -, -, halone⟩ :=
    World.parties_run_start scripts configs alone (schedule.filter (· = i)) i
  have hcount : (schedule.filter (· = i)).count i = schedule.count i :=
    List.count_filter (by simp)
  refine ⟨Function.extend π' π gap, injective_extend hπ'.injective hπ.injective hgap hne, ?_⟩
  rw [hshared, halone, hcount, Party.relabel_relabel, Function.extend_comp hπ'.injective]

/-- The same client twice, in turn: the variables of the first one have the identities 0 and 2. -/
example :
    let client := Script.following
      [.act .openFunction, .act (.emit (.var ⟨0, "", false, none, none⟩)), .act .closeScope]
    (World.start (fun _ : Bool => {}) ⟨0⟩).draws (fun _ => client) true
      [true, false, true, false, true, false, true, false] = [0, 2] := by
  rfl

end NonInterference

end ScopedBuilder
