import ScopedBuilder.Proofs.FunctionScope

/-!
# Single assignment

Every binding has a variable of its own, with an identity that is greater than those of all variables before
it. If clients use only variables that are there, then no value mentions its own variable or a later one.
This holds across the blocks of a function, whatever happens between its bindings.
-/

namespace ScopedBuilder

/-! ## The variables that an expression mentions -/

namespace Expr

mutual

/-- The identities of the variables in an expression, those that are bound in a sequence included. -/
def ids : Expr → List Nat
  | .var v => [v.id]
  | .global _ | .external _ | .op _ | .shape _ => []
  | .tuple fields _ => idsAll fields
  | .call callee args _ _ _ => ids callee ++ idsAll args
  | .seq blocks body _ => idsBlocks blocks ++ ids body

def idsAll : List Expr → List Nat
  | [] => []
  | e :: es => ids e ++ idsAll es

def idsBlocks : List (Block Expr) → List Nat
  | [] => []
  | ⟨_, bindings⟩ :: blocks => idsBindings bindings ++ idsBlocks blocks

def idsBindings : List (Binding Expr) → List Nat
  | [] => []
  | ⟨v, e⟩ :: bindings => v.id :: (ids e ++ idsBindings bindings)

end

mutual

/-- Normalization neither adds nor drops a variable. -/
theorem ids_normalize : ∀ e : Expr, e.normalize.ids = e.ids
  | .tuple fields _ => by
      simp only [normalize, ids, idsAll_normalizeAll fields]
  | .call _ args _ _ _ => by
      simp only [normalize, ids, idsAll_normalizeAll args]
  | .seq _ body _ => by
      simp only [normalize, ids, ids_normalize body]
  | .var _ | .global _ | .external _ | .op _ | .shape _ => by
      simp only [normalize]

theorem idsAll_normalizeAll : ∀ es : List Expr, idsAll (normalizeAll es) = idsAll es
  | [] => by simp only [normalizeAll]
  | e :: es => by
      simp only [normalizeAll, idsAll, ids_normalize e, idsAll_normalizeAll es]

end

end Expr

/-! ## Logs in order -/

namespace EmissionLog

/-- Each binding of a log is younger than the bindings before it and than what it mentions, and older than
the next identity. -/
structure Ordered (log : EmissionLog) (next : Nat) : Prop where
  increasing : log.bindings.Pairwise fun b c => b.var.id < c.var.id
  older : ∀ b ∈ log.bindings, b.var.id < next
  mentions : ∀ b ∈ log.bindings, ∀ i ∈ b.value.ids, i < b.var.id

namespace Ordered

variable {log : EmissionLog} {next : Nat}

theorem nil : Ordered [] next :=
  ⟨.nil, nofun, nofun⟩

theorem mono {next' : Nat} (h : log.Ordered next) (hle : next ≤ next') : log.Ordered next' :=
  ⟨h.increasing, fun b hb => Nat.lt_of_lt_of_le (h.older b hb) hle, h.mentions⟩

theorem cut (h : log.Ordered next) : Ordered (log ++ [.cut]) next := by
  obtain ⟨hincreasing, holder, hmentions⟩ := h
  exact ⟨by simpa using hincreasing, by simpa using holder, by simpa using hmentions⟩

/-- The next binding takes the next identity. -/
theorem bound {v : Var} {e : Expr} (h : log.Ordered next) (kind : BlockKind) (hv : v.id = next)
    (he : ∀ i ∈ e.ids, i < next) :
    Ordered (log ++ [.bound kind ⟨v, e.normalize⟩]) (next + 1) where
  increasing := by
    rw [bindings_append_bound, List.pairwise_append]
    refine ⟨h.increasing, List.pairwise_singleton _ _, ?_⟩
    intro b hb c hc
    obtain rfl := List.mem_singleton.mp hc
    rw [hv]
    exact h.older b hb
  older := by
    rw [bindings_append_bound, List.forall_mem_append]
    refine ⟨fun b hb => Nat.lt_succ_of_lt (h.older b hb), ?_⟩
    simp [hv]
  mentions := by
    rw [bindings_append_bound, List.forall_mem_append]
    refine ⟨h.mentions, ?_⟩
    simpa [hv, Expr.ids_normalize] using he

/-- No binding mentions its own variable or a later one. -/
theorem not_mem_ids (h : log.Ordered next) {before after : List (Binding Expr)} {b : Binding Expr}
    (hlog : log.bindings = before ++ b :: after) : ∀ c ∈ b :: after, c.var.id ∉ b.value.ids := by
  intro c hc hmem
  have hincreasing := h.increasing
  rw [hlog] at hincreasing
  have hlater := (List.pairwise_append.mp hincreasing).2.1
  have hle : b.var.id ≤ c.var.id := by
    rcases List.mem_cons.mp hc with rfl | hafter
    · exact Nat.le_refl _
    · exact Nat.le_of_lt (List.rel_of_pairwise_cons hlater hafter)
  have hlt : c.var.id < b.var.id := h.mentions b (by simp [hlog]) _ hmem
  omega

end Ordered

end EmissionLog

/-! ## Changes keep the order -/

namespace Step

/-- The expression that a step binds, if it succeeds. -/
def binds? (s : Step BlockWriter) : Option Expr :=
  match s.event with
  | .action a => a.binds?
  | .drawn _ | .replaced _ => none

/-- An expression that a step binds mentions only variables that are there. -/
def MentionsOlder (s : Step BlockWriter) : Prop :=
  ∀ e ∈ s.binds?, ∀ i ∈ e.ids, i < s.before.supply.next

instance (s : Step BlockWriter) : Decidable s.MentionsOlder :=
  inferInstanceAs (Decidable (∀ e ∈ s.binds?, ∀ i ∈ e.ids, i < s.before.supply.next))

end Step

section Changes

variable {w w' : Workspace BlockWriter} {a : Action} {reply : Reply} {config : Config}
  {logs : List OpenLog}

theorem FuncDraft.emit_supply {f f' : FuncDraft BlockWriter} {e : Expr} {v : Var}
    {supply supply' : VarSupply} (h : FuncDraft.emit e (f, supply) = .ok v (f', supply')) :
    v.id = supply.next ∧ supply' = ⟨supply.next + 1⟩ := by
  cases hopen : f.emitter.openBlocks with
  | nil => simp [FuncDraft.emit, Emitter.emit, BlockWriter.emit, hopen] at h
  | cons block outer =>
      cases h.symm.trans (emit_of_open hopen)
      exact ⟨rfl, rfl⟩

/-- What binds nothing takes no identity. -/
theorem Change.supply_eq (h : Change w a reply w') (hbinds : a.binds? = none) :
    w'.supply = w.supply := by
  cases h with
  | emit ha _ _ => simp [hbinds] at ha
  | close _ _ hclosing => cases hclosing <;> rfl
  | abort | takeResult => split <;> rfl
  | _ => rfl

/-- The innermost log is written to, and the others get older. -/
theorem ordered_modifyHead {next next' : Nat} {write : OpenLog → OpenLog}
    (h : ∀ log ∈ logs, log.entries.Ordered next) (hle : next ≤ next')
    (hwrite : ∀ log, log.entries.Ordered next → (write log).entries.Ordered next') :
    ∀ log ∈ logs.modifyHead write, log.entries.Ordered next' := by
  cases logs with
  | nil => exact nofun
  | cons log logs =>
      obtain ⟨hhead, htail⟩ := List.forall_mem_cons.mp h
      exact List.forall_mem_cons.mpr ⟨hwrite log hhead, fun log' hlog' => (htail log' hlog').mono hle⟩

/-- What binds nothing cuts logs, begins them or drops them. -/
theorem Step.ordered_writeLogs {next : Nat} (hbinds : a.binds? = none)
    (h : ∀ log ∈ logs, log.entries.Ordered next) :
    ∀ log ∈ Step.writeLogs ⟨w, .action a⟩ logs, log.entries.Ordered next := by
  have hcut (kind : BlockKind) : ∀ log ∈ logs.modifyHead (·.cut kind), log.entries.Ordered next :=
    ordered_modifyHead h (Nat.le_refl next) fun _ => .cut
  unfold writeLogs
  cases hrun : Step.outcome ⟨w, .action a⟩ with
  | error => exact h
  | ok reply w' =>
      cases a with
      | openFunction => exact List.forall_mem_cons.mpr ⟨.nil, h⟩
      | close | closeScope =>
          dsimp only
          split
          · exact fun log hlog => h log (List.mem_of_mem_tail hlog)
          · exact hcut _
          · exact h
      | abort => exact nofun
      | openBlock kind | pushBlock kind => exact hcut kind
      | emit | emitKernelCall => cases hbinds
      | _ => exact h

theorem Change.ordered (h : Change w a reply w') (hrun : a.run w = .ok reply w')
    (holder : Step.MentionsOlder ⟨w, .action a⟩)
    (hlogs : ∀ log ∈ logs, log.entries.Ordered w.supply.next) :
    ∀ log ∈ Step.writeLogs ⟨w, .action a⟩ logs, log.entries.Ordered w'.supply.next := by
  cases hbinds : a.binds? with
  | none =>
      rw [h.supply_eq hbinds]
      exact Step.ordered_writeLogs hbinds hlogs
  | some e =>
      obtain ⟨v, hbuilder, rfl⟩ := (Action.run_binds hbinds).mp hrun
      obtain ⟨-, above, f, below, f', supply, hsplit, hemit, rfl⟩ := Builder.emit_eq_ok.mp hbuilder
      obtain ⟨hv, rfl⟩ := FuncDraft.emit_supply hemit
      rw [Step.writeLogs_of_binds hbinds hrun]
      exact ordered_modifyHead hlogs (Nat.le_succ _) fun log hlog =>
        hlog.bound log.kind hv (holder e hbinds)

end Changes

/-! ## Runs -/

open Frames

namespace Workspace

theorem ordered_after (config : Config) (supply : VarSupply) {events : List Event}
    (hfailed : ((new config supply).after events).builder.failed = false)
    (holder : ∀ s ∈ (new config supply).steps events, s.MentionsOlder) :
    ∀ log ∈ logs ((new config supply).steps events),
      log.entries.Ordered ((new config supply).after events).supply.next := by
  refine holds_after_of_forall Step.MentionsOlder
    (fun past w => ∀ log ∈ logs past, log.entries.Ordered w.supply.next) ?_ .nil nofun holder hfailed
  intro past w e w' _ _ holder hordered hquiet
  rw [logs_concat]
  cases hquiet with
  | change hrun hchange =>
      exact hchange.ordered hrun holder hordered
  | drawn count => exact fun log hlog => (hordered log hlog).mono (Nat.le_add_right _ _)
  | replaced kind => exact hordered
  | refused herror =>
      rw [Step.writeLogs_of_error herror]
      exact hordered

end Workspace

/-- The bindings of a function whose scope closes are those of its log. -/
theorem Closing.exists_log {w w' : Workspace BlockWriter} {depth : Nat} {logs : List OpenLog}
    {t : Option Table} (h : Closing w w')
    (hscope : w.builder.frames.innermostScope? = some ⟨depth, .function⟩)
    {written : BlockKind → Prop} (hrec : Recorded written w.builder.result.isSome w.builder.frames logs)
    (hmirrors : Mirrors t w) :
    ∃ f func log, w.builder.frames.nearestFunction? = some f ∧ log ∈ logs ∧
      w'.HandedOver f.nameOrEmpty func ∧ func.blocks.flatMap (·.bindings) = log.entries.bindings := by
  obtain ⟨kind, f, f', func, below, hframes, hfree, hleave, hfunc, hover⟩ :=
    h.exists_handedOver hmirrors hscope
  rw [hframes] at hrec
  obtain ⟨log, hlog, hlogged, -⟩ := hrec.logged hfree
  exact ⟨f, func, log, hframes ▸ rfl, List.mem_of_head? hlog, hover,
    Block.flatMap_bindings (hlogged.func_blocks hleave hfunc)⟩

/-- Whenever the scope of a function closes successfully, in any session with the standard emitter in which
the expressions that were bound mention only variables that are there at that time: the identities of the
variables increase along the bindings of its blocks, each value mentions only variables with smaller
identities than the one it is bound to, each variable is bound once, and no binding mentions its own
variable or a later one. -/
theorem single_assignment (config : Config) (supply : VarSupply) (events : List Event)
    (a : Action) (depth : Nat) (reply : Reply) (w' : Workspace BlockWriter) :
    let w := (Workspace.new config supply).after events
    (∀ s ∈ (Workspace.new config supply).steps events, s.MentionsOlder) →
    w.builder.frames.innermostScope? = some ⟨depth, .function⟩ →
    a.closes ⟨depth, .function⟩ = true → a.run w = .ok reply w' →
      ∃ f func, w.builder.frames.nearestFunction? = some f ∧ w'.HandedOver f.nameOrEmpty func ∧
        let bindings := func.blocks.flatMap (·.bindings)
        bindings.Pairwise (fun b c => b.var.id < c.var.id) ∧
          (∀ b ∈ bindings, ∀ i ∈ b.value.ids, i < b.var.id) ∧
          (bindings.map (·.var.id)).Nodup ∧
          ∀ before b after, bindings = before ++ b :: after →
            ∀ c ∈ b :: after, c.var.id ∉ b.value.ids := by
  intro w holder hscope ha hrun
  have hfailed : w.builder.failed = false := Action.not_failed_of_closes ha hrun
  have hsound : w.Sound config := Workspace.sound_after config supply hfailed
  have hmirrors : Mirrors _ w := Workspace.mirrors_after config supply hfailed
  have hrec : Recorded _ w.builder.result.isSome w.builder.frames _ :=
    Workspace.recorded_after config supply hfailed
  obtain ⟨-, -, hclosing⟩ := (Action.run_closes_eq_ok hsound.shaped hscope ha).mp hrun
  obtain ⟨f, func, log, hf, hlog, hover, hbindings⟩ := hclosing.exists_log hscope hrec hmirrors
  have hordered := Workspace.ordered_after config supply hfailed holder log hlog
  refine ⟨f, func, hf, hover, ?_⟩
  rw [hbindings]
  refine ⟨hordered.increasing, hordered.mentions, ?_, fun _ _ _ => hordered.not_mem_ids⟩
  exact List.pairwise_map.mpr (hordered.increasing.imp Nat.ne_of_lt)

/-- A variable from elsewhere and one bound in an outer block are used in a dataflow block. -/
theorem single_assignment_across_blocks :
    let events : List Event :=
      [.drawn 1, .action .openFunction, .action (.emit (.var ⟨0, "x", false, none, none⟩)),
        .action (.openBlock .dataflow),
        .action (.emit (.tuple [.var ⟨0, "x", false, none, none⟩, .var ⟨1, "gv0", false, none, none⟩]
          none)),
        .action .closeScope, .action (.setResultTy .shape), .action (.addOutput (.op "d"))]
    let w := (Workspace.new {} ⟨0⟩).after events
    (∀ s ∈ (Workspace.new {} ⟨0⟩).steps events, s.MentionsOlder) ∧
      ∃ w', Action.closeScope.run w = .ok .done w' ∧
        ∃ f func, w.builder.frames.nearestFunction? = some f ∧ w'.HandedOver f.nameOrEmpty func ∧
          let bindings := func.blocks.flatMap (·.bindings)
          bindings.Pairwise (fun b c => b.var.id < c.var.id) ∧
            (∀ b ∈ bindings, ∀ i ∈ b.value.ids, i < b.var.id) ∧
            (bindings.map (·.var.id)).Nodup ∧
            ∀ before b after, bindings = before ++ b :: after →
              ∀ c ∈ b :: after, c.var.id ∉ b.value.ids :=
  ⟨by decide, _, rfl,
    single_assignment {} ⟨0⟩ _ .closeScope 0 .done _ (by decide) rfl rfl rfl⟩

end ScopedBuilder
