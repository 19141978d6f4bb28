import ScopedBuilder.Proofs.Client

/-!
# Scopes written out

A client that passes on the first error of its steps does the same as a flat program, in which every scope is
an opening, the steps inside, and the closing of the handle that the opening returned. A flat program stops at
the first error, so the scopes around a step that fails stay open.
-/

namespace ScopedBuilder

variable {σ : Type} {α β : Type}

namespace BuildM

/-- What goes on after a computation, if it succeeds. -/
def follow (act : BuildM σ α) (later : α → Workspace σ → List β) (w : Workspace σ) : List β :=
  match act w with
  | .ok a w => later a w
  | .error _ _ => []

variable {act : BuildM σ α} {later : α → Workspace σ → List β} {w w' : Workspace σ}

theorem follow_of_ok {a : α} (h : act w = .ok a w') : act.follow later w = later a w' := by
  rw [follow, h]

theorem follow_of_error {err : BuildError} (h : act w = .error err w') : act.follow later w = [] := by
  rw [follow, h]

/-- Two things that go on after the same success. -/
theorem follow_append (act : BuildM σ α) (first second : α → Workspace σ → List β) (w : Workspace σ) :
    act.follow first w ++ act.follow second w = act.follow (fun a w => first a w ++ second a w) w := by
  cases hact : act w with
  | error err w' => simp only [follow_of_error hact, List.append_nil]
  | ok a w' => simp only [follow_of_ok hact]

theorem bind_of_ok {next : α → BuildM σ β} {a : α} (h : act w = .ok a w') :
    (act >>= next) w = next a w' := by
  simp only [bind, EStateM.bind, h]

theorem bind_of_error {next : α → BuildM σ β} {err : BuildError} (h : act w = .error err w') :
    (act >>= next) w = .error err w' := by
  simp only [bind, EStateM.bind, h]

theorem follow_bind {γ : Type} (act : BuildM σ α) (next : α → BuildM σ γ)
    (later : γ → Workspace σ → List β) (w : Workspace σ) :
    (act >>= next).follow later w = act.follow (fun a => (next a).follow later) w := by
  cases hact : act w with
  | error err w' => rw [follow_of_error hact, follow_of_error (bind_of_error hact)]
  | ok a w' => rw [follow_of_ok hact, follow, bind_of_ok hact, follow]

end BuildM

/-! ## Flat programs -/

/-- Operations in a row, each of which may depend on what those before it returned. -/
inductive FlatProgram (σ α : Type) where
  | done (outcome : Except BuildError α)
  /-- Looks at the builder. -/
  | look (next : Builder σ → FlatProgram σ α)
  | act (e : Event) (next : Reply → FlatProgram σ α)
  /-- Opens a scope and goes on with its handle. -/
  | opens (s : Enclosure) (next : Scope → FlatProgram σ α)

namespace FlatProgram

variable [Emitter σ]

/-- Carries out one operation after the other, up to the first error. -/
def run : FlatProgram σ α → BuildM σ α
  | done outcome => liftM outcome
  | look next => BuildM.getBuilder >>= fun b => (next b).run
  | act e next => e.run >>= fun reply => (next reply).run
  | opens s next => s.opens >>= fun handle => (next handle).run

/-- The operations that are carried out, in order. -/
def events : FlatProgram σ α → Workspace σ → List Event
  | done _ => fun _ => []
  | look next => fun w => (next w.builder).events w
  | act e next => fun w => e :: e.run.follow (fun reply => (next reply).events) w
  | opens s next => fun w =>
    .action s.opening :: BuildM.follow s.opens (fun handle => (next handle).events) w

/-- A program stops at an error if it begins with the operation `e`, and the rest of it stops at errors. -/
theorem stops_of_rest {act : BuildM σ β} {g : β → Reply} {e e' : Event} {next : β → FlatProgram σ α}
    {w w' : Workspace σ} {past later : List Event} {err : BuildError} (hrun : e.run = g <$> act)
    (hrest : ∀ b w past, (next b).events w = past ++ e' :: later →
      e'.run (w.after past) = .error err w' → later = [] ∧ (next b).run w = .error err w')
    (hevents : e :: act.follow (fun b => (next b).events) w = past ++ e' :: later)
    (herror : e'.run (w.after past) = .error err w') :
    later = [] ∧ (act >>= fun b => (next b).run) w = .error err w' := by
  cases hact : act w with
  | error err' w₁ =>
      have hfailed : e.run w = .error err' w₁ := by
        rw [hrun, map_eq_pure_bind, BuildM.bind_of_error hact]
      rw [BuildM.follow_of_error hact] at hevents
      obtain ⟨rfl, hlast⟩ := List.append_eq_singleton_iff.mp hevents.symm |>.resolve_right (by simp)
      obtain ⟨rfl, rfl⟩ := List.cons.inj hlast
      obtain ⟨rfl, rfl⟩ := EStateM.Result.error.inj (hfailed.symm.trans herror)
      exact ⟨rfl, BuildM.bind_of_error hact⟩
  | ok b w₁ =>
      have hdone : e.run w = .ok (g b) w₁ := by
        rw [hrun, map_eq_pure_bind, BuildM.bind_of_ok hact]
        rfl
      rw [BuildM.follow_of_ok hact] at hevents
      rw [BuildM.bind_of_ok hact]
      cases past with
      | nil =>
          obtain ⟨rfl, -⟩ := List.cons.inj hevents
          cases hdone.symm.trans herror
      | cons first past =>
          obtain ⟨rfl, htail⟩ := List.cons.inj hevents
          rw [Workspace.after, Workspace.next_of_ok hdone] at herror
          exact hrest b w₁ past htail herror

theorem run_opening (s : Enclosure) :
    (Event.action s.opening).run = Reply.scope <$> (s.opens : BuildM σ Scope) := by
  rw [map_eq_pure_bind]
  cases s <;> rfl

/-- An operation that fails is the last one, and its error is what the program returns. -/
theorem stops_at_error {p : FlatProgram σ α} {w w' : Workspace σ} {past later : List Event} {e : Event}
    {err : BuildError} (hevents : p.events w = past ++ e :: later)
    (herror : e.run (w.after past) = .error err w') : later = [] ∧ p.run w = .error err w' := by
  induction p generalizing w past with
  | done outcome => simp [events] at hevents
  | look next ih => exact ih w.builder hevents herror
  | act f next ih =>
      exact stops_of_rest (id_map f.run).symm (fun b _ _ => ih b) hevents herror
  | opens s next ih =>
      exact stops_of_rest (run_opening s) (fun b _ _ => ih b) hevents herror

end FlatProgram

/-! ## Clients that pass on errors -/

namespace Client

/-- Whether an error of any step, or of the work in any scope, is passed on at once. -/
def PassesOn {α : Type} : Client σ α → Prop
  | done _ => True
  | look next => ∀ b, (next b).PassesOn
  | act _ next =>
    (∀ err, next (.error err) = .done (.error err)) ∧ ∀ reply, (next (.ok reply)).PassesOn
  | enclose _ body next =>
    body.PassesOn ∧ (∀ err, next (.error err) = .done (.error err)) ∧
      ∀ b, (next (.ok b)).PassesOn

/-- The steps of a client with every scope written out, and `rest` after them. -/
def flatten {α : Type} : Client σ α → (α → FlatProgram σ β) → FlatProgram σ β
  | done (.ok a), rest => rest a
  | done (.error err), _ => .done (.error err)
  | look next, rest => .look fun b => (next b).flatten rest
  | act e next, rest => .act e fun reply => (next (.ok reply)).flatten rest
  | enclose s body next, rest =>
    .opens s fun handle => body.flatten fun b =>
      .act (.action (.close handle)) fun _ => (next (.ok b)).flatten rest

/-- The client with every scope written out. -/
def flat (c : Client σ α) : FlatProgram σ α := c.flatten fun a => .done (.ok a)

variable [Emitter σ]

/-- What goes on after a computation whose error is passed on. -/
theorem run_passing {act : BuildM σ β} {next : Except BuildError β → Client σ α}
    (h : ∀ err, next (.error err) = .done (.error err)) (w : Workspace σ) :
    (next (BuildM.outcome act w)).run (BuildM.final act w) =
      (act >>= fun b => (next (.ok b)).run) w := by
  cases hact : act w with
  | error err w' =>
      rw [BuildM.bind_of_error hact, BuildM.final_of_error hact, BuildM.outcome, hact, h]
      rfl
  | ok b w' =>
      rw [BuildM.bind_of_ok hact, BuildM.final_of_ok hact, BuildM.outcome, hact]

theorem events_passing {act : BuildM σ β} {next : Except BuildError β → Client σ α}
    (h : ∀ err, next (.error err) = .done (.error err)) (w : Workspace σ) :
    (next (BuildM.outcome act w)).events (BuildM.final act w) =
      act.follow (fun b => (next (.ok b)).events) w := by
  cases hact : act w with
  | error err w' =>
      rw [BuildM.follow_of_error hact, BuildM.outcome, hact, h]
      rfl
  | ok b w' =>
      rw [BuildM.follow_of_ok hact, BuildM.final_of_ok hact, BuildM.outcome, hact]

theorem run_act {e : Event} {next : Except BuildError Reply → Client σ α}
    (h : (act e next).PassesOn) :
    (act e next).run = e.run >>= fun reply => (next (.ok reply)).run :=
  funext (run_passing h.1)

theorem run_enclose {s : Enclosure} {body : Client σ β} {next : Except BuildError β → Client σ α}
    (h : (enclose s body next).PassesOn) :
    (enclose s body next).run = s.around body.run >>= fun b => (next (.ok b)).run :=
  funext (run_passing h.2.1)

/-- A scope around a computation is its opening, the computation, and its closing. -/
theorem around_bind (s : Enclosure) (body : BuildM σ α) (next : α → BuildM σ β) :
    s.around body >>= next =
      s.opens >>= fun handle => body >>= fun a =>
        (Event.action (.close handle)).run >>= fun _ => next a := by
  rw [s.around_eq]
  simp only [Builder.withScope, Event.run, Action.run, bind_assoc, pure_bind]
  rfl

theorem run_flatten {c : Client σ α} (h : c.PassesOn) (rest : α → FlatProgram σ β) :
    (c.flatten rest).run = c.run >>= fun a => (rest a).run := by
  -- Any rest will do, so that what is said of the work in a scope covers the closing and all behind it.
  induction c with
  | done outcome => cases outcome <;> rfl
  | look next ih =>
      funext w
      exact congrFun (ih w.builder (h w.builder) rest) w
  | act e next ih =>
      rw [run_act h, bind_assoc]
      exact congrArg (e.run >>= ·) (funext fun reply => ih _ (h.2 reply) rest)
  | enclose s body next ihbody ihnext =>
      rw [run_enclose h, bind_assoc, around_bind]
      refine congrArg (s.opens >>= ·) (funext fun handle => ?_)
      rw [ihbody h.1]
      refine congrArg (body.run >>= ·) (funext fun b => ?_)
      exact congrArg _ (funext fun _ => ihnext _ (h.2.2 b) rest)

/-- What happens in a scope and after it, in order. -/
theorem events_around (s : Enclosure) (body : BuildM σ α) (inner : Workspace σ → List Event)
    (later : α → Workspace σ → List Event) (w : Workspace σ) :
    s.events body inner w ++ (s.around body).follow later w =
      .action s.opening :: BuildM.follow s.opens (fun handle w => inner w ++
        body.follow (fun a w => .action (.close handle) ::
          (Event.action (.close handle)).run.follow (fun _ => later a) w) w) w := by
  have haround := around_bind s body pure
  rw [bind_pure] at haround
  rw [haround, BuildM.follow_bind, Enclosure.events, List.cons_append]
  apply congrArg (Event.action s.opening :: ·)
  cases hopen : (s.opens : BuildM σ Scope) w with
  | error err w₁ =>
      simp only [BuildM.follow_of_error hopen, List.append_nil]
  | ok handle w₁ =>
      simp only [BuildM.follow_of_ok hopen, BuildM.follow_bind, List.append_assoc]
      apply congrArg (inner w₁ ++ ·)
      cases hbody : body w₁ with
      | error err w₂ => simp only [BuildM.follow_of_error hbody, List.append_nil]
      | ok a w₂ =>
          simp only [BuildM.follow_of_ok hbody, BuildM.follow_bind]
          rfl

theorem events_flatten {c : Client σ α} (h : c.PassesOn) (rest : α → FlatProgram σ β) :
    (c.flatten rest).events = fun w => c.events w ++ c.run.follow (fun a => (rest a).events) w := by
  induction c with
  | done outcome => cases outcome <;> rfl
  | look next ih =>
      funext w
      exact congrFun (ih w.builder (h w.builder) rest) w
  | act e next ih =>
      funext w
      rw [run_act h, BuildM.follow_bind, events, events_passing h.1, List.cons_append,
        BuildM.follow_append, flatten, FlatProgram.events]
      simp only [fun reply => ih _ (h.2 reply) rest]
  | enclose s body next ihbody ihnext =>
      funext w
      rw [run_enclose h, BuildM.follow_bind, events, events_passing h.2.1, List.append_assoc,
        BuildM.follow_append, events_around, flatten, FlatProgram.events]
      simp only [ihbody h.1, FlatProgram.events, fun b => ihnext _ (h.2.2 b) rest]

/-- Errors passed on, a client returns the same, leaves the same builder, supply of variables included, and
carries out the same operations as the flat program with its scopes written out. An operation that fails is
the last one, in whatever scopes it is: none of them is closed, and what the operation left is what the client
leaves. -/
theorem run_flat {c : Client σ α} (h : c.PassesOn) (w : Workspace σ) :
    c.flat.run w = c.run w ∧ c.flat.events w = c.events w ∧
      ∀ (past later : List Event) (e : Event) (err : BuildError) (w' : Workspace σ),
        c.events w = past ++ e :: later → e.run (w.after past) = .error err w' →
        later = [] ∧ c.run w = .error err w' := by
  have hrun : c.flat.run = c.run := by
    rw [flat, run_flatten h]
    exact bind_pure c.run
  have hevents : c.flat.events w = c.events w := by
    rw [flat, events_flatten h]
    cases hend : c.run w with
    | error err w' => simp only [BuildM.follow_of_error hend, List.append_nil]
    | ok a w' => simp only [BuildM.follow_of_ok hend, FlatProgram.events, List.append_nil]
  refine ⟨congrFun hrun w, hevents, ?_⟩
  intro past later e err w' hfailing herror
  rw [← hevents] at hfailing
  rw [← hrun]
  exact FlatProgram.stops_at_error hfailing herror

/-- Goes on after a success, and passes on an error. -/
def passing (next : β → Client σ α) : Except BuildError β → Client σ α
  | .ok b => next b
  | .error err => .done (.error err)

end Client

/-- Work in a module that names a function twice. -/
def namingTwice : Client BlockWriter Unit :=
  .enclose .module
    (.enclose .function
      (.act (.action (.setName "f")) (.passing fun _ =>
        .act (.action (.setName "g")) (.passing fun _ => .done (.ok ()))))
      (.passing fun _ => .done (.ok ())))
    (.passing fun _ => .done (.ok ()))

/-- The second name is refused, and the frames of the module, the function and its block stay. -/
theorem run_flat_of_naming_twice :
    let w := Workspace.new {} ⟨0⟩
    namingTwice.PassesOn ∧ ∃ err w', namingTwice.run w = .error err w' ∧
      namingTwice.flat.run w = .error err w' ∧ w'.builder.depth = 3 := by
  intro w
  have hpasses : namingTwice.PassesOn := by
    refine ⟨⟨?_, fun _ => rfl, fun _ => trivial⟩, fun _ => rfl, fun _ => trivial⟩
    exact ⟨fun _ => rfl, fun _ => ⟨fun _ => rfl, fun _ => trivial⟩⟩
  obtain ⟨hrun, -, hstop⟩ := Client.run_flat hpasses w
  have hlast := hstop [.action .openModule, .action .openFunction, .action (.setName "f")] []
    (.action (.setName "g")) _ _ rfl rfl
  exact ⟨hpasses, _, _, hlast.2, hrun.trans hlast.2, rfl⟩

end ScopedBuilder
