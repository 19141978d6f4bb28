import ScopedBuilder.Builder.Scoped
import ScopedBuilder.Proofs.Failure
import ScopedBuilder.Session

/-!
# Clients of a builder

A client works on a builder step by step, and each step may depend on everything seen before. It may put a
scope around a part of its work, to any depth. All that it does to the builder is a run of operations, so
what is known of runs holds at every point of its work.
-/

namespace ScopedBuilder

variable {σ : Type} {α β : Type}

namespace BuildM

/-- What a computation returns. -/
def outcome (act : BuildM σ α) (w : Workspace σ) : Except BuildError α :=
  match act w with
  | .ok a _ => .ok a
  | .error e _ => .error e

end BuildM

theorem BuildM.final_bind_pure (act : BuildM σ α) (f : α → β) (w : Workspace σ) :
    final (act >>= fun a => pure (f a)) w = final act w := by
  simp only [final, bind, EStateM.bind]
  cases act w <;> rfl

/-! ## Scopes around a computation -/

/-- The scope is closed after a computation that succeeds. -/
theorem Builder.final_withScope [Emitter σ] {opening : BuildM σ Scope} {body : BuildM σ α}
    {w w₁ w₂ : Workspace σ} {handle : Scope} {a : α} (hopen : opening w = .ok handle w₁)
    (hbody : body w₁ = .ok a w₂) :
    BuildM.final (withScope opening body) w = BuildM.final (close handle) w₂ := by
  cases hclose : close handle w₂ with
  | error e w₃ =>
      have hscope := withScope_eq_error_iff.mpr
        (.inr ⟨handle, w₁, hopen, .inr ⟨a, w₂, hbody, hclose⟩⟩)
      rw [BuildM.final_of_error hscope, BuildM.final_of_error hclose]
  | ok _ w₃ =>
      have hscope := withScope_eq_ok_iff.mpr ⟨handle, w₁, w₂, hopen, hbody, hclose⟩
      rw [BuildM.final_of_ok hscope, BuildM.final_of_ok hclose]

/-- A scope that is opened before a computation and closed after it. -/
inductive Enclosure where
  | module
  | function
  | block (kind : BlockKind)

namespace Enclosure

/-- The operation that opens the scope. -/
def opening : Enclosure → Action
  | module => .openModule
  | function => .openFunction
  | block kind => .openBlock kind

/-- The name under which a failed session refuses to open the scope. -/
def operation : Enclosure → Operation
  | module => .openModule
  | function => .openFunction
  | block _ => .openBlock

variable [Emitter σ]

def opens : Enclosure → BuildM σ Scope
  | module => Builder.openModule
  | function => Builder.openFunction
  | block kind => Builder.openBlock kind

/-- A computation in the scope. -/
def around (s : Enclosure) (body : BuildM σ α) : BuildM σ α :=
  match s with
  | module => Builder.inModule σ body
  | function => Builder.inFunction σ body
  | block kind => Builder.inBlock σ kind body

/-- What happens to the builder in the scope, when the computation inside amounts to the events `inner`:
the scope is closed only if the computation succeeds. -/
def events (s : Enclosure) (body : BuildM σ α) (inner : Workspace σ → List Event)
    (w : Workspace σ) : List Event :=
  .action s.opening ::
    match (s.opens : BuildM σ Scope) w with
    | .error _ _ => []
    | .ok handle w₁ =>
      inner w₁ ++
        match body w₁ with
        | .ok _ _ => [.action (.close handle)]
        | .error _ _ => []

/-- What is seen in the scope. -/
def within {β : Type} (s : Enclosure) (inner : Workspace σ → List β) (w : Workspace σ) : List β :=
  match (s.opens : BuildM σ Scope) w with
  | .error _ _ => []
  | .ok _ w₁ => inner w₁

theorem around_eq (s : Enclosure) (body : BuildM σ α) :
    s.around body = Builder.withScope (s.opens : BuildM σ Scope) body := by
  cases s <;> rfl

section Around

variable {s : Enclosure} {body : BuildM σ α} {w w' w₁ : Workspace σ} {handle : Scope}
  {e : BuildError}

variable (σ) in
theorem exists_opens_eq (s : Enclosure) :
    ∃ act : BuildM σ Scope, s.opens = BuildM.guarded s.operation act := by
  cases s with
  | module => exact ⟨_, Eq.refl Builder.openModule⟩
  | function => exact ⟨_, Eq.refl Builder.openFunction⟩
  | block kind => exact ⟨_, Eq.refl (Builder.openBlock kind)⟩

theorem next_opening (s : Enclosure) (w : Workspace σ) :
    w.next (.action s.opening) = BuildM.final s.opens w := by
  rw [w.next_eq_final]
  cases s with
  | module => exact BuildM.final_bind_pure Builder.openModule Reply.scope w
  | function => exact BuildM.final_bind_pure Builder.openFunction Reply.scope w
  | block kind => exact BuildM.final_bind_pure (Builder.openBlock kind) Reply.scope w

/-- The work in a scope is a run of operations if the work inside is one. -/
theorem final_around {inner : Workspace σ → List Event}
    (hinner : ∀ w, BuildM.final body w = w.after (inner w)) (w : Workspace σ) :
    BuildM.final (s.around body) w = w.after (s.events body inner w) := by
  have hopened := s.next_opening w
  rw [around_eq, events]
  cases hopen : (s.opens : BuildM σ Scope) w with
  | error e w₁ =>
      rw [BuildM.final_of_error hopen] at hopened
      rw [BuildM.final_of_error (Builder.withScope_eq_error_iff.mpr (.inl hopen))]
      exact hopened.symm
  | ok handle w₁ =>
      have hinside := hinner w₁
      rw [BuildM.final_of_ok hopen] at hopened
      cases hbody : body w₁ with
      | error e w₂ =>
          have hscope := Builder.withScope_eq_error_iff.mpr
            (.inr ⟨handle, w₁, hopen, .inl hbody⟩)
          rw [BuildM.final_of_error hbody] at hinside
          simp only [BuildM.final_of_error hscope, hinside, hbody, List.append_nil,
            Workspace.after, hopened]
      | ok a w₂ =>
          have hclosed : w₂.next (.action (.close handle)) = BuildM.final (Builder.close handle) w₂ :=
            (w₂.next_eq_final _).trans
              (BuildM.final_bind_pure (Builder.close handle) (fun _ => Reply.done) w₂)
          rw [BuildM.final_of_ok hbody] at hinside
          rw [Builder.final_withScope hopen hbody, ← hclosed, hinside]
          simp only [hbody, Workspace.after, Workspace.after_append, hopened]

theorem exists_of_mem_within {inner : Workspace σ → List β} {b : β} (h : b ∈ s.within inner w) :
    ∃ handle w₁, s.opens w = .ok handle w₁ ∧ b ∈ inner w₁ := by
  unfold within at h
  cases hopen : (s.opens : BuildM σ Scope) w with
  | error e w₁ => simp [hopen] at h
  | ok handle w₁ =>
      rw [hopen] at h
      exact ⟨handle, w₁, rfl, h⟩

/-- The events in the scope follow its opening. -/
theorem cons_prefix_events (s : Enclosure) (body : BuildM σ α) (inner : Workspace σ → List Event)
    (hopen : s.opens w = .ok handle w₁) {past : List Event} (hpast : past <+: inner w₁) :
    .action s.opening :: past <+: s.events body inner w := by
  rw [events, hopen]
  exact (List.prefix_cons_inj _).mpr (hpast.trans (List.prefix_append _ _))

/-- A failed session opens no scope, so the work meant for it does not begin. -/
theorem around_of_failed (s : Enclosure) (body : BuildM σ α) (h : w.builder.failed = true) :
    s.around body w = .error (.sessionFailed s.operation) w := by
  obtain ⟨act, hopens⟩ := s.exists_opens_eq σ
  rw [around_eq, hopens]
  exact Builder.withScope_eq_error_iff.mpr (.inl (BuildM.guarded_of_failed h))

/-- When the work in a scope ends in an error without ending the session, the error is one that the
computation inside returned. -/
theorem body_eq_error (h : s.around body w = .error e w') (hfailed : w'.builder.failed = false) :
    ∃ handle w₁, s.opens w = .ok handle w₁ ∧ body w₁ = .error e w' := by
  rw [around_eq] at h
  rcases Builder.withScope_eq_error_iff.mp h with hopen | ⟨handle, w₁, hopen, hbody | hclose⟩
  · obtain ⟨act, hopens⟩ := s.exists_opens_eq σ
    rw [hopens] at hopen
    simp [BuildM.failed_of_guarded hopen] at hfailed
  · exact ⟨handle, w₁, hopen, hbody⟩
  · obtain ⟨a, w₂, -, hclose⟩ := hclose
    simp [BuildM.failed_of_guarded hclose] at hfailed

end Around

end Enclosure

/-! ## Clients -/

/-- What a client does next. It ends with an outcome, which may be an error of its own making. -/
inductive Client (σ : Type) : Type → Type 1 where
  | done {α : Type} (outcome : Except BuildError α) : Client σ α
  /-- Looks at the builder. -/
  | look {α : Type} (next : Builder σ → Client σ α) : Client σ α
  /-- Goes on with what came of an operation, also after an error. -/
  | act {α : Type} (e : Event) (next : Except BuildError Reply → Client σ α) : Client σ α
  /-- Goes on with what came of the work in a scope. -/
  | enclose {α β : Type} (s : Enclosure) (body : Client σ β)
      (next : Except BuildError β → Client σ α) : Client σ α

namespace Client

variable [Emitter σ]

def run {α : Type} : Client σ α → BuildM σ α
  | done outcome => liftM outcome
  | look next => fun w => (next w.builder).run w
  | act e next => fun w => (next (BuildM.outcome e.run w)).run (BuildM.final e.run w)
  | enclose s body next => fun w =>
    (next (BuildM.outcome (s.around body.run) w)).run (BuildM.final (s.around body.run) w)

/-- Everything that a client does to the builder, in order. -/
def events {α : Type} : Client σ α → Workspace σ → List Event
  | done _, _ => []
  | look next, w => (next w.builder).events w
  | act e next, w => e :: (next (BuildM.outcome e.run w)).events (BuildM.final e.run w)
  | enclose s body next, w =>
    s.events body.run body.events w ++
      (next (BuildM.outcome (s.around body.run) w)).events (BuildM.final (s.around body.run) w)

/-- The builders that a client looks at, in order. -/
def sees {α : Type} : Client σ α → Workspace σ → List (Builder σ)
  | done _, _ => []
  | look next, w => w.builder :: (next w.builder).sees w
  | act e next, w => (next (BuildM.outcome e.run w)).sees (BuildM.final e.run w)
  | enclose s body next, w =>
    s.within body.sees w ++
      (next (BuildM.outcome (s.around body.run) w)).sees (BuildM.final (s.around body.run) w)

/-- All that a client does to the builder is a run of operations. -/
theorem final_run (c : Client σ α) (w : Workspace σ) :
    BuildM.final c.run w = w.after (c.events w) := by
  induction c generalizing w with
  | done outcome => cases outcome <;> rfl
  | look next ih => exact ih w.builder w
  | act e next ih =>
      rw [events, Workspace.after, w.next_eq_final e]
      exact ih _ _
  | enclose s body next ihbody ihnext =>
      rw [events, Workspace.after_append, ← s.final_around ihbody w]
      exact ihnext _ _

/-- What a client sees at any point, also in the scopes that it works in, is the builder after the
operations before that point. -/
theorem exists_prefix_of_mem_sees {c : Client σ α} {w : Workspace σ} {b : Builder σ}
    (h : b ∈ c.sees w) : ∃ past, past <+: c.events w ∧ b = (w.after past).builder := by
  induction c generalizing w with
  | done outcome => cases h
  | look next ih =>
      rcases List.mem_cons.mp h with rfl | h
      · exact ⟨[], List.nil_prefix, rfl⟩
      · exact ih w.builder h
  | act e next ih =>
      obtain ⟨past, hpast, rfl⟩ := ih _ h
      refine ⟨e :: past, (List.prefix_cons_inj e).mpr hpast, ?_⟩
      rw [Workspace.after, w.next_eq_final e]
  | enclose s body next ihbody ihnext =>
      rcases List.mem_append.mp h with h | h
      · obtain ⟨handle, w₁, hopen, h⟩ := s.exists_of_mem_within h
        obtain ⟨past, hpast, rfl⟩ := ihbody h
        have hinside := s.cons_prefix_events body.run body.events hopen hpast
        refine ⟨.action s.opening :: past, hinside.trans (List.prefix_append _ _), ?_⟩
        rw [Workspace.after, s.next_opening, BuildM.final_of_ok hopen]
      · obtain ⟨past, hpast, rfl⟩ := ihnext _ h
        refine ⟨s.events body.run body.events w ++ past, ?_, ?_⟩
        · exact (List.prefix_append_right_inj _).mpr hpast
        · rw [Workspace.after_append, ← s.final_around body.final_run w]

end Client

/-! ## The end of a session -/

/-- An error of an operation ends the session. An error of the work in a scope comes from a session that has
ended exactly if one of the operations in it ended the session: otherwise the error is one that the work
inside returned by itself, and nothing after that is done to the builder, so the scope stays open. -/
theorem error_ends_session_iff [Emitter σ] (w : Workspace σ) :
    (∀ (a : Action) (err : BuildError) (w' : Workspace σ), a.run w = .error err w' →
      (∀ e name, a ≠ .rename e name) → w'.builder.failed = true) ∧
    (∀ (β : Type) (s : Enclosure) (body : Client σ β) (err : BuildError) (w' : Workspace σ),
      s.around body.run w = .error err w' →
      (w'.builder.failed = true ↔
        w.builder.failed = true ∨ ∃ t ∈ w.steps (s.events body.run body.events w), t.Fails) ∧
      (w'.builder.failed = false →
        ∃ handle w₁, s.opens w = .ok handle w₁ ∧ body.run w₁ = .error err w')) ∧
    (w.builder.failed = true →
      (∀ (a : Action) (op : Operation), a.guard? = some op →
        a.run w = .error (.sessionFailed op) w) ∧
      ∀ (β : Type) (s : Enclosure) (body : BuildM σ β),
        s.around body w = .error (.sessionFailed s.operation) w) := by
  refine ⟨?_, ?_, ?_⟩
  · intro a err w' h hrename
    cases hguard : a.guard? with
    | some op => exact a.failed_of_run hguard h
    | none =>
        obtain ⟨⟨e, name, ha⟩, -⟩ := Workspace.rename_of_unguarded_error hguard h
        exact absurd ha (hrename e name)
  · intro β s body err w' h
    have hrun : w' = w.after (s.events body.run body.events w) := by
      rw [← s.final_around body.final_run w, BuildM.final_of_error h]
    refine ⟨?_, fun hfailed => s.body_eq_error h hfailed⟩
    rw [hrun]
    exact Workspace.failed_after_iff _
  · intro hfailed
    exact ⟨fun a op hguard => a.run_of_failed hguard hfailed,
      fun β s body => s.around_of_failed body hfailed⟩

/-- Work that only ends the session of its thread, where none has begun. -/
def endingNoSession : Client BlockWriter Unit :=
  .done (((.idle : Session (Builder BlockWriter)).finish).map fun _ => ())

/-- The error is returned, and the builder goes on with the module open. -/
theorem module_left_open_by_error :
    ∃ w', Enclosure.module.around endingNoSession.run (Workspace.new {} ⟨0⟩) =
        .error (.noActiveBuilder .endSession) w' ∧
      w'.builder.failed = false ∧ w'.builder.depth = 1 ∧
      ∃ handle w'', Builder.openFunction w' = .ok handle w'' :=
  ⟨_, rfl, rfl, rfl, _, _, rfl⟩

/-- What a client does, and what it sees at any point, is a run of operations up to that point. At each point
the session has failed exactly if an operation before it failed or dropped open frames. From then on it stays
failed: guarded operations are refused, work in a scope does not begin, and of the frames and the result the
operations change only what dropping the frames and taking the result of an empty stack does. The failure
does not keep a client from writing into a block that is still on the stack. -/
theorem failure_is_final [Emitter σ] (config : Config) (newEmitter : Config → σ)
    (supply : VarSupply) (c : Client σ α) :
    let w : Workspace σ := ⟨.new config newEmitter, supply⟩
    BuildM.final c.run w = w.after (c.events w) ∧
    (∀ b ∈ c.sees w, ∃ past, past <+: c.events w ∧ b = (w.after past).builder) ∧
    ∀ past, past <+: c.events w →
      let u := w.after past
      (u.builder.failed = true ↔ ∃ s ∈ w.steps past, s.Fails) ∧
      (u.builder.failed = true → ∀ later : List Event,
        let v := u.after later
        v.builder.failed = true ∧
        v.contents = later.foldl (fun left e => e.remains left) u.contents ∧
        (∀ (a : Action) (op : Operation), a.guard? = some op →
          a.run v = .error (.sessionFailed op) v) ∧
        (∀ (β : Type) (s : Enclosure) (body : BuildM σ β),
          s.around body v = .error (.sessionFailed s.operation) v) ∧
        ∃ v', Builder.abort v =
            .ok (if later.any Event.drops then 0 else u.builder.depth) v' ∧
          v'.contents = ([], v.builder.result)) := by
  intro w
  refine ⟨c.final_run w, fun _ => Client.exists_prefix_of_mem_sees, ?_⟩
  intro past _ u
  have hstart : ¬ w.builder.failed = true := nofun
  refine ⟨(Workspace.failed_after_iff past).trans (or_iff_right hstart), ?_⟩
  intro hfailed later v
  have hv : v.builder.failed = true := (Workspace.failed_after_iff later).mpr (.inl hfailed)
  have hleft := Workspace.contents_after hfailed later
  have hkinds : v.builder.frames.map Frame.kind =
      if later.any Event.drops then [] else u.builder.frames.map Frame.kind :=
    (congrArg (·.1.map Frame.kind) hleft).trans (Event.map_kind_foldl_remains later u.contents)
  have hdepth : v.builder.depth = if later.any Event.drops then 0 else u.builder.depth := by
    have hlength := congrArg List.length hkinds
    rw [List.length_map] at hlength
    exact hlength.trans (by split <;> simp [Builder.depth])
  refine ⟨hv, hleft, fun a op hguard => a.run_of_failed hguard hv,
    fun β s body => s.around_of_failed body hv, ?_⟩
  refine ⟨_, Builder.abort_eq_ok.mpr ⟨hdepth.symm, rfl⟩, ?_⟩
  · cases hv' : v.builder.frames <;> simp [Workspace.contents, hv']

/-- Work in a module that names a function although none is open, and goes on after the error. -/
def namingNothing : Client BlockWriter Unit :=
  .enclose .module (.act (.action (.setName "f")) fun _ => .done (.ok ())) fun _ => .done (.ok ())

/-- The session fails in the module, whose frame stays until it is dropped. -/
theorem failure_is_final_in_module :
    let past : List Event := [.action .openModule, .action (.setName "f")]
    let u := (Workspace.new {} ⟨0⟩).after past
    past <+: namingNothing.events (Workspace.new {} ⟨0⟩) ∧ u.builder.failed = true ∧
      ∀ later : List Event,
        (u.after later).contents = later.foldl (fun left e => e.remains left) u.contents := by
  intro past u
  have hpast : past <+: namingNothing.events (Workspace.new {} ⟨0⟩) := ⟨[.action (.close _)], rfl⟩
  have hfailed : u.builder.failed = true := rfl
  have h := (failure_is_final {} BlockWriter.ofConfig ⟨0⟩ namingNothing).2.2 past hpast
  exact ⟨hpast, hfailed, fun later => (h.2 hfailed later).2.1⟩

end ScopedBuilder
