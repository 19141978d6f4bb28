import Mathlib.Data.List.Induction
import ScopedBuilder.Session

/-!
# The session of a thread

A host begins, ends and enters the session of its thread in any order, and the closures that work on the
builder may try the same again, to any depth. No builder is lost or mixed up with another one: what the end
of a session hands back is the builder it began with, after the closures that were let in.
-/

namespace ScopedBuilder

/-! ## Hosts -/

/-- What a host does next. It has builders to give away, and a memory that its closures share. -/
inductive Host (β ε : Type) : Type → Type 1 where
  | done {α : Type} (a : α) : Host β ε α
  /-- Works on its memory. -/
  | step {α γ : Type} (f : ε → γ × ε) (next : γ → Host β ε α) : Host β ε α
  | start {α : Type} (builder : β) (next : Except BuildError Unit → Host β ε α) : Host β ε α
  | finish {α : Type} (next : Except BuildError β → Host β ε α) : Host β ε α
  /-- Asks whether a session is active. -/
  | ask {α : Type} (next : Bool → Host β ε α) : Host β ε α
  /-- Runs a closure on the current builder, and goes on also after an error. -/
  | use {α γ : Type} (body : β → Host β ε (Except BuildError γ × β))
      (next : Except BuildError γ → Host β ε α) : Host β ε α

/-- Something that happens to the session of a thread. -/
inductive SessionEvent (β : Type) : Type 1 where
  | started (builder : β)
  | finished (builder : β)
  | refused (op : Operation) (e : BuildError)
  | asked (answer : Bool)
  /-- A closure is let in. -/
  | entered (builder : β)
  /-- A closure returns: what it does to a builder, and its outcome. -/
  | left {γ : Type} (closure : β → Except BuildError γ × β) (outcome : Except BuildError γ)

namespace Host

variable {β ε : Type}

def run {α : Type} : Host β ε α → StateT (Session β) (StateM ε) α
  | done a => pure a
  | step f next => do (next (← modifyGetThe ε f)).run
  | start builder next => do
    match (← get).start builder with
    | .ok session =>
      set session
      (next (.ok ())).run
    | .error e => (next (.error e)).run
  | finish next => do
    match (← get).finish with
    | .ok (builder, session) =>
      set session
      (next (.ok builder)).run
    | .error e => (next (.error e)).run
  | ask next => do (next (← get).isActive).run
  | use body next => do
    (next (← Session.withCurrent fun builder => (body builder).run)).run

/-- What a host does by itself, when every call is answered that the builder is in use. -/
def alone {α : Type} : Host β ε α → StateM ε α
  | done a => pure a
  | step f next => do (next (← modifyGet f)).alone
  | start _ next => (next (.error (.builderInUse .beginSession))).alone
  | finish next => (next (.error (.builderInUse .endSession))).alone
  | ask next => (next false).alone
  | use _ next => (next (.error (.builderInUse .useSession))).alone

/-- Everything that happens to the session, in order. -/
def log {α : Type} : Host β ε α → Session β → ε → List (SessionEvent β)
  | done _, _, _ => []
  | step f next, session, env => (next (f env).1).log session (f env).2
  | start builder next, session, env =>
    match session.start builder with
    | .ok session => .started builder :: (next (.ok ())).log session env
    | .error e => .refused .beginSession e :: (next (.error e)).log session env
  | finish next, session, env =>
    match session.finish with
    | .ok (builder, session) => .finished builder :: (next (.ok builder)).log session env
    | .error e => .refused .endSession e :: (next (.error e)).log session env
  | ask next, session, env => .asked session.isActive :: (next session.isActive).log session env
  | use body next, session, env =>
    let ((outcome, session'), env') :=
      (Session.withCurrent fun builder => (body builder).run : StateT _ _ _) session env
    let inside :=
      match session.borrow with
      | .error e => [.refused .useSession e]
      | .ok builder =>
        .entered builder :: (body builder).log .borrowed env ++
          [.left (fun builder => ((body builder).alone env).1) outcome]
    inside ++ (next outcome).log session' env'

/-! ### One step of a run -/

section Equations

variable {α γ : Type} (session : Session β) (env : ε)

theorem run_start (builder : β) (next : Except BuildError Unit → Host β ε α) :
    (start builder next).run session env =
      match session.start builder with
      | .ok session => (next (.ok ())).run session env
      | .error e => (next (.error e)).run session env := by
  rw [run]
  cases session <;> rfl

theorem run_finish (next : Except BuildError β → Host β ε α) :
    (finish next).run session env =
      match session.finish with
      | .ok (builder, session) => (next (.ok builder)).run session env
      | .error e => (next (.error e)).run session env := by
  rw [run]
  cases session <;> rfl

theorem run_use (body : β → Host β ε (Except BuildError γ × β))
    (next : Except BuildError γ → Host β ε α) :
    (use body next).run session env =
      let ((outcome, session'), env') :=
        (Session.withCurrent fun builder => (body builder).run : StateT _ _ _) session env
      (next outcome).run session' env' := by
  rw [run]
  rfl

end Equations

end Host

/-! ## What the events say -/

namespace SessionEvent

variable {β : Type}

/-- Whether a closure is at work after an event. -/
def enters : SessionEvent β → Bool → Bool
  | entered _, _ => true
  | left .., _ => false
  | _, inside => inside

/-- What a closure that returns has done to the builder. -/
def effect? : SessionEvent β → Option (β → β)
  | left closure _ => some fun builder => (closure builder).2
  | _ => none

/-- The builder of the session after an event. -/
def hold (e : SessionEvent β) (held : Option β) : Option β :=
  match e with
  | started builder => some builder
  | finished _ => none
  | e =>
    match e.effect? with
    | some f => held.map f
    | none => held

/-- Whether a session begins or ends. -/
def bounds : SessionEvent β → Bool
  | started _ | finished _ => true
  | _ => false

end SessionEvent

section Past

variable {β : Type}

/-- Whether a closure is at work after some events. -/
def inside (past : List (SessionEvent β)) : Bool := past.foldl (fun inside e => e.enters inside) false

/-- The builder of the session after some events, by the closures that have returned. -/
def holding (past : List (SessionEvent β)) : Option β := past.foldl (fun held e => e.hold held) none

/-- What may happen after some events. While a closure is at work, all calls are refused as the builder is in
use. Otherwise a session begins if none is open, and ends or lets a closure in if one is. -/
def SessionEvent.Fits (past : List (SessionEvent β)) : SessionEvent β → Prop
  | started _ => inside past = false ∧ holding past = none
  | finished builder | entered builder => inside past = false ∧ holding past = some builder
  | refused op e =>
    if inside past then op ∈ [.beginSession, .endSession, .useSession] ∧ e = .builderInUse op
    else
      match holding past with
      | none => op ∈ [.endSession, .useSession] ∧ e = .noActiveBuilder op
      | some _ => op = .beginSession ∧ e = .builderAlreadyActive op
  | asked answer => answer = (!inside past && (holding past).isSome)
  | left closure outcome =>
    inside past = true ∧ ∃ builder, holding past = some builder ∧ outcome = (closure builder).1

/-- Each event fits the events before it. -/
def Fitting (past : List (SessionEvent β)) : List (SessionEvent β) → Prop
  | [] => True
  | e :: later => e.Fits past ∧ Fitting (past ++ [e]) later

variable {past later events : List (SessionEvent β)} {e : SessionEvent β}

@[simp] theorem inside_append_singleton (past : List (SessionEvent β)) (e : SessionEvent β) :
    inside (past ++ [e]) = e.enters (inside past) := by
  simp [inside]

@[simp] theorem holding_append_singleton (past : List (SessionEvent β)) (e : SessionEvent β) :
    holding (past ++ [e]) = e.hold (holding past) := by
  simp [holding]

theorem fitting_append :
    Fitting past (events ++ later) ↔ Fitting past events ∧ Fitting (past ++ events) later := by
  induction events generalizing past with
  | nil => simp [Fitting]
  | cons e events ih => simp [Fitting, ih, and_assoc]

theorem Fitting.fits (h : Fitting past (events ++ e :: later)) : e.Fits (past ++ events) :=
  (fitting_append.mp h).2.1

theorem SessionEvent.hold_of_bounds (h : e.bounds = false) (held : Option β) :
    e.hold held = held.map fun builder => e.effect?.toList.foldl (fun b f => f b) builder := by
  cases e with
  | started | finished => cases h
  | refused | asked | entered | left => cases held <;> rfl

/-- The builder that is held is the one that was given last, after the closures since then. -/
theorem exists_started_of_holding {builder : β} (h : holding past = some builder) :
    ∃ earlier given since, past = earlier ++ .started given :: since ∧
      (∀ e ∈ since, e.bounds = false) ∧
      builder = (since.filterMap SessionEvent.effect?).foldl (fun b f => f b) given := by
  induction past using List.reverseRecOn generalizing builder with
  | nil => cases h
  | append_singleton past e ih =>
      rw [holding_append_singleton] at h
      cases hbounds : e.bounds with
      | true =>
          cases e with
          | started given =>
              cases h
              exact ⟨past, _, [], rfl, by simp, rfl⟩
          | finished => cases h
          | refused | asked | entered | left => cases hbounds
      | false =>
          rw [SessionEvent.hold_of_bounds hbounds, Option.map_eq_some_iff] at h
          obtain ⟨held, hheld, rfl⟩ := h
          obtain ⟨earlier, given, since, rfl, hsince, rfl⟩ := ih hheld
          refine ⟨earlier, given, since ++ [e], by simp, ?_, ?_⟩
          · simpa [or_imp, forall_and] using ⟨hsince, hbounds⟩
          · cases heffect : e.effect? <;> simp [heffect]

end Past

/-! ## While a closure is at work -/

/-- A call that is refused as the builder is in use, or a question that is answered with no. -/
inductive SessionEvent.Barred {β : Type} : SessionEvent β → Prop where
  | refused {op : Operation} : op ∈ [.beginSession, .endSession, .useSession] →
      Barred (.refused op (.builderInUse op))
  | asked : Barred (.asked false)

theorem SessionEvent.Barred.eq {β : Type} {e : SessionEvent β} (h : e.Barred) (within : Bool)
    (held : Option β) : e.enters within = within ∧ e.hold held = held := by
  cases h <;> exact ⟨rfl, rfl⟩

/-- What is barred fits while a closure is at work, and changes nothing. -/
theorem fitting_of_barred {β : Type} {past events : List (SessionEvent β)} (hinside : inside past = true)
    (h : ∀ e ∈ events, e.Barred) :
    Fitting past events ∧ inside (past ++ events) = true ∧ holding (past ++ events) = holding past := by
  induction events generalizing past with
  | nil => simpa [Fitting] using hinside
  | cons e events ih =>
      obtain ⟨he, hevents⟩ := List.forall_mem_cons.mp h
      obtain ⟨henters, hhold⟩ := he.eq (inside past) (holding past)
      have hnext : inside (past ++ [e]) = true := by
        rw [inside_append_singleton, henters, hinside]
      obtain ⟨hfit, hlast, hheld⟩ := ih hnext hevents
      rw [holding_append_singleton, hhold] at hheld
      rw [List.append_assoc, List.singleton_append] at hlast hheld
      refine ⟨⟨?_, hfit⟩, hlast, hheld⟩
      cases he with
      | refused hop => simpa [SessionEvent.Fits, hinside] using hop
      | asked => simp [SessionEvent.Fits, hinside]

namespace Host

variable {β ε α : Type}

/-- Nothing that a closure tries reaches the session. -/
theorem run_borrowed (c : Host β ε α) (env : ε) :
    c.run .borrowed env = (((c.alone env).1, .borrowed), (c.alone env).2) := by
  induction c generalizing env with
  | done a => rfl
  | step f next ih => exact ih (f env).1 (f env).2
  | start builder next ih =>
      rw [run_start]
      exact ih (.error (.builderInUse .beginSession)) env
  | finish next ih =>
      rw [run_finish]
      exact ih (.error (.builderInUse .endSession)) env
  | ask next ih => exact ih false env
  | use body next _ ih =>
      rw [run_use]
      exact ih (.error (.builderInUse .useSession)) env

theorem log_borrowed (c : Host β ε α) (env : ε) : ∀ e ∈ c.log .borrowed env, e.Barred := by
  induction c generalizing env with
  | done a => simp [log]
  | step f next ih => exact ih (f env).1 (f env).2
  | start builder next ih =>
      rw [log]
      exact List.forall_mem_cons.mpr
        ⟨.refused (by simp), ih (.error (.builderInUse .beginSession)) env⟩
  | finish next ih =>
      rw [log]
      exact List.forall_mem_cons.mpr
        ⟨.refused (by simp), ih (.error (.builderInUse .endSession)) env⟩
  | ask next ih => exact List.forall_mem_cons.mpr ⟨.asked, ih false env⟩
  | use body next _ ih =>
      rw [log]
      exact List.forall_mem_cons.mpr
        ⟨.refused (by simp), ih (.error (.builderInUse .useSession)) env⟩

end Host

/-! ## Runs -/

/-- A session that no closure is working on, with the builder that the events say. -/
structure Session.Agrees {β : Type} (past : List (SessionEvent β)) (session : Session β) : Prop where
  outside : inside past = false
  holds : session = match holding past with
    | none => idle
    | some builder => active builder

namespace Session.Agrees

variable {β : Type} {past : List (SessionEvent β)} {session session' : Session β} {builder : β}

theorem idle_iff : Agrees past idle ↔ inside past = false ∧ holding past = none := by
  constructor
  · rintro ⟨houtside, hholds⟩
    cases hheld : holding past with
    | none => exact ⟨houtside, rfl⟩
    | some held => simp [hheld] at hholds
  · rintro ⟨houtside, hheld⟩
    exact ⟨houtside, by rw [hheld]⟩

theorem active_iff :
    Agrees past (active builder) ↔ inside past = false ∧ holding past = some builder := by
  constructor
  · rintro ⟨houtside, hholds⟩
    cases hheld : holding past with
    | none => simp [hheld] at hholds
    | some held =>
        rw [hheld] at hholds
        cases hholds
        exact ⟨houtside, rfl⟩
  · rintro ⟨houtside, hheld⟩
    exact ⟨houtside, by rw [hheld]⟩

theorem not_borrowed : ¬ Agrees past (borrowed : Session β) := by
  rintro ⟨-, hholds⟩
  cases hheld : holding past <;> simp [hheld] at hholds

/-- An event that leaves the builder and the borrow alone. -/
theorem keep {e : SessionEvent β} (h : Agrees past session)
    (henters : e.enters (inside past) = inside past) (hhold : e.hold (holding past) = holding past) :
    Agrees (past ++ [e]) session := by
  rw [← holding_append_singleton] at hhold
  rw [← inside_append_singleton] at henters
  exact ⟨henters.trans h.outside, hhold ▸ h.holds⟩

theorem start (h : Agrees past session) (builder : β) :
    match session.start builder with
    | .ok session' =>
      (SessionEvent.started builder).Fits past ∧ Agrees (past ++ [.started builder]) session'
    | .error e =>
      (SessionEvent.refused .beginSession e).Fits past ∧
        Agrees (past ++ [.refused .beginSession e]) session := by
  cases session with
  | idle =>
      obtain ⟨houtside, hheld⟩ := idle_iff.mp h
      refine ⟨⟨houtside, hheld⟩, active_iff.mpr ⟨?_, ?_⟩⟩
      · rw [inside_append_singleton]
        exact houtside
      · rw [holding_append_singleton]
        rfl
  | active held =>
      obtain ⟨houtside, hheld⟩ := active_iff.mp h
      exact ⟨by simp [SessionEvent.Fits, houtside, hheld], h.keep rfl rfl⟩
  | borrowed => exact absurd h not_borrowed

theorem finish (h : Agrees past session) :
    match session.finish with
    | .ok (builder, session') =>
      (SessionEvent.finished builder).Fits past ∧ Agrees (past ++ [.finished builder]) session'
    | .error e =>
      (SessionEvent.refused .endSession e).Fits past ∧
        Agrees (past ++ [.refused .endSession e]) session := by
  cases session with
  | idle =>
      obtain ⟨houtside, hheld⟩ := idle_iff.mp h
      exact ⟨by simp [SessionEvent.Fits, houtside, hheld], h.keep rfl rfl⟩
  | active held =>
      obtain ⟨houtside, hheld⟩ := active_iff.mp h
      refine ⟨⟨houtside, hheld⟩, idle_iff.mpr ⟨?_, ?_⟩⟩
      · rw [inside_append_singleton]
        exact houtside
      · rw [holding_append_singleton]
        rfl
  | borrowed => exact absurd h not_borrowed

theorem ask (h : Agrees past session) :
    (SessionEvent.asked session.isActive).Fits past ∧
      Agrees (past ++ [.asked session.isActive]) session := by
  refine ⟨?_, h.keep rfl rfl⟩
  rw [SessionEvent.Fits, h.outside, h.holds]
  cases holding past <;> rfl

/-- A closure is let in, and returns after events that are barred. -/
theorem use {γ : Type} {events : List (SessionEvent β)} (h : Agrees past (active builder))
    (hevents : ∀ e ∈ events, e.Barred) (closure : β → Except BuildError γ × β) :
    Fitting past (.entered builder :: events ++ [.left closure (closure builder).1]) ∧
      Agrees (past ++ (.entered builder :: events ++ [.left closure (closure builder).1]))
        (active (closure builder).2) := by
  obtain ⟨houtside, hheld⟩ := active_iff.mp h
  have hentered : inside (past ++ [.entered builder]) = true := by
    rw [inside_append_singleton]
    rfl
  obtain ⟨hfitting, hinside, hkept⟩ := fitting_of_barred hentered hevents
  rw [holding_append_singleton] at hkept
  have hkept : holding (past ++ [.entered builder] ++ events) = some builder := hkept.trans hheld
  have hassoc : past ++ (.entered builder :: events ++ [.left closure (closure builder).1]) =
      past ++ [.entered builder] ++ events ++ [.left closure (closure builder).1] := by simp
  refine ⟨fitting_append.mpr ⟨⟨⟨houtside, hheld⟩, hfitting⟩, ?_, trivial⟩, ?_⟩
  · rw [← List.singleton_append, ← List.append_assoc]
    exact ⟨hinside, builder, hkept, rfl⟩
  · rw [hassoc, active_iff, inside_append_singleton, holding_append_singleton, hkept]
    exact ⟨rfl, rfl⟩

end Session.Agrees

/-- Events that fit the past and each other, and the session that they leave. -/
structure Session.Follows {β : Type} (past events : List (SessionEvent β)) (session : Session β) :
    Prop where
  fitting : Fitting past events
  agrees : session.Agrees (past ++ events)

namespace Session.Follows

variable {β : Type} {past events later : List (SessionEvent β)} {session : Session β}
  {e : SessionEvent β}

theorem nil (h : session.Agrees past) : Follows past [] session :=
  ⟨trivial, (List.append_nil past).symm ▸ h⟩

theorem append (hevents : Fitting past events) (h : Follows (past ++ events) later session) :
    Follows past (events ++ later) session :=
  ⟨fitting_append.mpr ⟨hevents, h.fitting⟩, List.append_assoc past events later ▸ h.agrees⟩

theorem cons (he : e.Fits past) (h : Follows (past ++ [e]) later session) :
    Follows past (e :: later) session := by
  have hfirst : Fitting past [e] := ⟨he, trivial⟩
  exact append hfirst h

end Session.Follows

namespace Host

variable {β ε α : Type} {past : List (SessionEvent β)}

/-- A closure that is let in does to the builder what it does by itself. -/
theorem withCurrent_active {γ : Type} (body : β → Host β ε (Except BuildError γ × β)) (builder : β)
    (env : ε) :
    (Session.withCurrent fun b => (body b).run : StateT (Session β) (StateM ε) _)
        (.active builder) env =
      ((((body builder).alone env).1.1, .active ((body builder).alone env).1.2),
        ((body builder).alone env).2) := by
  have hrun := (body builder).run_borrowed env
  have h : (Session.withCurrent fun b => (body b).run : StateT (Session β) (StateM ε) _)
      (.active builder) env =
        let ((out, _), env') := (body builder).run .borrowed env
        ((out.1, .active out.2), env') := rfl
  rw [h, hrun]

/-- Outside of closures each event fits those before it, and the session holds what the events say. -/
theorem follows_log (c : Host β ε α) (env : ε) {session : Session β} (h : session.Agrees past) :
    Session.Follows past (c.log session env) (c.run session env).1.2 := by
  induction c generalizing env past session with
  | done a => exact .nil h
  | step f next ih => exact ih (f env).1 (f env).2 h
  | start builder next ih =>
      have hstart := h.start builder
      rw [run_start, log]
      cases hsession : session.start builder with
      | ok session' =>
          rw [hsession] at hstart
          exact .cons hstart.1 (ih (.ok ()) env hstart.2)
      | error e =>
          rw [hsession] at hstart
          exact .cons hstart.1 (ih (.error e) env hstart.2)
  | finish next ih =>
      have hfinish := h.finish
      rw [run_finish, log]
      cases hsession : session.finish with
      | ok ended =>
          rw [hsession] at hfinish
          exact .cons hfinish.1 (ih (.ok ended.1) env hfinish.2)
      | error e =>
          rw [hsession] at hfinish
          exact .cons hfinish.1 (ih (.error e) env hfinish.2)
  | ask next ih => exact .cons h.ask.1 (ih session.isActive env h.ask.2)
  | use body next _ ih =>
      rw [run_use, log]
      cases session with
      | idle =>
          obtain ⟨houtside, hheld⟩ := Session.Agrees.idle_iff.mp h
          refine .cons ?_ (ih (.error (.noActiveBuilder .useSession)) env (h.keep rfl rfl))
          simp [SessionEvent.Fits, houtside, hheld]
      | active builder =>
          rw [withCurrent_active]
          obtain ⟨hclosure, hagrees⟩ := h.use ((body builder).log_borrowed env)
            fun builder => ((body builder).alone env).1
          exact .append hclosure (ih ((body builder).alone env).1.1 ((body builder).alone env).2 hagrees)
      | borrowed => exact absurd h Session.Agrees.not_borrowed

end Host

/-- Whatever a host does with the session of its thread, from closures too: everything that happens fits what
happened before. While a closure is at work all calls are refused as the builder is in use. Otherwise a
session begins exactly if none is open, and ends or lets a closure in exactly if one is, and what is handed
over is the builder of that session. The builder that an end hands back was given when the session began,
and went through the closures let in since then, in order and whatever their outcome. -/
theorem session_keeps_builder {β ε α : Type} (c : Host β ε α) (env : ε) :
    let log := c.log .idle env
    (∀ past e later, log = past ++ e :: later → e.Fits past) ∧
      (∀ past builder later, log = past ++ .finished builder :: later →
        ∃ earlier given since, past = earlier ++ .started given :: since ∧
          (∀ e ∈ since, e.bounds = false) ∧
          builder = (since.filterMap SessionEvent.effect?).foldl (fun b f => f b) given) ∧
      Session.Agrees log (c.run .idle env).1.2 := by
  intro log
  have hstart : Session.Agrees [] (.idle : Session β) := ⟨rfl, rfl⟩
  obtain ⟨hfitting, hagrees⟩ := c.follows_log env hstart
  have hfits : ∀ past e later, log = past ++ e :: later → e.Fits past := by
    intro past e later hlog
    have h : Fitting [] (past ++ e :: later) := hlog ▸ hfitting
    exact h.fits
  refine ⟨hfits, ?_, hagrees⟩
  intro past builder later hlog
  exact exists_started_of_holding (hfits past _ later hlog).2

/-- A host that begins a session, is refused another one, lets in a closure that tries to begin one itself
and ends in an error, and ends the session. -/
def failingInSession : Host (List Nat) Unit (Except BuildError (List Nat)) :=
  .start [1] fun _ => .start [2] fun _ =>
    .use (fun builder => .start [3] fun begun => .done (begun, builder ++ [4])) fun _ =>
      .finish .done

/-- The builder comes back as the closure left it. -/
theorem session_keeps_builder_failing :
    let refusal : BuildError := .builderInUse .beginSession
    let past : List (SessionEvent (List Nat)) :=
      [.started [1], .refused .beginSession (.builderAlreadyActive .beginSession), .entered [1],
        .refused .beginSession refusal,
        .left (fun builder => ((.error refusal : Except BuildError Unit), builder ++ [4]))
          (.error refusal)]
    failingInSession.log .idle () = past ++ [.finished [1, 4]] ∧
      ∃ earlier given since, past = earlier ++ .started given :: since ∧
        (∀ e ∈ since, e.bounds = false) ∧
        [1, 4] = (since.filterMap SessionEvent.effect?).foldl (fun b f => f b) given := by
  intro refusal past
  have hlog : failingInSession.log .idle () = past ++ [.finished [1, 4]] := by
    simp only [failingInSession, Host.log, Session.start, Session.borrow, Host.withCurrent_active,
      Host.alone, Session.finish]
    rfl
  exact ⟨hlog, (session_keeps_builder failingInSession ()).2.1 past [1, 4] [] hlog⟩

end ScopedBuilder
