import ScopedBuilder.Proofs.ThreadSession

/-!
# Whether a session is active

A host may ask at any point whether a session is active on its thread. Outside of closures the answer tells
whether a session is open, by the last call that began or ended one. A closure is at work only while a session
is open, but is told that none is active.
-/

namespace ScopedBuilder

variable {β : Type} {past : List (SessionEvent β)}

/-! ## The last beginning or end -/

/-- The last event that began or ended a session. -/
def lastBound? (past : List (SessionEvent β)) : Option (SessionEvent β) :=
  (past.filter SessionEvent.bounds).getLast?

/-- A session was begun, and not ended since. -/
def Begun (past : List (SessionEvent β)) : Prop :=
  ∃ builder, lastBound? past = some (.started builder)

theorem lastBound?_concat_of_bounds {e : SessionEvent β} (h : e.bounds = true) :
    lastBound? (past ++ [e]) = some e := by
  simp [lastBound?, h]

theorem lastBound?_concat_of_not_bounds {e : SessionEvent β} (h : e.bounds = false) :
    lastBound? (past ++ [e]) = lastBound? past := by
  simp [lastBound?, h]

/-- There is a builder in the session exactly if the session was begun and not ended since. -/
theorem holding_isSome_iff : (holding past).isSome = true ↔ Begun past := by
  induction past using List.reverseRecOn with
  | nil =>
      simp [holding, Begun, lastBound?]
  | append_singleton past e ih =>
      rw [holding_append_singleton]
      by_cases hbounds : e.bounds = true
      · rw [Begun, lastBound?_concat_of_bounds hbounds]
        cases e with
        | started builder => exact iff_of_true rfl ⟨builder, rfl⟩
        | finished builder => simp [SessionEvent.hold]
        | refused | asked | entered | left => cases hbounds
      · have hquiet : e.bounds = false := Bool.eq_false_iff.mpr hbounds
        rw [SessionEvent.hold_of_bounds hquiet, Option.isSome_map, ih, Begun, Begun,
          lastBound?_concat_of_not_bounds hquiet]

/-! ## Closures at work -/

/-- A closure is at work only while a session is open. -/
theorem begun_of_inside (hfitting : Fitting [] past) (hinside : inside past = true) : Begun past := by
  induction past using List.reverseRecOn with
  | nil => cases hinside
  | append_singleton past e ih =>
      obtain ⟨hpast, hfits, -⟩ := fitting_append.mp hfitting
      rw [List.nil_append] at hfits
      rw [inside_append_singleton] at hinside
      by_cases hbefore : inside past = true
      · have hbegun := ih hpast hbefore
        cases e with
        | started | finished =>
            -- No session begins or ends while a closure is at work.
            cases hfits.1.symm.trans hbefore
        | left => cases hinside
        | refused | asked | entered =>
            rw [Begun, lastBound?_concat_of_not_bounds rfl]
            exact hbegun
      · cases e with
        | entered builder =>
            have hheld : (holding past).isSome = true := by rw [hfits.2]; rfl
            rw [Begun, lastBound?_concat_of_not_bounds rfl]
            exact holding_isSome_iff.mp hheld
        | left => cases hinside
        | started | finished | refused | asked => exact absurd hinside hbefore

/-! ## The answers -/

/-- Whenever a host asks, from a closure or not: it is told that a session is active exactly if one was begun
and not ended since, and no closure is at work. Closures work only while a session is open, so everywhere else
the answer tells whether one is, and inside of them it is no in spite of the open session. -/
theorem active_answer_iff {ε α : Type} (c : Host β ε α) (env : ε) (past later : List (SessionEvent β))
    (answer : Bool) :
    c.log .idle env = past ++ .asked answer :: later →
      (answer = true ↔ Begun past ∧ inside past = false) ∧ (inside past = true → Begun past) := by
  intro hlog
  have hstart : Session.Agrees [] (.idle : Session β) := ⟨rfl, rfl⟩
  have hfitting : Fitting [] (c.log .idle env) := (c.follows_log env hstart).fitting
  rw [hlog] at hfitting
  have hanswer : answer = (!inside past && (holding past).isSome) := hfitting.fits
  refine ⟨?_, begun_of_inside (fitting_append.mp hfitting).1⟩
  rw [hanswer, Bool.and_eq_true, Bool.not_eq_true', holding_isSome_iff]
  exact and_comm

/-- A host that asks in its session, both outside of a closure and in one. -/
def askingInSession : Host Nat Unit (Except BuildError Nat) :=
  .start 7 fun _ => .ask fun _ =>
    .use (fun builder => .ask fun answer => .done (.ok answer, builder)) fun _ => .finish .done

theorem log_askingInSession :
    askingInSession.log .idle () =
      [.started 7, .asked true, .entered 7, .asked false,
        .left (fun builder => (.ok false, builder)) (.ok false), .finished 7] := by
  simp only [askingInSession, Host.log, Session.start, Session.borrow, Host.withCurrent_active,
    Host.alone, Session.finish]
  rfl

/-- Before it enters a closure, the host is told of the session that it has begun. -/
theorem active_answer_iff_outside :
    askingInSession.log .idle () = [.started 7] ++ .asked true ::
        [.entered 7, .asked false, .left (fun builder => (.ok false, builder)) (.ok false),
          .finished 7] ∧
      Begun [SessionEvent.started 7] ∧ inside [SessionEvent.started 7] = false :=
  ⟨log_askingInSession,
    (active_answer_iff askingInSession () [.started 7] _ true log_askingInSession).1.mp rfl⟩

/-- A closure is told that no session is active, although the session that it works in has not ended. -/
theorem inactive_in_closure :
    ∃ past later, askingInSession.log .idle () = past ++ .asked false :: later ∧ Begun past :=
  ⟨[.started 7, .asked true, .entered 7], _, log_askingInSession, 7, rfl⟩

end ScopedBuilder
