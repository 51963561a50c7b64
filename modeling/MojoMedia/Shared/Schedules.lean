import Mathlib.Tactic.Common

set_option autoImplicit false

universe u v w

structure Schedule (State : Type u) (Time : Type v) (Out : Type w) where
  next : State → Option (Time × State × List Out)
  left : State → Nat
  fewer : ∀ {state time after out}, next state = some (time, after, out) → left after < left state

namespace Schedule

variable {State : Type u} {Time : Type v} {Out : Type w} [LE Time] [DecidableLE Time]

def due (schedule : Schedule State Time Out) (now : Time) (state : State) :
    Option (State × List Out) :=
  match schedule.next state with
  | none => none
  | some (time, step) => if time ≤ now then some step else none

variable {schedule : Schedule State Time Out} {now : Time}

theorem due_some {state : State} {step : State × List Out} :
    schedule.due now state = some step ↔ ∃ time, schedule.next state = some (time, step) ∧
      time ≤ now := by
  unfold due
  cases schedule.next state with
  | none => simp
  | some found => simp [and_assoc, and_comm, Prod.ext_iff]

theorem due_fewer {state : State} {step : State × List Out}
    (taken : schedule.due now state = some step) :
    schedule.left step.1 < schedule.left state := by
  obtain ⟨time, found, -⟩ := due_some.mp taken
  exact schedule.fewer found

theorem due_later [Std.IsPreorder Time] {earlier : Time} (order : earlier ≤ now) {state : State}
    {step : State × List Out} (taken : schedule.due earlier state = some step) :
    schedule.due now state = some step := by
  obtain ⟨time, found, passed⟩ := due_some.mp taken
  exact due_some.mpr ⟨time, found, Std.IsPreorder.le_trans _ _ _ passed order⟩

def advance (schedule : Schedule State Time Out) (now : Time) (state : State) :
    State × List Out :=
  match _taken : schedule.due now state with
  | none => (state, [])
  | some step =>
    let (final, later) := schedule.advance now step.1
    (final, step.2 ++ later)
termination_by schedule.left state
decreasing_by exact due_fewer _taken

theorem advance_none {state : State} (idle : schedule.due now state = none) :
    schedule.advance now state = (state, []) := by
  rw [advance]
  split
  next => rfl
  next step taken => simp [idle] at taken

theorem advance_some {state : State} {step : State × List Out}
    (taken : schedule.due now state = some step) :
    schedule.advance now state = ((schedule.advance now step.1).1,
      step.2 ++ (schedule.advance now step.1).2) := by
  rw [advance]
  split
  next idle => simp [taken] at idle
  next found same =>
    obtain rfl : found = step := by simpa [taken] using same.symm
    rfl

theorem advance_induction (schedule : Schedule State Time Out) (now : Time)
    {motive : State → Prop} (idle : ∀ state, schedule.due now state = none → motive state)
    (step : ∀ state step, schedule.due now state = some step → motive step.1 → motive state)
    (state : State) : motive state :=
  match taken : schedule.due now state with
  | none => idle state taken
  | some next => step state next taken (advance_induction schedule now idle step next.1)
termination_by schedule.left state
decreasing_by exact due_fewer taken

theorem advance_advance [Std.IsPreorder Time] {earlier : Time} (order : earlier ≤ now)
    (state : State) :
    schedule.advance now state =
      ((schedule.advance now (schedule.advance earlier state).1).1,
        (schedule.advance earlier state).2 ++
          (schedule.advance now (schedule.advance earlier state).1).2) := by
  induction state using advance_induction schedule earlier with
  | idle state idle => rw [advance_none idle, List.nil_append]
  | step state step taken ih =>
    rw [advance_some (due_later order taken), ih, advance_some taken, List.append_assoc]

end Schedule
