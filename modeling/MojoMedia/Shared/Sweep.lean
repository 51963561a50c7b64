import Mathlib.Data.Int.Basic
import Mathlib.Tactic.Common
import Mathlib.Tactic.Linarith
import Mathlib.Tactic.Ring

set_option autoImplicit false

namespace Sweep

variable {Out : Type}

structure Cursor (Out : Type) where
  out : Out
  frame : Nat
  position : Int

def Cursor.advance (write : Nat → Int → Out → Out) (step : Int) (cursor : Cursor Out) :
    Cursor Out :=
  ⟨write cursor.frame cursor.position cursor.out, cursor.frame + 1, cursor.position + step⟩

def sweep (write : Nat → Int → Out → Out) (step : Int) (frames : Nat) (limit : Int)
    (cursor : Cursor Out) : Cursor Out :=
  if cursor.frame < frames ∧ cursor.position ≤ limit then
    sweep write step frames limit (cursor.advance write step)
  else cursor
termination_by frames - cursor.frame
decreasing_by simp only [Cursor.advance]; omega

section Sweep

variable (write : Nat → Int → Out → Out) (step : Int)

theorem sweep_next (frames : Nat) (limit : Int) (cursor : Cursor Out)
    (room : cursor.frame < frames) (inside : cursor.position ≤ limit) :
    sweep write step frames limit cursor =
      sweep write step frames limit (cursor.advance write step) := by
  rw [sweep, if_pos ⟨room, inside⟩]

theorem sweep_done (frames : Nat) (limit : Int) (cursor : Cursor Out)
    (done : frames ≤ cursor.frame ∨ limit < cursor.position) :
    sweep write step frames limit cursor = cursor := by
  rw [sweep, if_neg (by omega)]

theorem sweep_stops (frames : Nat) (limit : Int) (cursor : Cursor Out) :
    frames ≤ (sweep write step frames limit cursor).frame ∨
      limit < (sweep write step frames limit cursor).position := by
  fun_induction sweep write step frames limit cursor with
  | case1 cursor inside ih => exact ih
  | case2 cursor outside => omega

theorem sweep_frame_le (frames : Nat) (limit : Int) (cursor : Cursor Out)
    (start : cursor.frame ≤ frames) : (sweep write step frames limit cursor).frame ≤ frames := by
  fun_induction sweep write step frames limit cursor with
  | case1 cursor inside ih => exact ih inside.1
  | case2 cursor outside => exact start

theorem le_sweep_frame (frames : Nat) (limit : Int) (cursor : Cursor Out) :
    cursor.frame ≤ (sweep write step frames limit cursor).frame := by
  fun_induction sweep write step frames limit cursor with
  | case1 cursor inside ih =>
    have moved : (cursor.advance write step).frame = cursor.frame + 1 := rfl
    omega
  | case2 cursor outside => exact Nat.le_refl _

theorem le_sweep_position (frames : Nat) (limit : Int) (cursor : Cursor Out)
    (forwards : 0 ≤ step) :
    cursor.position ≤ (sweep write step frames limit cursor).position := by
  fun_induction sweep write step frames limit cursor with
  | case1 cursor inside ih =>
    have moved : (cursor.advance write step).position = cursor.position + step := rfl
    omega
  | case2 cursor outside => exact Int.le_refl _

theorem sweep_absorb (frames more : Nat) (limit further : Int) (cursor : Cursor Out)
    (room : frames ≤ more) (longer : limit ≤ further) :
    sweep write step more further (sweep write step frames limit cursor) =
      sweep write step more further cursor := by
  fun_induction sweep write step frames limit cursor with
  | case1 cursor inside ih =>
    rw [ih, ← sweep_next write step more further cursor (by omega) (by omega)]
  | case2 cursor outside => rfl

theorem sweep_congr {other : Nat → Int → Out → Out} (frames : Nat) (limit : Int)
    (cursor : Cursor Out) (forwards : 0 ≤ step)
    (same : ∀ frame position, cursor.position ≤ position → position ≤ limit →
      write frame position = other frame position) :
    sweep write step frames limit cursor = sweep other step frames limit cursor := by
  fun_induction sweep write step frames limit cursor with
  | case1 cursor inside ih =>
    have here : cursor.advance write step = cursor.advance other step := by
      simp only [Cursor.advance, same cursor.frame cursor.position (Int.le_refl _) inside.2]
    rw [sweep_next other step frames limit cursor inside.1 inside.2, ← here]
    refine ih fun frame position later => same frame position ?_
    simp only [Cursor.advance] at later
    omega
  | case2 cursor outside => rw [sweep_done other step frames limit cursor (by omega)]

theorem sweep_shift (frames frameOrigin : Nat) (limit origin : Int) (cursor : Cursor Out) :
    sweep write step (frames + frameOrigin) (limit + origin)
        ⟨cursor.out, cursor.frame + frameOrigin, cursor.position + origin⟩ =
      let moved := sweep (fun frame position => write (frame + frameOrigin) (position + origin))
        step frames limit cursor
      ⟨moved.out, moved.frame + frameOrigin, moved.position + origin⟩ := by
  fun_induction sweep (fun frame position => write (frame + frameOrigin) (position + origin))
      step frames limit cursor with
  | case1 cursor inside ih =>
    rw [sweep_next write step _ _ _ (by simp only; omega) (by simp only; omega)]
    have moved : (⟨cursor.out, cursor.frame + frameOrigin, cursor.position + origin⟩ :
        Cursor Out).advance write step =
        let next := cursor.advance
          (fun frame position => write (frame + frameOrigin) (position + origin)) step
        ⟨next.out, next.frame + frameOrigin, next.position + origin⟩ := by
      simp only [Cursor.advance, Cursor.mk.injEq]
      refine ⟨trivial, by omega, by omega⟩
    rw [moved]
    exact ih
  | case2 cursor outside =>
    rw [sweep_done write step _ _ _ (by simp only; omega)]

end Sweep

def Bounded (step : Int) (frames : Nat) (limit bound : Int) (frame : Nat) (position : Int) :
    Prop :=
  ∀ count : Nat, frame + count < frames → position + count * step ≤ limit →
    position + (count + 1) * step < bound

theorem Bounded.advance {step : Int} {frames : Nat} {limit bound : Int} {frame : Nat}
    {position : Int} (bounded : Bounded step frames limit bound frame position) :
    Bounded step frames limit bound (frame + 1) (position + step) := by
  intro count room inside
  have later := bounded (count + 1) (by omega) (by push_cast; linarith)
  push_cast at later
  linarith

theorem Bounded.first {step : Int} {frames : Nat} {limit bound : Int} {frame : Nat}
    {position : Int} (bounded : Bounded step frames limit bound frame position)
    (room : frame < frames) (inside : position ≤ limit) : position + step < bound := by
  have here := bounded 0 (by omega) (by push_cast; linarith)
  push_cast at here
  linarith

theorem Bounded.mono {step : Int} {frames fewer : Nat} {limit shorter bound : Int} {frame : Nat}
    {position : Int} (bounded : Bounded step frames limit bound frame position)
    (room : fewer ≤ frames) (inside : shorter ≤ limit) :
    Bounded step fewer shorter bound frame position :=
  fun count few short => bounded count (by omega) (by omega)

theorem bounded_sweep (write : Nat → Int → Out → Out) (step : Int) (frames more : Nat)
    (limit further bound : Int) (cursor : Cursor Out)
    (bounded : Bounded step more further bound cursor.frame cursor.position)
    (start : cursor.position < bound) (room : frames ≤ more) (longer : limit ≤ further) :
    (sweep write step frames limit cursor).position < bound ∧
      Bounded step more further bound (sweep write step frames limit cursor).frame
        (sweep write step frames limit cursor).position := by
  fun_induction sweep write step frames limit cursor with
  | case1 cursor inside ih =>
    exact ih bounded.advance (bounded.first (by omega) (by omega))
  | case2 cursor outside => exact ⟨start, bounded⟩

def count (step frames : Nat) (limit : Int) (frame : Nat) (position : Int) : Nat :=
  min ((limit - position + step).toNat / step) (frames - frame)

theorem lt_count_iff (step frames : Nat) (limit : Int) (frame : Nat) (position : Int) (index : Nat)
    (forwards : 0 < step) :
    index < count step frames limit frame position ↔
      frame + index < frames ∧ position + index * step ≤ limit := by
  have inside : index < (limit - position + step).toNat / step ↔
      position + index * step ≤ limit := by
    rw [← Nat.succ_le_iff, Nat.le_div_iff_mul_le forwards, Nat.succ_mul]
    push_cast [← Int.ofNat_le]
    have product : 0 ≤ (index : Int) * step :=
      Int.mul_nonneg (Int.natCast_nonneg _) (Int.natCast_nonneg _)
    omega
  rw [count, Nat.lt_min, inside]
  omega

theorem count_eq (step frames : Nat) (limit : Int) (frame : Nat) (position : Int) (passed : Nat)
    (forwards : 0 < step)
    (held : ∀ index < passed, frame + index < frames ∧ position + index * step ≤ limit)
    (stopped : frames ≤ frame + passed ∨ limit < position + passed * step) :
    count step frames limit frame position = passed := by
  apply Nat.le_antisymm
  · by_contra further
    have next := (lt_count_iff step frames limit frame position passed forwards).mp (by omega)
    omega
  · by_contra fewer
    have inside := held (count step frames limit frame position) (by omega)
    exact absurd ((lt_count_iff step frames limit frame position _ forwards).mpr inside)
      (Nat.lt_irrefl _)

theorem count_done (step frames : Nat) (limit : Int) (frame : Nat) (position : Int)
    (forwards : 0 < step) (done : frames ≤ frame ∨ limit < position) :
    count step frames limit frame position = 0 :=
  count_eq step frames limit frame position 0 forwards (by simp) (by simpa using done)

theorem sweep_count (step : Nat) (frames : Nat) (limit : Int) (cursor : Cursor Out)
    (forwards : 0 < step) :
    let passed := count step frames limit cursor.frame cursor.position
    sweep (fun _ _ out => out) step frames limit cursor =
      ⟨cursor.out, cursor.frame + passed, cursor.position + passed * step⟩ := by
  intro passed
  fun_induction sweep (fun _ _ out => out) (step : Int) frames limit cursor with
  | case1 cursor inside ih =>
    obtain ⟨room, inLimit⟩ := inside
    obtain ⟨ahead, rest⟩ := Int.eq_ofNat_of_zero_le (show 0 ≤ limit - cursor.position by omega)
    have here : (limit - cursor.position + step).toNat / step = ahead / step + 1 := by
      rw [show (limit - cursor.position + step).toNat = ahead + step by omega]
      exact Nat.add_div_right ahead forwards
    have there : (limit - (cursor.position + step) + step).toNat / step = ahead / step := by
      rw [show (limit - (cursor.position + step) + step).toNat = ahead by omega]
    rw [ih]
    have fewer : passed = min (ahead / step) (frames - (cursor.frame + 1)) + 1 := by
      simp only [passed, count, here]
      omega
    simp only [Cursor.advance, count, there, fewer, Cursor.mk.injEq]
    refine ⟨trivial, by omega, ?_⟩
    push_cast
    ring
  | case2 cursor outside =>
    have none : passed = 0 := count_done _ _ _ _ _ forwards (by omega)
    simp [none]

theorem sweep_moves {Other : Type} (write : Nat → Int → Out → Out)
    (other : Nat → Int → Other → Other) (step : Int) (frames : Nat) (limit : Int)
    (cursor : Cursor Out) (beside : Cursor Other) (frame : cursor.frame = beside.frame)
    (position : cursor.position = beside.position) :
    (sweep write step frames limit cursor).frame = (sweep other step frames limit beside).frame ∧
      (sweep write step frames limit cursor).position =
        (sweep other step frames limit beside).position := by
  fun_induction sweep write step frames limit cursor generalizing beside with
  | case1 cursor inside ih =>
    rw [frame, position] at inside
    rw [sweep_next other step frames limit beside inside.1 inside.2]
    exact ih (beside.advance other step) (congrArg (· + 1) frame) (congrArg (· + step) position)
  | case2 cursor outside =>
    rw [frame, position] at outside
    rw [sweep_done other step frames limit beside (by omega)]
    exact ⟨frame, position⟩

theorem sweep_end (write : Nat → Int → Out → Out) (step frames : Nat) (limit : Int)
    (cursor : Cursor Out) (forwards : 0 < step) :
    (sweep write step frames limit cursor).frame =
        cursor.frame + count step frames limit cursor.frame cursor.position ∧
      (sweep write step frames limit cursor).position =
        cursor.position + count step frames limit cursor.frame cursor.position * step := by
  obtain ⟨frame, position⟩ := sweep_moves write (fun _ _ out => out) step frames limit cursor cursor
    rfl rfl
  have counted := sweep_count step frames limit cursor forwards
  rw [frame, position, counted]
  exact ⟨rfl, rfl⟩

end Sweep
