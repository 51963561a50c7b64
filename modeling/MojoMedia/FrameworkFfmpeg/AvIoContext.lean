import MojoMedia.Shared.MachineInt
import MojoMedia.Shared.Runs
import MojoMedia.Framework.ReaderCache

set_option autoImplicit false

-- ffmpeg makes one call at a time. What the reader answers to `ReadAt` comes with the call, and a
-- `CHECK` that does not hold ends the process.
namespace MojoMedia

open MachineInt Runs

def averrorEio : Int := -5

inductive Whence where
  | seekSet
  | seekCur
  | seekEnd
  | avseekSize
  | unrecognized (value : Int)
  deriving Repr, DecidableEq

structure AvIoContextOpaque where
  size : Int
  position : Int := 0
  deriving Repr, DecidableEq

namespace AvIoContextOpaque

def create (size : Nat) : AvIoContextOpaque :=
  { size := if size = kUnknownSize then -1 else s64 size }

structure Outcome where
  context : AvIoContextOpaque
  returned : Int
  readAt : Option (Nat × Nat) := none
  deriving Repr, DecidableEq

def read (context : AvIoContextOpaque) (bytesToRead : Nat) (result : Result)
    (bytesRead : Nat) : Outcome :=
  if context.size ≤ context.position then { context, returned := 0 }
  else
    let readAt := some ((context.position % 2 ^ 64).toNat, bytesToRead)
    if result ≠ .ok then { context, returned := averrorEio, readAt }
    else
      { context := { context with position := s64 (context.position + bytesRead) }
        returned := s32 bytesRead
        readAt }

def place (context : AvIoContextOpaque) (position : Int) : Option Outcome :=
  let placed := { context with position := s64 position }
  if placed.size = -1 ∨ placed.position < placed.size then
    some { context := placed, returned := placed.position }
  else none

def seek (context : AvIoContextOpaque) (offset : Int) : Whence → Option Outcome
  | .seekSet => context.place offset
  | .seekCur => context.place (context.position + offset)
  | .seekEnd =>
    if context.size = -1 then some { context, returned := averrorEio }
    else context.place (context.size + offset)
  | .avseekSize =>
    if context.size = -1 then some { context, returned := averrorEio }
    else some { context, returned := context.size }
  | .unrecognized _ => some { context, returned := averrorEio }

inductive Call where
  | read (bytesToRead : Nat) (result : Result) (bytesRead : Nat)
  | seek (offset : Int) (whence : Whence)
  deriving Repr, DecidableEq

def outcome (context : AvIoContextOpaque) : Call → Option Outcome
  | .read bytesToRead result bytesRead => some (context.read bytesToRead result bytesRead)
  | .seek offset whence => context.seek offset whence

def step (context : AvIoContextOpaque) (call : Call) : Option AvIoContextOpaque :=
  (context.outcome call).map Outcome.context

structure Asset where
  length : Nat
  known : Bool
  fits : length < kUnknownSize

def Asset.size (asset : Asset) : Nat :=
  if asset.known then asset.length else kUnknownSize

def target (asset : Asset) (context : AvIoContextOpaque) (offset : Int) : Whence → Option Int
  | .seekSet => some offset
  | .seekCur => some (context.position + offset)
  | .seekEnd => if asset.known then some (asset.length + offset) else none
  | .avseekSize => none
  | .unrecognized _ => none

def InRange (asset : Asset) (position : Int) : Prop :=
  0 ≤ position ∧ if asset.known then position ≤ asset.length else position < 2 ^ 63

instance (asset : Asset) (position : Int) : Decidable (InRange asset position) :=
  inferInstanceAs (Decidable (_ ∧ _))

def Contract (asset : Asset) (context : AvIoContextOpaque) : Call → Prop
  | .read bytesToRead result bytesRead =>
    0 < bytesToRead ∧ bytesToRead < 2 ^ 31 ∧
      (result = .ok → if context.position < asset.length
        then 0 < bytesRead ∧ bytesRead ≤ bytesToRead ∧
          context.position + bytesRead ≤ asset.length
        else bytesRead = 0)
  | .seek offset _ => -2 ^ 63 ≤ offset ∧ offset < 2 ^ 63

def Honoured (asset : Asset) (context : AvIoContextOpaque) (call : Call) : Prop :=
  ∃ outcome, context.outcome call = some outcome ∧ 0 ≤ outcome.context.position ∧
    match call with
    | .read bytesToRead _ _ =>
      (outcome.returned = 0 → (asset.length : Int) ≤ context.position) ∧
        outcome.context.position = context.position + max 0 outcome.returned ∧
        outcome.readAt.all fun asked => (asked.1 : Int) = context.position ∧ asked.2 = bytesToRead
    | .seek offset whence =>
      match target asset context offset whence with
      | none => outcome.context.position = context.position
      | some position =>
        if InRange asset position then
          outcome.returned = position ∧ outcome.context.position = position
        else outcome.returned < 0 ∧ outcome.context.position = context.position

-- Seeks stop short of the end, and reads are made where the size is known or nothing is left.
def Inside (asset : Asset) (context : AvIoContextOpaque) : Call → Prop
  | .read _ _ _ => asset.known ∧ asset.length < 2 ^ 63 ∨ (asset.length : Int) ≤ context.position
  | .seek offset whence => ∀ position ∈ target asset context offset whence,
      0 ≤ position ∧ position < 2 ^ 63 ∧
        (asset.known → asset.length < 2 ^ 63 ∧ position < asset.length)

instance (asset : Asset) (context : AvIoContextOpaque) : DecidablePred (Contract asset context)
  | .read _ _ _ => inferInstanceAs (Decidable (_ ∧ _ ∧ (_ → _)))
  | .seek _ _ => inferInstanceAs (Decidable (_ ∧ _))

instance (asset : Asset) (context : AvIoContextOpaque) : DecidablePred (Inside asset context)
  | .read _ _ _ => inferInstanceAs (Decidable (_ ∨ _))
  | .seek _ _ => inferInstanceAs (Decidable (∀ position ∈ target _ _ _ _, _ ∧ _ ∧ (_ → _)))

structure Inv (asset : Asset) (context : AvIoContextOpaque) : Prop where
  size : context.size = (create asset.size).size
  nonneg : 0 ≤ context.position
  small : context.position < 2 ^ 63

variable {asset : Asset} {context next : AvIoContextOpaque}

theorem Inv.size_known (inv : Inv asset context) (known : asset.known = true) :
    context.size = s64 asset.length ∧ s64 asset.length ≠ -1 := by
  have fits := asset.fits
  refine ⟨?_, ?_⟩
  · rw [inv.size, create, Asset.size, if_pos known, if_neg (by omega)]
  · obtain ⟨turns, wraps⟩ := s64_congr asset.length
    simp only [kUnknownSize] at fits
    omega

theorem Inv.size_unknown (inv : Inv asset context) (unknown : asset.known = false) :
    context.size = -1 := by
  simp [inv.size, create, Asset.size, unknown]

theorem place_congr (left right : Int) (same : s64 left = s64 right) :
    context.place left = context.place right := by
  simp only [place, same]

theorem Inv.seek_eq_place (inv : Inv asset context) {offset position : Int} {whence : Whence}
    (wanted : target asset context offset whence = some position) :
    context.seek offset whence = context.place position := by
  cases whence with
  | seekSet =>
    obtain rfl := Option.some.inj wanted
    rfl
  | seekCur =>
    obtain rfl := Option.some.inj wanted
    rfl
  | seekEnd =>
    simp only [target, Option.ite_none_right_eq_some] at wanted
    obtain ⟨known, same⟩ := wanted
    obtain ⟨sized, notUnknown⟩ := inv.size_known known
    obtain rfl := Option.some.inj same
    rw [seek, if_neg (by rwa [sized]), sized]
    apply place_congr
    simp only [s64, Int.bmod_add_bmod]
  | avseekSize => cases wanted
  | unrecognized value => cases wanted

theorem Inv.seek_still (inv : Inv asset context) {offset : Int} {whence : Whence}
    (unwanted : target asset context offset whence = none) :
    ∃ returned, context.seek offset whence = some { context, returned } := by
  cases whence with
  | seekSet => cases unwanted
  | seekCur => cases unwanted
  | seekEnd =>
    have unknown : asset.known = false := by simpa [target] using unwanted
    exact ⟨averrorEio, by rw [seek, if_pos (inv.size_unknown unknown)]⟩
  | avseekSize =>
    rw [seek]
    split
    next => exact ⟨_, rfl⟩
    next => exact ⟨_, rfl⟩
  | unrecognized value => exact ⟨averrorEio, rfl⟩

theorem place_eq_some {position : Int} {outcome : Outcome} :
    context.place position = some outcome ↔
      (context.size = -1 ∨ s64 position < context.size) ∧
        outcome = { context := { context with position := s64 position }
                    returned := s64 position } := by
  simp only [place, Option.ite_none_right_eq_some, Option.some.injEq, @eq_comm _ outcome]

theorem Inv.place_cases (inv : Inv asset context) {position : Int} (lower : -2 ^ 63 ≤ position)
    (upper : (asset.known = true → asset.length < 2 ^ 63) → position < 2 ^ 64) :
    (∃ outcome, context.place position = some outcome ∧ 0 ≤ outcome.context.position) ↔
      0 ≤ position ∧ position < 2 ^ 63 ∧
        (asset.known → asset.length < 2 ^ 63 ∧ position < asset.length) := by
  simp only [place_eq_some]
  have range := s64_range position
  obtain ⟨turns, wraps⟩ := s64_congr position
  constructor
  · rintro ⟨outcome, ⟨checked, rfl⟩, nonneg⟩
    simp only at nonneg
    cases known : asset.known with
    | false =>
      have small := upper (by simp [known])
      refine ⟨by omega, by omega, nofun⟩
    | true =>
      obtain ⟨sized, notUnknown⟩ := inv.size_known known
      rw [sized] at checked
      have below := checked.resolve_left notUnknown
      have short : asset.length < 2 ^ 63 := by
        by_contra long
        obtain ⟨sizeTurns, sizeWraps⟩ := s64_congr asset.length
        have sizeRange := s64_range asset.length
        have fits := asset.fits
        simp only [kUnknownSize] at fits
        omega
      have exactly := s64_of_lt asset.length (by omega) (by omega)
      have small := upper fun _ => short
      refine ⟨by omega, by omega, fun _ => ⟨short, by omega⟩⟩
  · rintro ⟨nonneg, small, before⟩
    have exactly := s64_of_lt position lower small
    refine ⟨_, ⟨?_, rfl⟩, by simp only [exactly]; exact nonneg⟩
    cases known : asset.known with
    | false => exact .inl (inv.size_unknown known)
    | true =>
      obtain ⟨short, less⟩ := before known
      rw [(inv.size_known known).1, s64_of_lt asset.length (by omega) (by omega), exactly]
      exact .inr less

theorem target_bounds (inv : Inv asset context) {offset position : Int} {whence : Whence}
    (lower : -2 ^ 63 ≤ offset) (upper : offset < 2 ^ 63)
    (wanted : target asset context offset whence = some position) :
    -2 ^ 63 ≤ position ∧
      ((asset.known = true → asset.length < 2 ^ 63) → position < 2 ^ 64) := by
  have nonneg := inv.nonneg
  have small := inv.small
  cases whence with
  | seekSet =>
    obtain rfl := Option.some.inj wanted
    omega
  | seekCur =>
    obtain rfl := Option.some.inj wanted
    omega
  | seekEnd =>
    simp only [target, Option.ite_none_right_eq_some] at wanted
    obtain ⟨known, same⟩ := wanted
    obtain rfl := Option.some.inj same
    refine ⟨by omega, fun short => ?_⟩
    have := short known
    omega
  | avseekSize => cases wanted
  | unrecognized value => cases wanted

theorem Inv.seek_honoured_iff (inv : Inv asset context) {offset : Int} {whence : Whence}
    (lower : -2 ^ 63 ≤ offset) (upper : offset < 2 ^ 63) :
    Honoured asset context (.seek offset whence) ↔ Inside asset context (.seek offset whence) := by
  cases wanted : target asset context offset whence with
  | none =>
    obtain ⟨returned, still⟩ := inv.seek_still wanted
    have honoured : Honoured asset context (.seek offset whence) := by
      refine ⟨{ context, returned }, still, inv.nonneg, ?_⟩
      simp only [wanted]
    simp only [honoured, Inside, wanted, true_iff]
    exact nofun
  | some position =>
    obtain ⟨above, below⟩ := target_bounds inv lower upper wanted
    have taken := inv.place_cases above below
    have inside : Inside asset context (.seek offset whence) ↔
        ∃ outcome, context.place position = some outcome ∧ 0 ≤ outcome.context.position := by
      simp only [Inside, wanted, Option.mem_some_iff, forall_eq']
      exact taken.symm
    rw [inside]
    constructor
    · rintro ⟨outcome, sought, nonneg, -⟩
      exact ⟨outcome, (inv.seek_eq_place wanted).symm.trans sought, nonneg⟩
    · rintro ⟨outcome, placed, nonneg⟩
      obtain ⟨start, small, before⟩ := taken.mp ⟨outcome, placed, nonneg⟩
      refine ⟨outcome, (inv.seek_eq_place wanted).trans placed, nonneg, ?_⟩
      have inRange : InRange asset position := by
        refine ⟨start, ?_⟩
        split
        next known => exact Int.le_of_lt (before known).2
        next => exact small
      obtain ⟨-, rfl⟩ := place_eq_some.mp placed
      have exactly := s64_of_lt position above small
      simp only [wanted, if_pos inRange, exactly]
      trivial

theorem Inv.read_honoured_iff (inv : Inv asset context) {bytesToRead bytesRead : Nat}
    {result : Result} (contract : Contract asset context (.read bytesToRead result bytesRead)) :
    Honoured asset context (.read bytesToRead result bytesRead) ↔
      Inside asset context (.read bytesToRead result bytesRead) := by
  obtain ⟨positive, narrow, promised⟩ := contract
  have nonneg := inv.nonneg
  have small := inv.small
  by_cases finished : context.size ≤ context.position
  · have nothing : context.read bytesToRead result bytesRead = { context, returned := 0 } :=
      if_pos finished
    have honoured : Honoured asset context (.read bytesToRead result bytesRead) ↔
        (asset.length : Int) ≤ context.position := by
      simp [Honoured, outcome, nothing, nonneg]
    rw [honoured, Inside, or_iff_right_of_imp]
    rintro ⟨known, short⟩
    rw [(inv.size_known known).1, s64_of_lt asset.length (by omega) (by omega)] at finished
    exact finished
  · have known : asset.known = true := by
      by_contra unknown
      have noSize := inv.size_unknown (by simpa using unknown)
      omega
    have sized := (inv.size_known known).1
    have short : asset.length < 2 ^ 63 := by
      by_contra long
      obtain ⟨turns, wraps⟩ := s64_congr asset.length
      have range := s64_range asset.length
      have fits := asset.fits
      simp only [kUnknownSize] at fits
      omega
    rw [s64_of_lt asset.length (by omega) (by omega)] at sized
    have before : context.position < asset.length := by omega
    have asked : ((context.position % 2 ^ 64).toNat : Int) = context.position := by omega
    refine iff_of_true ?_ (.inl ⟨known, short⟩)
    refine ⟨_, rfl, ?_⟩
    rw [read, if_neg finished]
    by_cases failed : result = .ok
    · obtain ⟨some, few, inside⟩ := by simpa [before] using promised failed
      have further := s64_of_lt (context.position + bytesRead) (by omega) (by omega)
      have count := s32_of_lt bytesRead (by omega) (by omega)
      simp only [failed, ne_eq, not_true_eq_false, if_false, further, count, Option.all_some, asked]
      refine ⟨by omega, by omega, by omega, by simp⟩
    · simp only [ne_eq, failed, not_false_eq_true, if_true, averrorEio, Option.all_some, asked]
      refine ⟨nonneg, by omega, by omega, by simp⟩

theorem Inv.honoured_iff (inv : Inv asset context) {call : Call}
    (contract : Contract asset context call) :
    Honoured asset context call ↔ Inside asset context call := by
  cases call with
  | read bytesToRead result bytesRead => exact inv.read_honoured_iff contract
  | seek offset whence => exact inv.seek_honoured_iff contract.1 contract.2

theorem place_small {position : Int} {outcome : Outcome}
    (placed : context.place position = some outcome) :
    outcome.context.size = context.size ∧ outcome.context.position < 2 ^ 63 := by
  obtain ⟨-, rfl⟩ := place_eq_some.mp placed
  exact ⟨rfl, (s64_range position).2⟩

theorem read_small (small : context.position < 2 ^ 63) (bytesToRead bytesRead : Nat)
    (result : Result) :
    (context.read bytesToRead result bytesRead).context.size = context.size ∧
      (context.read bytesToRead result bytesRead).context.position < 2 ^ 63 := by
  rw [read]
  split
  next => exact ⟨rfl, small⟩
  next =>
    simp only
    split
    next => exact ⟨rfl, small⟩
    next => exact ⟨rfl, (s64_range _).2⟩

theorem Inv.step (inv : Inv asset context) {call : Call} (honoured : Honoured asset context call)
    (taken : AvIoContextOpaque.step context call = some next) : Inv asset next := by
  obtain ⟨outcome, done, nonneg, -⟩ := honoured
  obtain rfl : outcome.context = next := by simpa [AvIoContextOpaque.step, done] using taken
  cases call with
  | read bytesToRead result bytesRead =>
    obtain rfl := Option.some.inj done
    obtain ⟨size, small⟩ := read_small inv.small bytesToRead bytesRead result
    exact ⟨size.trans inv.size, nonneg, small⟩
  | seek offset whence =>
    cases wanted : target asset context offset whence with
    | none =>
      obtain ⟨returned, still⟩ := inv.seek_still wanted
      obtain rfl := Option.some.inj (still.symm.trans done)
      exact inv
    | some position =>
      obtain ⟨size, small⟩ := place_small ((inv.seek_eq_place wanted).symm.trans done)
      exact ⟨size.trans inv.size, nonneg, small⟩

theorem inv_create (asset : Asset) : Inv asset (create asset.size) :=
  ⟨rfl, Int.le_refl 0, by simp [create]⟩

-- Each call of a run does what a file cursor does exactly if each seek stops short of the end, and
-- each read either has a known size or nothing to read.
theorem file_cursor_iff_inside (asset : Asset) (calls : List Call)
    (contract : Meets step (Contract asset) (create asset.size) calls) :
    Meets step (Honoured asset) (create asset.size) calls ↔
      Meets step (Inside asset) (create asset.size) calls := by
  have same := meets_congr step
    (fun context call => Contract asset context call ∧ Honoured asset context call)
    (fun context call => Contract asset context call ∧ Inside asset context call) (Inv asset)
    (fun context call inv => and_congr_right fun promised => inv.honoured_iff promised)
    (fun context call next inv ⟨promised, inside⟩ taken =>
      inv.step ((inv.honoured_iff promised).mpr inside) taken)
    (create asset.size) calls (inv_create asset)
  simpa only [meets_and, contract, true_and] using same

theorem middle_read_honoured :
    Meets step (Honoured ⟨10, true, by decide⟩) (create 10)
      [.seek 4 .seekSet, .read 3 .ok 3, .seek (-2) .seekCur, .seek (-1) .seekEnd] :=
  (file_cursor_iff_inside ⟨10, true, by decide⟩ _ (by decide)).mpr (by decide)

-- A seek to the end aborts, a negative position is taken over, and without a known size nothing can
-- be read.
theorem end_aborts_and_unknown_size_unreadable :
    (step (create 10) (.seek 10 .seekSet) = none ∧
        ¬ Honoured ⟨10, true, by decide⟩ (create 10) (.seek 10 .seekSet)) ∧
      (step (create 10) (.seek (-3) .seekSet) = some { size := 10, position := -3 } ∧
        ¬ Honoured ⟨10, true, by decide⟩ (create 10) (.seek (-3) .seekSet)) ∧
      ((create kUnknownSize).read 1 .ok 1).returned = 0 ∧
        ¬ Honoured ⟨1, false, by decide⟩ (create kUnknownSize) (.read 1 .ok 1) := by
  have outside (asset : Asset) (call : Call) (contract : Contract asset (create asset.size) call)
      (outside : ¬ Inside asset (create asset.size) call) :
      ¬ Honoured asset (create asset.size) call := by
    rwa [(inv_create asset).honoured_iff contract]
  refine ⟨⟨by decide, ?_⟩, ⟨by decide, ?_⟩, by decide, ?_⟩
  · exact outside ⟨10, true, by decide⟩ (.seek 10 .seekSet) (by decide) (by decide)
  · exact outside ⟨10, true, by decide⟩ (.seek (-3) .seekSet) (by decide) (by decide)
  · exact outside ⟨1, false, by decide⟩ (.read 1 .ok 1) (by decide) (by decide)

end AvIoContextOpaque

end MojoMedia
