import MojoMedia.Shared.Runs
import MojoMedia.Shared.Histories
import MojoMedia.FrameworkFfmpeg.FfmpegDemux

set_option autoImplicit false

-- A turn of the worker's loop is several steps, and calls of `Seek` and `RequestPacket` come
-- between any two of them. The callback of a seek is known by the number of the seek.
namespace MojoMedia

open Runs Histories Framework

namespace FfmpegDemuxImpl

-- What the worker does next, with the locals of its loop that it still needs. It has failed when
-- it has called an empty callback, or has pulled no packet.
inductive Worker where
  | waiting
  | seeking (packetRequested : Bool) (seekPosition : Int) (seekCallback : Option Nat)
  | calling (packetRequested : Bool) (seekCallback : Option Nat)
  | pulling
  | supplying
  | failed
  deriving Repr, DecidableEq

inductive Moment where
  | sought (position : Int)
  | requested (pending : Bool)
  | seekFrame (timestamp result : Int)
  | called (seek : Nat)
  | supplied (streamIndex : Nat) (packet : Packet)
  deriving Repr, DecidableEq

inductive Event where
  | seek (position : Int)
  | requestPacket
  | wake
  | seekFrame (result : Int)
  | seekCallback
  | pullPacket (frame : Option AvPacket)
  | supply
  deriving Repr, DecidableEq

def Event.OfWorker : Event → Prop
  | .seek _ | .requestPacket => False
  | _ => True

end FfmpegDemuxImpl

structure FfmpegDemuxImpl where
  demux : FfmpegDemux
  seekCallback : Option Nat := none
  worker : FfmpegDemuxImpl.Worker := .waiting
  history : List FfmpegDemuxImpl.Moment := []
  deriving Repr, DecidableEq

namespace FfmpegDemuxImpl

open FfmpegDemux (kNotSeeking)

def create (streamCount : Nat) : FfmpegDemuxImpl :=
  { demux := .create streamCount }

def positions (history : List Moment) : List Int :=
  history.filterMap fun moment =>
    match moment with
    | .sought position => some position
    | _ => none

def requests (history : List Moment) : Nat := history.count (.requested false)

def supplies (history : List Moment) : Nat :=
  history.countP fun moment =>
    match moment with
    | .supplied _ _ => true
    | _ => false

def seek (impl : FfmpegDemuxImpl) (position : Int) : FfmpegDemuxImpl :=
  { impl with
    demux := impl.demux.seek position
    seekCallback := some (positions impl.history).length
    history := impl.history ++ [.sought position] }

def requestPacket (impl : FfmpegDemuxImpl) : FfmpegDemuxImpl :=
  { impl with
    demux := impl.demux.requestPacket
    history := impl.history ++ [.requested impl.demux.packetRequested] }

def proceed (packetRequested : Bool) : Worker := if packetRequested then .pulling else .waiting

def swap (impl : FfmpegDemuxImpl) : FfmpegDemuxImpl :=
  { impl with
    demux := { impl.demux with
      packetRequested := false
      seekPosition := kNotSeeking }
    seekCallback := none
    worker :=
      if impl.demux.seekPosition ≠ kNotSeeking then
        .seeking impl.demux.packetRequested impl.demux.seekPosition impl.seekCallback
      else proceed impl.demux.packetRequested }

def seekFrame (impl : FfmpegDemuxImpl) (packetRequested : Bool) (seekPosition : Int)
    (seekCallback : Option Nat) (result : Int) : FfmpegDemuxImpl :=
  { impl with
    demux := { impl.demux with nextStreamToEnd := none }
    worker := .calling packetRequested seekCallback
    history := impl.history ++ [.seekFrame (seekPosition.tdiv 1000) result] }

def call (impl : FfmpegDemuxImpl) (packetRequested : Bool) (seekCallback : Option Nat) :
    FfmpegDemuxImpl :=
  match seekCallback with
  | none => { impl with worker := .failed }
  | some seek =>
    { impl with
      worker := proceed packetRequested
      history := impl.history ++ [.called seek] }

def pullPacket (impl : FfmpegDemuxImpl) (frame : Option AvPacket) : FfmpegDemuxImpl :=
  { impl with
    demux := impl.demux.pullPacket frame
    worker := if (impl.demux.pullPacket frame).supplying.isSome then .supplying else .failed }

def supply (impl : FfmpegDemuxImpl) (streamIndex : Nat) (packet : Packet) : FfmpegDemuxImpl :=
  { impl with
    demux := { impl.demux with supplying := none }
    worker := .waiting
    history := impl.history ++ [.supplied streamIndex packet] }

def step (impl : FfmpegDemuxImpl) : Event → Option FfmpegDemuxImpl
  | .seek position => some (impl.seek position)
  | .requestPacket => some impl.requestPacket
  | .wake =>
    if impl.worker = .waiting ∧
        (impl.demux.packetRequested ∨ impl.demux.seekPosition ≠ kNotSeeking) then
      some impl.swap
    else none
  | .seekFrame result =>
    match impl.worker with
    | .seeking packetRequested seekPosition seekCallback =>
      some (impl.seekFrame packetRequested seekPosition seekCallback result)
    | _ => none
  | .seekCallback =>
    match impl.worker with
    | .calling packetRequested seekCallback => some (impl.call packetRequested seekCallback)
    | _ => none
  | .pullPacket frame => if impl.worker = .pulling then some (impl.pullPacket frame) else none
  | .supply =>
    match impl.worker, impl.demux.supplying with
    | .supplying, some (streamIndex, packet) => some (impl.supply streamIndex packet)
    | _, _ => none

variable {impl next : FfmpegDemuxImpl} {event : Event}

inductive Took (impl : FfmpegDemuxImpl) : Event → FfmpegDemuxImpl → Prop where
  | seek (position : Int) : Took impl (.seek position) (impl.seek position)
  | requestPacket : Took impl .requestPacket impl.requestPacket
  | wake (waiting : impl.worker = .waiting)
      (asked : impl.demux.packetRequested ∨ impl.demux.seekPosition ≠ kNotSeeking) :
      Took impl .wake impl.swap
  | seekFrame (packetRequested : Bool) (seekPosition : Int) (seekCallback : Option Nat)
      (result : Int) (seeking : impl.worker = .seeking packetRequested seekPosition seekCallback) :
      Took impl (.seekFrame result)
        (impl.seekFrame packetRequested seekPosition seekCallback result)
  | seekCallback (packetRequested : Bool) (seekCallback : Option Nat)
      (calling : impl.worker = .calling packetRequested seekCallback) :
      Took impl .seekCallback (impl.call packetRequested seekCallback)
  | pullPacket (frame : Option AvPacket) (pulling : impl.worker = .pulling) :
      Took impl (.pullPacket frame) (impl.pullPacket frame)
  | supply (streamIndex : Nat) (packet : Packet) (supplying : impl.worker = .supplying)
      (pulled : impl.demux.supplying = some (streamIndex, packet)) :
      Took impl .supply (impl.supply streamIndex packet)

theorem took_of_step (taken : impl.step event = some next) : Took impl event next := by
  cases event with
  | seek position =>
    obtain rfl : impl.seek position = next := by simpa [step] using taken
    exact .seek position
  | requestPacket =>
    obtain rfl : impl.requestPacket = next := by simpa [step] using taken
    exact .requestPacket
  | wake =>
    obtain ⟨⟨waiting, asked⟩, rfl⟩ := by simpa only [step, Option.ite_none_right_eq_some,
      Option.some.injEq] using taken
    exact .wake waiting asked
  | seekFrame result =>
    unfold step at taken
    dsimp only at taken
    split at taken
    next packetRequested seekPosition seekCallback seeking =>
      obtain rfl := Option.some.inj taken
      exact .seekFrame packetRequested seekPosition seekCallback result seeking
    next => simp at taken
  | seekCallback =>
    unfold step at taken
    dsimp only at taken
    split at taken
    next packetRequested seekCallback calling =>
      obtain rfl := Option.some.inj taken
      exact .seekCallback packetRequested seekCallback calling
    next => simp at taken
  | pullPacket frame =>
    obtain ⟨pulling, rfl⟩ := by simpa only [step, Option.ite_none_right_eq_some,
      Option.some.injEq] using taken
    exact .pullPacket frame pulling
  | supply =>
    unfold step at taken
    dsimp only at taken
    split at taken
    next streamIndex packet supplying pulled =>
      obtain rfl := Option.some.inj taken
      exact .supply streamIndex packet supplying pulled
    next => simp at taken

theorem step_of_took (took : Took impl event next) : impl.step event = some next := by
  cases took with
  | seek position => rfl
  | requestPacket => rfl
  | wake waiting asked => exact if_pos ⟨waiting, asked⟩
  | seekFrame packetRequested seekPosition seekCallback result seeking => simp [step, seeking]
  | seekCallback packetRequested seekCallback calling => simp [step, calling]
  | pullPacket frame pulling => exact if_pos pulling
  | supply streamIndex packet supplying pulled => simp [step, supplying, pulled]

theorem asked_concat {history : List Moment} {seek : Nat} {position : Int}
    (asked : (positions history)[seek]? = some position) (moment : Moment) :
    (positions (history ++ [moment]))[seek]? = some position := by
  have within := (List.getElem?_eq_some_iff.mp asked).1
  rw [positions, List.filterMap_append]
  exact (List.getElem?_append_left within).trans asked

theorem length_positions_sought (history : List Moment) (position : Int) :
    (positions (history ++ [.sought position])).length = (positions history).length + 1 := by
  simp [positions]

theorem length_positions_le (history : List Moment) (moment : Moment) :
    (positions history).length ≤ (positions (history ++ [moment])).length := by
  simp [positions]

def Performed (history : List Moment) (seek : Nat) : Prop :=
  ∃ before position result after,
    history = before ++ .seekFrame (position.tdiv 1000) result :: after ∧
      (positions before)[seek]? = some position

theorem Performed.concat {history : List Moment} {seek : Nat} (performed : Performed history seek)
    (moment : Moment) : Performed (history ++ [moment]) seek := by
  obtain ⟨before, position, result, after, rfl, asked⟩ := performed
  exact ⟨before, position, result, after ++ [moment], by simp, asked⟩

def Owes (before : List Moment) : Moment → Prop
  | .called seek => .called seek ∉ before ∧ Performed before seek
  | .supplied _ _ => supplies before < requests before
  | _ => True

def Worker.callback : Worker → Option Nat
  | .seeking _ _ seekCallback => seekCallback
  | .calling _ seekCallback => seekCallback
  | _ => none

def Worker.owed : Worker → Nat
  | .seeking packetRequested _ _ => packetRequested.toNat
  | .calling packetRequested _ => packetRequested.toNat
  | .pulling | .supplying | .failed => 1
  | .waiting => 0

structure Uncalled (history : List Moment) (seek : Nat) : Prop where
  asked : seek < (positions history).length
  uncalled : .called seek ∉ history

theorem Uncalled.concat {history : List Moment} {seek : Nat} (uncalled : Uncalled history seek)
    {moment : Moment} (other : moment ≠ .called seek) : Uncalled (history ++ [moment]) seek where
  asked := Nat.lt_of_lt_of_le uncalled.asked (length_positions_le history moment)
  uncalled := by
    intro called
    rcases List.mem_append.mp called with earlier | now
    · exact uncalled.uncalled earlier
    · exact other (List.mem_singleton.mp now).symm

def CalledAsked (history : List Moment) : Prop :=
  ∀ seek, .called seek ∈ history → seek < (positions history).length

theorem CalledAsked.concat {history : List Moment} (called : CalledAsked history) {moment : Moment}
    (asked : ∀ seek, moment = .called seek → seek < (positions history).length) :
    CalledAsked (history ++ [moment]) := by
  intro seek member
  have longer := length_positions_le history moment
  rcases List.mem_append.mp member with earlier | now
  · exact Nat.lt_of_lt_of_le (called seek earlier) longer
  · exact Nat.lt_of_lt_of_le (asked seek (List.mem_singleton.mp now).symm) longer

structure Inv (impl : FfmpegDemuxImpl) : Prop where
  slot : impl.demux.seekPosition ≠ kNotSeeking → ∃ seek, impl.seekCallback = some seek ∧
    (positions impl.history)[seek]? = some impl.demux.seekPosition
  slotUncalled : ∀ seek, impl.seekCallback = some seek →
    Uncalled impl.history seek ∧ impl.worker.callback ≠ some seek
  seeking : ∀ packetRequested seekPosition seekCallback,
    impl.worker = .seeking packetRequested seekPosition seekCallback →
      ∃ seek, seekCallback = some seek ∧ (positions impl.history)[seek]? = some seekPosition
  calling : ∀ packetRequested seekCallback, impl.worker = .calling packetRequested seekCallback →
    ∃ seek, seekCallback = some seek ∧ Performed impl.history seek
  workerUncalled : ∀ seek, impl.worker.callback = some seek → Uncalled impl.history seek
  called : CalledAsked impl.history
  supplying : impl.worker = .supplying ↔ impl.demux.supplying.isSome
  owed : requests impl.history =
    supplies impl.history + impl.demux.packetRequested.toNat + impl.worker.owed
  owes : Always Owes impl.history

theorem inv_create (streamCount : Nat) : Inv (create streamCount) where
  slot := fun seeking => absurd rfl seeking
  slotUncalled := by simp [create]
  seeking := by simp [create]
  calling := by simp [create]
  workerUncalled := by simp [create, Worker.callback]
  called := by simp [CalledAsked, create]
  supplying := by simp [create, FfmpegDemux.create]
  owed := by simp [create, FfmpegDemux.create, requests, supplies, Worker.owed]
  owes := always_nil Owes

theorem Inv.slot_concat (inv : Inv impl) (waits : impl.demux.seekPosition ≠ kNotSeeking)
    (moment : Moment) : ∃ seek, impl.seekCallback = some seek ∧
      (positions (impl.history ++ [moment]))[seek]? = some impl.demux.seekPosition := by
  obtain ⟨seek, slot, asked⟩ := inv.slot waits
  exact ⟨seek, slot, asked_concat asked moment⟩

theorem Inv.seeking_concat (inv : Inv impl) {packetRequested : Bool} {seekPosition : Int}
    {seekCallback : Option Nat}
    (seeking : impl.worker = .seeking packetRequested seekPosition seekCallback)
    (moment : Moment) : ∃ seek, seekCallback = some seek ∧
      (positions (impl.history ++ [moment]))[seek]? = some seekPosition := by
  obtain ⟨seek, taken, asked⟩ := inv.seeking packetRequested seekPosition seekCallback seeking
  exact ⟨seek, taken, asked_concat asked moment⟩

theorem Inv.calling_concat (inv : Inv impl) {packetRequested : Bool} {seekCallback : Option Nat}
    (calling : impl.worker = .calling packetRequested seekCallback) (moment : Moment) :
    ∃ seek, seekCallback = some seek ∧ Performed (impl.history ++ [moment]) seek := by
  obtain ⟨seek, taken, performed⟩ := inv.calling packetRequested seekCallback calling
  exact ⟨seek, taken, performed.concat moment⟩

theorem Inv.seek (inv : Inv impl) (position : Int) : Inv (impl.seek position) where
  slot := by
    intro _
    exact ⟨_, rfl, by simp [FfmpegDemuxImpl.seek, FfmpegDemux.seek, positions]⟩
  slotUncalled := by
    rintro seek slot
    obtain rfl : (positions impl.history).length = seek := Option.some.inj slot
    refine ⟨⟨?_, ?_⟩, ?_⟩
    · rw [FfmpegDemuxImpl.seek, length_positions_sought]
      exact Nat.lt_succ_self _
    · intro called
      have earlier := inv.called _ (by simpa [FfmpegDemuxImpl.seek] using called)
      exact absurd earlier (Nat.lt_irrefl _)
    · intro taken
      exact absurd (inv.workerUncalled _ taken).asked (Nat.lt_irrefl _)
  seeking := fun _ _ _ seeking => inv.seeking_concat seeking _
  calling := fun _ _ calling => inv.calling_concat calling _
  workerUncalled := fun seek taken => (inv.workerUncalled seek taken).concat (by simp)
  called := inv.called.concat (by simp)
  supplying := inv.supplying
  owed := by
    have owed := inv.owed
    simpa [FfmpegDemuxImpl.seek, FfmpegDemux.seek, requests, supplies] using owed
  owes := inv.owes.concat trivial

theorem Inv.requestPacket (inv : Inv impl) : Inv impl.requestPacket where
  slot := fun waits => inv.slot_concat waits _
  slotUncalled := by
    intro seek slot
    obtain ⟨uncalled, apart⟩ := inv.slotUncalled seek slot
    exact ⟨uncalled.concat (by simp), apart⟩
  seeking := fun _ _ _ seeking => inv.seeking_concat seeking _
  calling := fun _ _ calling => inv.calling_concat calling _
  workerUncalled := fun seek taken => (inv.workerUncalled seek taken).concat (by simp)
  called := inv.called.concat (by simp)
  supplying := inv.supplying
  owed := by
    have owed := inv.owed
    cases pending : impl.demux.packetRequested <;>
      simp [FfmpegDemuxImpl.requestPacket, FfmpegDemux.requestPacket, requests, supplies,
        pending] at owed ⊢ <;> omega
  owes := inv.owes.concat trivial

theorem callback_proceed (packetRequested : Bool) : (proceed packetRequested).callback = none := by
  cases packetRequested <;> rfl

theorem owed_proceed (packetRequested : Bool) :
    (proceed packetRequested).owed = packetRequested.toNat := by
  cases packetRequested <;> rfl

theorem Inv.swap (inv : Inv impl) (waiting : impl.worker = .waiting) : Inv impl.swap where
  slot := fun seeking => absurd rfl seeking
  slotUncalled := by simp [FfmpegDemuxImpl.swap]
  seeking := by
    intro packetRequested seekPosition seekCallback taken
    by_cases seeking : impl.demux.seekPosition = kNotSeeking
    · cases pending : impl.demux.packetRequested <;>
        simp [FfmpegDemuxImpl.swap, seeking, proceed, pending] at taken
    · obtain ⟨-, rfl, rfl⟩ := by simpa [FfmpegDemuxImpl.swap, seeking] using taken
      exact inv.slot seeking
  calling := by
    intro packetRequested seekCallback taken
    by_cases seeking : impl.demux.seekPosition = kNotSeeking
    · cases pending : impl.demux.packetRequested <;>
        simp [FfmpegDemuxImpl.swap, seeking, proceed, pending] at taken
    · simp [FfmpegDemuxImpl.swap, seeking] at taken
  workerUncalled := by
    intro seek taken
    by_cases seeking : impl.demux.seekPosition = kNotSeeking
    · simp [FfmpegDemuxImpl.swap, seeking, callback_proceed] at taken
    · have slot : impl.seekCallback = some seek := by
        simpa [FfmpegDemuxImpl.swap, seeking, Worker.callback] using taken
      exact (inv.slotUncalled seek slot).1
  called := inv.called
  supplying := by
    have idle : ¬ impl.demux.supplying.isSome := by simp [← inv.supplying, waiting]
    refine iff_of_false ?_ idle
    by_cases seeking : impl.demux.seekPosition = kNotSeeking
    · cases pending : impl.demux.packetRequested <;>
        simp [FfmpegDemuxImpl.swap, seeking, proceed, pending]
    · simp [FfmpegDemuxImpl.swap, seeking]
  owed := by
    have owed := inv.owed
    by_cases seeking : impl.demux.seekPosition = kNotSeeking
    · simp only [waiting, Worker.owed, Nat.add_zero] at owed
      simpa [FfmpegDemuxImpl.swap, seeking, owed_proceed] using owed
    · simp only [waiting, Worker.owed, Nat.add_zero] at owed
      simpa [FfmpegDemuxImpl.swap, seeking, Worker.owed] using owed
  owes := inv.owes

theorem Inv.seekFrame (inv : Inv impl) {packetRequested : Bool} {seekPosition : Int}
    {seekCallback : Option Nat}
    (seeking : impl.worker = .seeking packetRequested seekPosition seekCallback) (result : Int) :
    Inv (impl.seekFrame packetRequested seekPosition seekCallback result) where
  slot := fun waits => inv.slot_concat waits _
  slotUncalled := by
    intro seek slot
    obtain ⟨uncalled, apart⟩ := inv.slotUncalled seek slot
    rw [seeking] at apart
    exact ⟨uncalled.concat (by simp), apart⟩
  seeking := by simp [FfmpegDemuxImpl.seekFrame]
  calling := by
    intro _ _ taken
    obtain ⟨rfl, rfl⟩ := by simpa [FfmpegDemuxImpl.seekFrame] using taken
    obtain ⟨seek, rfl, asked⟩ := inv.seeking packetRequested seekPosition seekCallback seeking
    exact ⟨seek, rfl, impl.history, seekPosition, result, [], rfl, asked⟩
  workerUncalled := by
    intro seek taken
    have held : impl.worker.callback = some seek := by rw [seeking]; exact taken
    exact (inv.workerUncalled seek held).concat (by simp)
  called := inv.called.concat (by simp)
  supplying := by
    have idle : ¬ impl.demux.supplying.isSome := by simp [← inv.supplying, seeking]
    exact iff_of_false (by simp [FfmpegDemuxImpl.seekFrame]) idle
  owed := by
    have owed := inv.owed
    simp only [seeking, Worker.owed] at owed
    simpa [FfmpegDemuxImpl.seekFrame, Worker.owed, requests, supplies] using owed
  owes := inv.owes.concat trivial

theorem Inv.call (inv : Inv impl) {packetRequested : Bool} {seekCallback : Option Nat}
    (calling : impl.worker = .calling packetRequested seekCallback) :
    Inv (impl.call packetRequested seekCallback) := by
  obtain ⟨callee, rfl, performed⟩ := inv.calling packetRequested seekCallback calling
  have uncalled := inv.workerUncalled callee (by rw [calling]; rfl)
  exact {
    slot := fun waits => inv.slot_concat waits _
    slotUncalled := by
      intro seek slot
      obtain ⟨waits, apart⟩ := inv.slotUncalled seek slot
      rw [calling] at apart
      refine ⟨waits.concat fun same => apart ?_, ?_⟩
      · rw [Moment.called.inj same]
        rfl
      · simp [FfmpegDemuxImpl.call, callback_proceed]
    seeking := by
      intro _ _ _ taken
      cases packetRequested <;> simp [FfmpegDemuxImpl.call, proceed] at taken
    calling := by
      intro _ _ taken
      cases packetRequested <;> simp [FfmpegDemuxImpl.call, proceed] at taken
    workerUncalled := by
      intro seek taken
      simp [FfmpegDemuxImpl.call, callback_proceed] at taken
    called := by
      refine inv.called.concat fun seek same => ?_
      rw [← Moment.called.inj same]
      exact uncalled.asked
    supplying := by
      have idle : ¬ impl.demux.supplying.isSome := by simp [← inv.supplying, calling]
      refine iff_of_false ?_ idle
      cases packetRequested <;> simp [FfmpegDemuxImpl.call, proceed]
    owed := by
      have owed := inv.owed
      simp only [calling, Worker.owed] at owed
      simpa [FfmpegDemuxImpl.call, owed_proceed, requests, supplies] using owed
    owes := inv.owes.concat ⟨uncalled.uncalled, performed⟩ }

def HasNext (demux : FfmpegDemux) (frame : Option AvPacket) : Prop :=
  demux.nextStreamToEnd = none ∧ frame.isSome ∨
    demux.nextStreamToEnd.getD 0 < demux.streamCount

instance (demux : FfmpegDemux) (frame : Option AvPacket) : Decidable (HasNext demux frame) :=
  inferInstanceAs (Decidable (_ ∨ _))

theorem pulled_iff (demux : FfmpegDemux) (idle : demux.supplying = none)
    (frame : Option AvPacket) :
    (demux.pullPacket frame).supplying.isSome ↔ HasNext demux frame := by
  have ends (stream : Nat) :
      (demux.pullEndOfStreamPacket stream).supplying.isSome ↔ stream < demux.streamCount := by
    unfold FfmpegDemux.pullEndOfStreamPacket
    split <;> simp [idle] <;> omega
  unfold FfmpegDemux.pullPacket HasNext
  cases demux.nextStreamToEnd with
  | some stream => simpa using ends stream
  | none =>
    cases frame with
    | some avPacket => simp
    | none => simpa using ends 0

theorem pullPacket_asked (demux : FfmpegDemux) (frame : Option AvPacket) :
    (demux.pullPacket frame).seekPosition = demux.seekPosition ∧
      (demux.pullPacket frame).packetRequested = demux.packetRequested := by
  have ends (stream : Nat) :
      (demux.pullEndOfStreamPacket stream).seekPosition = demux.seekPosition ∧
        (demux.pullEndOfStreamPacket stream).packetRequested = demux.packetRequested := by
    unfold FfmpegDemux.pullEndOfStreamPacket
    split <;> exact ⟨rfl, rfl⟩
  unfold FfmpegDemux.pullPacket
  split
  · exact ends _
  · split
    · exact ends 0
    · exact ⟨rfl, rfl⟩

theorem pulled_worker (impl : FfmpegDemuxImpl) (frame : Option AvPacket) :
    (impl.pullPacket frame).worker = .supplying ∨ (impl.pullPacket frame).worker = .failed := by
  unfold FfmpegDemuxImpl.pullPacket
  dsimp only
  split
  · exact .inl rfl
  · exact .inr rfl

theorem Inv.pullPacket (inv : Inv impl) (pulling : impl.worker = .pulling)
    (frame : Option AvPacket) : Inv (impl.pullPacket frame) where
  slot := by
    intro waits
    rw [FfmpegDemuxImpl.pullPacket, (pullPacket_asked _ frame).1] at waits ⊢
    exact inv.slot waits
  slotUncalled := by
    intro seek slot
    refine ⟨(inv.slotUncalled seek slot).1, ?_⟩
    rcases pulled_worker impl frame with supplying | failed
    · simp [supplying, Worker.callback]
    · simp [failed, Worker.callback]
  seeking := by
    intro _ _ _ taken
    rcases pulled_worker impl frame with supplying | failed <;> simp_all
  calling := by
    intro _ _ taken
    rcases pulled_worker impl frame with supplying | failed <;> simp_all
  workerUncalled := by
    intro seek taken
    rcases pulled_worker impl frame with supplying | failed <;> simp_all [Worker.callback]
  called := inv.called
  supplying := by
    unfold FfmpegDemuxImpl.pullPacket
    dsimp only
    split
    next pulled => exact iff_of_true rfl pulled
    next failed => exact iff_of_false (by simp) failed
  owed := by
    have owed := inv.owed
    have kept : (impl.pullPacket frame).worker.owed = impl.worker.owed := by
      rcases pulled_worker impl frame with worker | worker <;> simp [worker, pulling, Worker.owed]
    rw [kept, FfmpegDemuxImpl.pullPacket, (pullPacket_asked _ frame).2]
    exact owed
  owes := inv.owes

theorem Inv.supply (inv : Inv impl) (supplying : impl.worker = .supplying) (streamIndex : Nat)
    (packet : Packet) : Inv (impl.supply streamIndex packet) where
  slot := fun waits => inv.slot_concat waits _
  slotUncalled := by
    intro seek slot
    exact ⟨(inv.slotUncalled seek slot).1.concat (by simp),
      by simp [FfmpegDemuxImpl.supply, Worker.callback]⟩
  seeking := by simp [FfmpegDemuxImpl.supply]
  calling := by simp [FfmpegDemuxImpl.supply]
  workerUncalled := by simp [FfmpegDemuxImpl.supply, Worker.callback]
  called := inv.called.concat (by simp)
  supplying := by simp [FfmpegDemuxImpl.supply]
  owed := by
    have owed := inv.owed
    simp only [supplying, Worker.owed] at owed
    simp [FfmpegDemuxImpl.supply, Worker.owed, requests, supplies] at owed ⊢
    omega
  owes := by
    refine inv.owes.concat ?_
    have owed := inv.owed
    simp only [supplying, Worker.owed] at owed
    simp only [Owes]
    omega

theorem Inv.step (inv : Inv impl) (taken : impl.step event = some next) : Inv next := by
  cases took_of_step taken with
  | seek position => exact inv.seek position
  | requestPacket => exact inv.requestPacket
  | wake waiting asked => exact inv.swap waiting
  | seekFrame packetRequested seekPosition seekCallback result seeking =>
    exact inv.seekFrame seeking result
  | seekCallback packetRequested seekCallback calling => exact inv.call calling
  | pullPacket frame pulling => exact inv.pullPacket pulling frame
  | supply streamIndex packet supplying pulled => exact inv.supply supplying streamIndex packet

theorem inv_of_run (streamCount : Nat) (events : List Event) (final : FfmpegDemuxImpl)
    (reached : run step (create streamCount) events = some final) : Inv final :=
  invariant_of_run step Inv (fun _ _ _ inv taken => inv.step taken) _ final events
    (inv_create streamCount) reached

theorem turn_seeks (inv : Inv impl) (waiting : impl.worker = .waiting)
    (seeking : impl.demux.seekPosition ≠ kNotSeeking) (result : Int) :
    ∃ final, run step impl [.wake, .seekFrame result, .seekCallback] = some final ∧
      final.worker = proceed impl.demux.packetRequested ∧
      final.demux = { impl.swap.demux with nextStreamToEnd := none } := by
  obtain ⟨seek, slot, -⟩ := inv.slot seeking
  have taken : impl.swap.worker =
      .seeking impl.demux.packetRequested impl.demux.seekPosition (some seek) := by
    simp [swap, seeking, slot]
  let sought := impl.swap.seekFrame impl.demux.packetRequested impl.demux.seekPosition
    (some seek) result
  have calling : sought.worker = .calling impl.demux.packetRequested (some seek) := rfl
  refine ⟨sought.call impl.demux.packetRequested (some seek), ?_, rfl, rfl⟩
  simp only [run, step_of_took (.wake waiting (.inr seeking)),
    step_of_took (.seekFrame _ _ _ result taken), Option.bind_some]
  exact congrArg (Option.bind · some) (step_of_took (.seekCallback _ _ calling))

theorem turn_wakes (inv : Inv impl) (waiting : impl.worker = .waiting) {frame : Option AvPacket}
    {demux : FfmpegDemux} (woken : impl.demux.wake frame = some demux) (result : Int) :
    ∃ events final, (∀ event ∈ events, event.OfWorker) ∧
      run step impl events = some final ∧ final.demux = demux := by
  simp only [FfmpegDemux.wake, Option.ite_none_right_eq_some, Option.some.injEq] at woken
  obtain ⟨⟨-, asked⟩, rfl⟩ := woken
  by_cases seeking : impl.demux.seekPosition = kNotSeeking
  · have pending : impl.demux.packetRequested = true := by simpa [seeking] using asked
    have pulling : impl.swap.worker = .pulling := by simp [swap, seeking, pending, proceed]
    refine ⟨[.wake, .pullPacket frame], impl.swap.pullPacket frame, by simp [Event.OfWorker],
      ?_, ?_⟩
    · simp only [run, step_of_took (.wake waiting asked),
        step_of_took (.pullPacket frame pulling), Option.bind_some]
    · simp [FfmpegDemuxImpl.pullPacket, swap, pending, seeking]
  · obtain ⟨sought, turns, worker, demux⟩ := turn_seeks inv waiting seeking result
    cases pending : impl.demux.packetRequested with
    | false =>
      refine ⟨_, sought, ?_, turns, ?_⟩
      · simp [Event.OfWorker]
      · simp [demux, swap, seeking]
    | true =>
      have pulling : sought.worker = .pulling := by rw [worker, pending]; rfl
      refine ⟨[.wake, .seekFrame result, .seekCallback] ++ [.pullPacket frame],
        sought.pullPacket frame, by simp [Event.OfWorker], ?_, ?_⟩
      · rw [run_append, turns]
        exact congrArg (Option.bind · some) (step_of_took (.pullPacket frame pulling))
      · simp [FfmpegDemuxImpl.pullPacket, demux, swap, seeking]

end FfmpegDemuxImpl

end MojoMedia
