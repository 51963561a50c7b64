import MojoMedia.Shared.Runs
import MojoMedia.Framework.Stages
import MojoMedia.FrameworkMojo.MediaTransport

set_option autoImplicit false

-- Clients call on one thread, and the engine calls `SupplyPacket` on another. Demand is signalled
-- after the lock is left, so the engine may come in between.
namespace MojoMedia

open Runs Framework

-- What is left of a client's call once it has left the lock.
inductive PullTask where
  | evaluate
  | signal (demand : Demand)
  | pull
  deriving Repr, DecidableEq

-- Pulls are numbered in the order in which they arrive, and an answer names its pull. `signalled`
-- is the demand that the engine was told last.
structure MojoPullModeProducer where
  bindings : Nat := 0
  buffer : Option Nat := none
  state : MediaState := .unprepared
  demand : Demand := .negative
  pts : Int := 0
  pendingPulls : List Nat := []
  unreleasedPackets : List SharedPacket := []
  cachedPacket : Option SharedPacket := none
  tasks : List PullTask := []
  signalled : Demand := .negative
  pulls : Nat := 0
  supplied : List SharedPacket := []
  answers : List (Nat × Mojo.MediaPacket) := []
  deriving Repr, DecidableEq

namespace MojoPullModeProducer

def createMediaPacket (packet : SharedPacket) : Mojo.MediaPacket where
  pts := packet.pts
  endOfStream := packet.endOfStream
  payload := some { offset := offsetFromPtr packet.payload, length := packet.size }

def handlePullWithPacketUnsafe (producer : MojoPullModeProducer) (pull : Nat)
    (packet : SharedPacket) : MojoPullModeProducer :=
  { producer with
    pts := packet.pts
    unreleasedPackets := producer.unreleasedPackets ++ [packet]
    answers := producer.answers ++ [(pull, createMediaPacket packet)] }

def maybeHandlePullUnsafe (producer : MojoPullModeProducer) (pull : Nat) :
    Option MojoPullModeProducer :=
  if producer.state = .ended then
    some (producer.handlePullWithPacketUnsafe pull (.createEndOfStream producer.pts))
  else
    producer.cachedPacket.map fun packet =>
      { producer with cachedPacket := none }.handlePullWithPacketUnsafe pull packet

def handlePullsUnsafe : List Nat → MojoPullModeProducer → MojoPullModeProducer
  | [], producer => { producer with pendingPulls := [] }
  | pull :: rest, producer =>
    match producer.maybeHandlePullUnsafe pull with
    | some next => handlePullsUnsafe rest next
    | none => { producer with pendingPulls := pull :: rest }

def handlePendingPullsUnsafe (producer : MojoPullModeProducer) : MojoPullModeProducer :=
  handlePullsUnsafe producer.pendingPulls producer

def getBuffer (producer : MojoPullModeProducer) : MojoPullModeProducer :=
  { producer with
    buffer := some (producer.buffer.getD (256 * 1024))
    state := if producer.state = .unprepared then .paused else producer.state
    tasks := [.signal .positive] }

def pull (producer : MojoPullModeProducer) : MojoPullModeProducer :=
  let waiting :=
    { producer with
      pulls := producer.pulls + 1
      pendingPulls := producer.pendingPulls ++ [producer.pulls] }
  if producer.state = .unprepared then { waiting with tasks := [] }
  else if producer.pendingPulls = [] then
    match { producer with pulls := producer.pulls + 1 }.maybeHandlePullUnsafe producer.pulls with
    | some next => { next with tasks := [.signal .positive] }
    | none => { waiting with tasks := [.signal .positive] }
  else { waiting with tasks := [.signal .positive] }

def release (producer : MojoPullModeProducer) (toRelease : Mojo.MediaPacket) :
    MojoPullModeProducer :=
  let size := (toRelease.payload.map (·.length)).getD 0
  let payload := if size = 0 then none else toRelease.payload.bind (ptrFromOffset ·.offset)
  { producer with
    unreleasedPackets := producer.unreleasedPackets.eraseP fun packet =>
      packet.payload = payload && packet.size = size }

def releasePacket (producer : MojoPullModeProducer) (toRelease : Mojo.MediaPacket) :
    MojoPullModeProducer :=
  { producer.release toRelease with tasks := [.evaluate] }

def pullPacket (producer : MojoPullModeProducer) (toRelease : Option Mojo.MediaPacket) :
    MojoPullModeProducer :=
  match toRelease with
  | some packet => { producer.release packet with tasks := [.evaluate, .pull] }
  | none => producer.pull

def supplyPacket (producer : MojoPullModeProducer) (packet : SharedPacket) :
    MojoPullModeProducer × Demand :=
  if producer.bindings = 0 then
    ({ producer with demand := .negative, state := .unprepared }, .negative)
  else
    let next := { producer with cachedPacket := some packet }.handlePendingPullsUnsafe
    let demand := if next.cachedPacket.isSome then .negative else .positive
    ({ next with demand }, demand)

-- The next task of the call. `ReleasePacket` reads the cached packet outside the lock.
def proceed (producer : MojoPullModeProducer) : Option MojoPullModeProducer :=
  match producer.tasks with
  | [] => none
  | .evaluate :: rest =>
    let demand := if producer.cachedPacket.isSome then .negative else .positive
    some { producer with tasks := .signal demand :: rest }
  | .signal demand :: rest => some { producer with signalled := demand, tasks := rest }
  | .pull :: _ => some producer.pull

inductive Event where
  | addBinding
  | closeBinding
  | getBuffer
  | pullPacket (toRelease : Option Mojo.MediaPacket)
  | releasePacket (toRelease : Mojo.MediaPacket)
  | proceed
  | supplyPacket (packet : SharedPacket)
  deriving Repr, DecidableEq

def accepts (producer : MojoPullModeProducer) : Bool :=
  producer.tasks = [] && 0 < producer.bindings

-- A call arrives over a binding when the one before it has returned. The engine supplies packets
-- only while demand is positive and there is a binding.
def step (producer : MojoPullModeProducer) : Event → Option MojoPullModeProducer
  | .addBinding => some { producer with bindings := producer.bindings + 1 }
  | .closeBinding =>
    if 0 < producer.bindings then some { producer with bindings := producer.bindings - 1 } else none
  | .getBuffer => if producer.accepts then some producer.getBuffer else none
  | .pullPacket toRelease => if producer.accepts then some (producer.pullPacket toRelease) else none
  | .releasePacket toRelease =>
    if producer.accepts then some (producer.releasePacket toRelease) else none
  | .proceed => producer.proceed
  | .supplyPacket packet =>
    if producer.signalled = .positive ∧ 0 < producer.bindings then
      let (next, demand) := producer.supplyPacket packet
      some { next with signalled := demand, supplied := producer.supplied ++ [packet] }
    else none

structure Served (producer : MojoPullModeProducer) : Prop where
  pulls : producer.answers.map Prod.fst ++ producer.pendingPulls = List.range producer.pulls
  packets : producer.answers.map Prod.snd ++ producer.cachedPacket.toList.map createMediaPacket =
    producer.supplied.map createMediaPacket
  exclusive : producer.cachedPacket = none ∨ producer.pendingPulls = []
  running : producer.state ≠ .ended
  unprepared : producer.state = .unprepared → producer.cachedPacket = none

def Ready (producer : MojoPullModeProducer) : Prop :=
  producer.cachedPacket = none ∧ producer.state ≠ .unprepared

instance (producer : MojoPullModeProducer) : Decidable producer.Ready :=
  inferInstanceAs (Decidable (_ ∧ _))

structure Invariant (producer : MojoPullModeProducer) : Prop where
  served : Served producer
  ready : producer.signalled = .positive → producer.Ready

theorem invariant_start : Invariant {} where
  served := ⟨rfl, rfl, .inl rfl, nofun, fun _ => rfl⟩
  ready := nofun

variable {producer : MojoPullModeProducer}

theorem Served.unmoved {next : MojoPullModeProducer} (served : Served producer)
    (answers : next.answers = producer.answers)
    (pending : next.pendingPulls = producer.pendingPulls) (pulls : next.pulls = producer.pulls)
    (cached : next.cachedPacket = producer.cachedPacket)
    (supplied : next.supplied = producer.supplied) (state : next.state = producer.state) :
    Served next where
  pulls := by rw [answers, pending, pulls, served.pulls]
  packets := by rw [answers, cached, supplied, served.packets]
  exclusive := by rw [cached, pending]; exact served.exclusive
  running := by rw [state]; exact served.running
  unprepared := by rw [state, cached]; exact served.unprepared

theorem Served.wait (served : Served producer) (empty : producer.cachedPacket = none)
    (tasks : List PullTask) : Served
      { producer with
        pulls := producer.pulls + 1
        pendingPulls := producer.pendingPulls ++ [producer.pulls]
        tasks } where
  pulls := by rw [List.range_succ, ← served.pulls, List.append_assoc]
  packets := served.packets
  exclusive := .inl empty
  running := served.running
  unprepared := served.unprepared

theorem Served.answer {packet : SharedPacket} (served : Served producer)
    (cached : producer.cachedPacket = some packet) (none : producer.pendingPulls = [])
    (tasks : List PullTask) : Served
      { ({ producer with
          pulls := producer.pulls + 1
          cachedPacket := .none } : MojoPullModeProducer).handlePullWithPacketUnsafe
            producer.pulls packet with tasks } where
  pulls := by
    have before := served.pulls
    rw [none, List.append_nil] at before
    simp only [handlePullWithPacketUnsafe, none, List.map_append, List.map_cons, List.map_nil,
      List.append_nil, before, List.range_succ]
  packets := by
    have before := served.packets
    rw [cached] at before
    simp only [handlePullWithPacketUnsafe, Option.toList_none, List.map_append, List.map_cons,
      List.map_nil, List.append_nil]
    exact before
  exclusive := .inl rfl
  running := served.running
  unprepared := fun _ => rfl

theorem pull_invariant (invariant : Invariant producer) : Invariant producer.pull := by
  obtain ⟨served, ready⟩ := invariant
  unfold MojoPullModeProducer.pull
  dsimp only
  split_ifs with early idle
  · exact ⟨served.wait (served.unprepared early) [], ready⟩
  · simp only [maybeHandlePullUnsafe, if_neg served.running]
    cases cached : producer.cachedPacket with
    | none =>
      have waits := served.wait cached [.signal .positive]
      exact ⟨waits.unmoved rfl rfl rfl cached.symm rfl rfl,
        fun signalled => ⟨rfl, (ready signalled).2⟩⟩
    | some packet =>
      exact ⟨served.answer cached idle _, fun signalled => ⟨rfl, (ready signalled).2⟩⟩
  · have empty := served.exclusive.resolve_right idle
    exact ⟨served.wait empty _, ready⟩

theorem handlePullsUnsafe_empty (running : producer.state ≠ .ended)
    (empty : producer.cachedPacket = none) (pulls : List Nat) :
    handlePullsUnsafe pulls producer = { producer with pendingPulls := pulls } := by
  cases pulls with
  | nil => rfl
  | cons pull rest =>
    have refused : producer.maybeHandlePullUnsafe pull = none := by
      rw [maybeHandlePullUnsafe, if_neg running, empty, Option.map_none]
    simp only [handlePullsUnsafe, refused]

theorem handlePendingPullsUnsafe_idle (idle : producer.pendingPulls = []) :
    producer.handlePendingPullsUnsafe = producer := by
  rw [handlePendingPullsUnsafe, idle, handlePullsUnsafe]
  exact congrArg (fun pendingPulls => { producer with pendingPulls }) idle.symm

theorem handlePendingPullsUnsafe_waiting {pull : Nat} {rest : List Nat} {packet : SharedPacket}
    (running : producer.state ≠ .ended) (cached : producer.cachedPacket = some packet)
    (pending : producer.pendingPulls = pull :: rest) :
    producer.handlePendingPullsUnsafe =
      ({ producer with cachedPacket := none, pendingPulls := rest } :
        MojoPullModeProducer).handlePullWithPacketUnsafe pull packet := by
  have handled : producer.maybeHandlePullUnsafe pull =
      some (({ producer with cachedPacket := none } :
        MojoPullModeProducer).handlePullWithPacketUnsafe pull packet) := by
    rw [maybeHandlePullUnsafe, if_neg running, cached, Option.map_some]
  rw [handlePendingPullsUnsafe, pending, handlePullsUnsafe, handled]
  exact handlePullsUnsafe_empty (by exact running) rfl rest

theorem supplyPacket_invariant (invariant : Invariant producer) (packet : SharedPacket)
    (positive : producer.signalled = .positive) (bound : 0 < producer.bindings) :
    Invariant
      { (producer.supplyPacket packet).1 with
        signalled := (producer.supplyPacket packet).2
        supplied := producer.supplied ++ [packet] } := by
  obtain ⟨served, ready⟩ := invariant
  obtain ⟨empty, prepared⟩ := ready positive
  have packets := served.packets
  rw [empty, Option.toList_none, List.map_nil, List.append_nil] at packets
  simp only [supplyPacket, if_neg (Nat.ne_of_gt bound)]
  by_cases idle : producer.pendingPulls = []
  · rw [handlePendingPullsUnsafe_idle (by exact idle)]
    refine ⟨?_, nofun⟩
    exact {
      pulls := served.pulls
      packets := by simp [packets]
      exclusive := .inr idle
      running := served.running
      unprepared := fun early => absurd early prepared }
  · obtain ⟨pull, rest, pending⟩ := List.exists_cons_of_ne_nil idle
    rw [handlePendingPullsUnsafe_waiting (by exact served.running) rfl (by exact pending)]
    refine ⟨?_, fun _ => ⟨rfl, prepared⟩⟩
    exact {
      pulls := by simpa [handlePullWithPacketUnsafe, pending] using served.pulls
      packets := by simp [handlePullWithPacketUnsafe, packets]
      exclusive := .inl rfl
      running := served.running
      unprepared := fun _ => rfl }

def SoundSignal (producer : MojoPullModeProducer) (event : Event) : Prop :=
  event = .proceed → producer.tasks.head? = some (.signal .positive) → producer.Ready

instance (producer : MojoPullModeProducer) (event : Event) :
    Decidable (producer.SoundSignal event) :=
  inferInstanceAs (Decidable (_ → _ → _))

theorem proceed_invariant {next : MojoPullModeProducer} (invariant : Invariant producer)
    (sound : producer.SoundSignal .proceed) (taken : producer.proceed = some next) :
    Invariant next := by
  unfold proceed at taken
  split at taken
  next => cases taken
  next =>
    cases taken
    exact ⟨invariant.served.unmoved rfl rfl rfl rfl rfl rfl, invariant.ready⟩
  next demand rest tasks =>
    cases taken
    refine ⟨invariant.served.unmoved rfl rfl rfl rfl rfl rfl, ?_⟩
    intro positive
    have signals : producer.tasks.head? = some (.signal .positive) := by
      rw [tasks, List.head?_cons, ← positive]
    exact sound rfl signals
  next =>
    cases taken
    exact pull_invariant invariant

theorem step_invariant (producer : MojoPullModeProducer) (event : Event)
    (next : MojoPullModeProducer) (invariant : Invariant producer)
    (sound : producer.SoundSignal event) (taken : producer.step event = some next) :
    Invariant next := by
  obtain ⟨served, ready⟩ := invariant
  cases event with
  | addBinding =>
    cases taken
    exact ⟨served.unmoved rfl rfl rfl rfl rfl rfl, ready⟩
  | closeBinding =>
    simp only [step] at taken
    split_ifs at taken
    cases taken
    exact ⟨served.unmoved rfl rfl rfl rfl rfl rfl, ready⟩
  | getBuffer =>
    simp only [step] at taken
    split_ifs at taken
    cases taken
    have prepares : producer.getBuffer.state ≠ .ended ∧ producer.getBuffer.state ≠ .unprepared := by
      unfold MojoPullModeProducer.getBuffer
      split_ifs with early
      · exact ⟨nofun, nofun⟩
      · exact ⟨served.running, early⟩
    refine ⟨?_, fun positive => ⟨(ready positive).1, prepares.2⟩⟩
    exact { served with running := prepares.1, unprepared := fun early => absurd early prepares.2 }
  | pullPacket toRelease =>
    simp only [step] at taken
    split_ifs at taken
    cases taken
    cases toRelease with
    | none => exact pull_invariant ⟨served, ready⟩
    | some packet => exact ⟨served.unmoved rfl rfl rfl rfl rfl rfl, ready⟩
  | releasePacket toRelease =>
    simp only [step] at taken
    split_ifs at taken
    cases taken
    exact ⟨served.unmoved rfl rfl rfl rfl rfl rfl, ready⟩
  | proceed => exact proceed_invariant ⟨served, ready⟩ sound taken
  | supplyPacket packet =>
    simp only [step] at taken
    split_ifs at taken with enabled
    cases taken
    exact supplyPacket_invariant ⟨served, ready⟩ packet enabled.1 enabled.2

theorem Served.paired (served : Served producer) : producer.answers =
    (List.range producer.pulls).zip (producer.supplied.map createMediaPacket) := by
  have unzipped (first : List Nat) (second : List Mojo.MediaPacket)
      (short : first = [] ∨ second = []) :
      (producer.answers.map Prod.fst ++ first).zip (producer.answers.map Prod.snd ++ second) =
        producer.answers := by
    rw [List.zip_append (by simp), List.zip_map']
    rcases short with rfl | rfl <;> simp
  rw [← served.pulls, ← served.packets]
  refine (unzipped _ _ ?_).symm
  rcases served.exclusive with empty | idle
  · exact .inr (by rw [empty]; rfl)
  · exact .inl idle

-- The `k`-th pull is answered with the `k`-th packet as soon as there are both, and a packet is
-- cached only when no pull waits.
theorem pulls_served (events : List Event) (final : MojoPullModeProducer)
    (sound : Meets step SoundSignal {} events) (reached : run step {} events = some final) :
    final.answers = (List.range final.pulls).zip (final.supplied.map createMediaPacket) ∧
      (final.cachedPacket ≠ none → final.pendingPulls = []) := by
  have invariant := invariant_of_step step SoundSignal Invariant step_invariant {} final events
    invariant_start sound reached
  exact ⟨invariant.served.paired, invariant.served.exclusive.resolve_left⟩

def threePulls : List Event :=
  [.addBinding, .pullPacket none, .pullPacket none, .getBuffer, .proceed,
    .supplyPacket { pts := 1, size := 8, payload := some 0 }, .supplyPacket { pts := 2 },
    .supplyPacket { pts := 3 },
    .pullPacket (some { pts := 1, endOfStream := false, payload := some ⟨0, 8⟩ }), .proceed,
    .proceed, .proceed, .proceed]

theorem pulls_served_three : ∃ final, run step {} threePulls = some final ∧ final.pulls = 3 ∧
    final.supplied.map (·.pts) = [1, 2, 3] ∧
    final.answers = (List.range final.pulls).zip (final.supplied.map createMediaPacket) :=
  ⟨_, rfl, by decide, by decide, (pulls_served threePulls _ (by decide) rfl).1⟩

-- The second client that asks for the buffer has positive demand signalled over the packet
-- that the first one has not pulled yet.
theorem cached_packet_lost : ∃ final,
    run step {} [.addBinding, .getBuffer, .proceed, .supplyPacket { pts := 1 }, .getBuffer,
      .proceed, .supplyPacket { pts := 2 }, .pullPacket none] = some final ∧
    final.answers ≠ (List.range final.pulls).zip (final.supplied.map createMediaPacket) :=
  ⟨_, rfl, by decide⟩

end MojoPullModeProducer

end MojoMedia
