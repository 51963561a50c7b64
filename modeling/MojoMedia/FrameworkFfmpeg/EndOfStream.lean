import MojoMedia.FrameworkFfmpeg.FfmpegDemux
import MojoMedia.Framework.Quiescence
import MojoMedia.Shared.Runs

set_option autoImplicit false

namespace MojoMedia.EndOfStream

open Framework Engine.State FfmpegDemux Runs

-- Since the last flush, `ended` are the streams whose end-of-stream packets were supplied to the
-- stage, and `received` those whose packets it passed on. `late` records whether a packet was ever
-- requested once all streams had ended.
structure Session where
  state : Engine.State
  demux : FfmpegDemux
  ended : List Nat := []
  received : List Nat := []
  late : Bool := false

-- Whatever else happens in the graph leaves the members of the stage as they are.
inductive Event where
  | update
  | flushOutput (index : Nat)
  | seek (position : Int)
  | wake (frame : Option AvPacket)
  | supply
  | elsewhere (next : Engine.State)

variable (graph : PreparedGraph) (stage outputs : Nat)

def outputDemands (state : Engine.State) : Nat → Demand :=
  fun index => state.outputDemand graph ⟨stage, index⟩

-- What `Update` supplies, before it looks whether to request a packet.
def afterSupply (state : Engine.State) : Engine.State :=
  match (state.activeMultistreamSource stage).toSupply (outputDemands graph stage state) with
  | some (outputIndex, packet) => state.supplyPacket graph ⟨stage, outputIndex⟩ packet
  | none => state

-- Whether `Update` calls `RequestPacket`.
def requests (state : Engine.State) : Bool :=
  ((state.activeMultistreamSource stage).withoutSupplied (outputDemands graph stage state)).requests
    outputs (outputDemands graph stage (afterSupply graph stage state))

-- The stream whose end-of-stream packet `Update` passes on.
def passedOn (state : Engine.State) : List Nat :=
  match (state.activeMultistreamSource stage).toSupply (outputDemands graph stage state) with
  | some (outputIndex, packet) => if packet.endOfStream then [outputIndex] else []
  | none => []

def update (session : Session) : Session :=
  let asks := requests graph stage outputs session.state
  { session with
    state := session.state.updateActiveMultistreamSource graph stage outputs
    demux := if asks then session.demux.requestPacket else session.demux
    received := session.received ++ passedOn graph stage session.state
    late := session.late || asks &&
      decide (outputs ≤ (session.state.activeMultistreamSource stage).endedStreams) }

def flushOutput (session : Session) (index : Nat) : Session :=
  { session with
    state :=
      (session.state.setOutputDemand ⟨stage, index⟩ .negative).setActiveMultistreamSource stage
        (session.state.activeMultistreamSource stage).flushOutput
    ended := []
    received := [] }

def supply (session : Session) : Option Session :=
  session.demux.supplying.map fun (outputIndex, packet) =>
    { session with
      state := session.state.answer graph stage outputIndex packet
      demux := { session.demux with supplying := none }
      ended := session.ended ++ if packet.endOfStream then [outputIndex] else [] }

def step (session : Session) : Event → Option Session
  | .update => some (update graph stage outputs session)
  | .flushOutput index => if index < outputs then some (flushOutput stage session index) else none
  | .seek position => some { session with demux := session.demux.seek position }
  | .wake frame => (session.demux.wake frame).map fun demux => { session with demux }
  | .supply => supply graph stage session
  | .elsewhere next =>
    if next.activeMultistreamSource stage = session.state.activeMultistreamSource stage then
      some { session with state := next }
    else none

-- The stage has no request outstanding, and an output has positive demand even if the cached packet
-- is passed on to its own.
def Wants (state : Engine.State) : Prop :=
  (state.activeMultistreamSource stage).packetRequestOutstanding = false ∧
    ∃ index < outputs, outputDemands graph stage state index = .positive ∧
      ((state.activeMultistreamSource stage).cachedPacket ≠ none →
        index ≠ (state.activeMultistreamSource stage).cachedPacketOutputIndex ∧
          outputDemands graph stage state
            (state.activeMultistreamSource stage).cachedPacketOutputIndex ≠ .negative)

-- The demux goes on ending streams, although the stage has been flushed.
def Behind (source : ActiveMultistreamSourceStage) (demux : FfmpegDemux) : Prop :=
  demux.seekPosition = kNotSeeking ∧ demux.nextStreamToEnd ≠ none ∧ source.endedStreams = 0

def NoEndOnItsWay (demux : FfmpegDemux) : Prop :=
  ∀ entry ∈ demux.supplying, entry.2.endOfStream = false

-- No request is with the demux, and no packet is on its way.
structure Idle (demux : FfmpegDemux) : Prop where
  requested : demux.packetRequested = false
  supplying : demux.supplying = none

-- No sink wants more once all streams have ended, or while the demux is behind, or while the
-- answer to a request from before a flush is on its way. Outputs are flushed between requests, or
-- while no stream is ending. The demux is told to seek between a flush and the first stream that
-- ends.
def Disciplined (session : Session) : Event → Prop
  | .update =>
    outputs ≤ (session.state.activeMultistreamSource stage).endedStreams ∨
        Behind (session.state.activeMultistreamSource stage) session.demux ∨
        session.demux.supplying ≠ none →
      ¬ Wants graph stage outputs session.state
  | .flushOutput _ =>
    Idle session.demux ∨
      (session.demux.seekPosition ≠ kNotSeeking ∨ session.demux.nextStreamToEnd = none) ∧
        NoEndOnItsWay session.demux
  | .seek position =>
    if position = kNotSeeking then
      session.demux.seekPosition = kNotSeeking ∨ session.demux.nextStreamToEnd = none
    else
      (session.state.activeMultistreamSource stage).endedStreams = 0 ∧
        NoEndOnItsWay session.demux
  | .wake _ | .supply | .elsewhere _ => True

-- The stream whose end-of-stream packet is cached.
def cachedEnd (source : ActiveMultistreamSourceStage) : List Nat :=
  match source.cachedPacket with
  | some packet => if packet.endOfStream then [source.cachedPacketOutputIndex] else []
  | none => []

-- The next stream to end is the one after those that have ended, and the one on its way.
def InStep (source : ActiveMultistreamSourceStage) (demux : FfmpegDemux) : Prop :=
  if demux.seekPosition ≠ kNotSeeking then source.endedStreams = 0 ∧ NoEndOnItsWay demux
  else
    match demux.nextStreamToEnd with
    | none => source.endedStreams = 0 ∧ NoEndOnItsWay demux
    | some next =>
      source.endedStreams = 0 ∧ Idle demux ∧ source.cachedPacket = none ∨
        0 < next ∧ (next = source.endedStreams ∧ NoEndOnItsWay demux ∨
          next = source.endedStreams + 1 ∧ ¬ NoEndOnItsWay demux)

-- A request is with the demux, or its packet is on its way. The stage may have been flushed
-- since.
structure Owed (outputs : Nat) (source : ActiveMultistreamSourceStage) (demux : FfmpegDemux) :
    Prop where
  uncached : source.cachedPacket = none
  unended : source.endedStreams < outputs
  once : demux.packetRequested = true ∧ demux.supplying = none ∨
    demux.packetRequested = false ∧ demux.supplying ≠ none

structure Sound (outputs : Nat) (source : ActiveMultistreamSourceStage) (demux : FfmpegDemux)
    (ended received : List Nat) : Prop where
  streams : demux.streamCount = outputs
  reached : demux.notReached = false
  counted : ended = List.range source.endedStreams
  passed : received ++ cachedEnd source = ended
  most : source.endedStreams ≤ outputs
  last : outputs ≤ source.endedStreams → ∀ packet, source.cachedPacket = some packet →
    packet.endOfStream = true
  empty : ∀ packet, source.cachedPacket = some packet → packet.endOfStream = true →
    packet.payload = [] ∧ source.cachedPacketOutputIndex < outputs
  calls : source.packetRequestOutstanding = false ∧ Idle demux ∨ Owed outputs source demux
  coming : ∀ entry ∈ demux.supplying, entry.2.endOfStream = true →
    entry.1 = source.endedStreams ∧ entry.2.payload = []
  inStep : InStep source demux

structure Inv (stage outputs : Nat) (session : Session) : Prop where
  sound : Sound outputs (session.state.activeMultistreamSource stage) session.demux session.ended
    session.received
  onTime : session.late = false

variable {graph stage outputs} {state : Engine.State} {session next : Session}
variable {source : ActiveMultistreamSourceStage} {demux : FfmpegDemux} {ended received : List Nat}

theorem supplyPacket_demand (state : Engine.State) (output : OutputRef) (packet : Packet) :
    (state.supplyPacket graph output packet).demand = state.demand := by
  have delivered (before : Engine.State) :
      (before.deliver graph output packet).demand = before.demand := by
    simp only [deliver]
    split
    next => rw [pushToSupplyBacklog_eq]; rfl
    next => rfl
  rcases supplyPacket_cases state output packet with ⟨before, rfl | rfl, supplied⟩ |
    ⟨supplied, -⟩
  · rw [supplied, delivered]
    rfl
  · rw [supplied, delivered]
    rfl
  · rw [supplied]
    rfl

section Supplied

variable {output : OutputRef} {packet : Packet} {input : InputRef}

theorem supplyPacket_slots (mates : graph.connections.outputMate output = some input)
    (empty : packet.payload = []) :
    (state.supplyPacket graph output packet).packetFromUpstream =
      Function.update state.packetFromUpstream input (some packet) := by
  have served : Served graph state output packet := by
    intro _ _ nonempty
    simp [Packet.size, empty] at nonempty
  exact (supplyPacket_served served mates).2

theorem outputDemand_taken (mates : graph.connections.outputMate output = some input)
    (empty : packet.payload = []) :
    (state.supplyPacket graph output packet).outputDemand graph output = .negative := by
  apply outputDemand_of_held mates
  simp [supplyPacket_slots mates empty]

theorem outputDemand_other (mates : graph.connections.outputMate output = some input)
    (empty : packet.payload = []) {other : OutputRef} (apart : other ≠ output) :
    (state.supplyPacket graph output packet).outputDemand graph other =
      state.outputDemand graph other := by
  have same : (state.supplyPacket graph output packet).mateHolds graph other =
      state.mateHolds graph other := by
    simp only [mateHolds, supplyPacket_slots mates empty]
    cases otherMates : graph.connections.outputMate other with
    | none => rfl
    | some otherInput =>
      have inputsApart : otherInput ≠ input := by
        rintro rfl
        exact apart (graph.mated.output_unique mates otherMates)
      simp only [Function.update_of_ne inputsApart]
  simp only [Engine.State.outputDemand, supplyPacket_demand, same]

end Supplied

theorem hasPositiveDemand_iff {demand : Nat → Demand} :
    hasPositiveDemand demand outputs = true ↔ ∃ index < outputs, demand index = .positive := by
  simp [hasPositiveDemand]

theorem wants_of_requests (mates : ∀ index < outputs, ∃ input,
      graph.connections.outputMate ⟨stage, index⟩ = some input)
    (empty : ∀ packet, (state.activeMultistreamSource stage).cachedPacket = some packet →
      packet.payload = [] ∧
        (state.activeMultistreamSource stage).cachedPacketOutputIndex < outputs)
    (asks : requests graph stage outputs state = true) : Wants graph stage outputs state := by
  simp only [requests, ActiveMultistreamSourceStage.requests,
    FlushIsolation.withoutSupplied_outstanding, Bool.and_eq_true, Option.isNone_iff_eq_none,
    Bool.not_eq_true', hasPositiveDemand_iff] at asks
  obtain ⟨⟨uncached, index, less, positive⟩, free⟩ := asks
  refine ⟨free, index, less, ?_⟩
  simp only [ActiveMultistreamSourceStage.withoutSupplied] at uncached
  cases sends : (state.activeMultistreamSource stage).toSupply
      (outputDemands graph stage state) with
  | none =>
    simp only [afterSupply, sends] at positive
    rw [if_neg (by simp [sends])] at uncached
    exact ⟨positive, fun cached => absurd uncached cached⟩
  | some entry =>
    obtain ⟨outputIndex, packet⟩ := entry
    have cached := FlushIsolation.toSupply_cached sends
    have accepts := toSupply_demand sends
    obtain rfl : (state.activeMultistreamSource stage).cachedPacketOutputIndex = outputIndex := by
      simp only [ActiveMultistreamSourceStage.toSupply, cached, Option.ite_none_right_eq_some,
        Option.some.injEq, Prod.mk.injEq] at sends
      exact sends.2.1
    simp only [afterSupply, sends, outputDemands] at positive
    obtain ⟨noPayload, inside⟩ := empty packet cached
    obtain ⟨input, mate⟩ := mates _ inside
    have apart : index ≠ (state.activeMultistreamSource stage).cachedPacketOutputIndex := by
      rintro rfl
      rw [outputDemand_taken mate noPayload] at positive
      cases positive
    have outputsApart : (⟨stage, index⟩ : OutputRef) ≠
        ⟨stage, (state.activeMultistreamSource stage).cachedPacketOutputIndex⟩ := by
      simpa using apart
    rw [outputDemand_other mate noPayload outputsApart] at positive
    exact ⟨positive, fun _ => ⟨apart, accepts⟩⟩

theorem update_source (session : Session) :
    (update graph stage outputs session).state.activeMultistreamSource stage =
      let sent := (session.state.activeMultistreamSource stage).withoutSupplied
        (outputDemands graph stage session.state)
      if requests graph stage outputs session.state then
        { sent with packetRequestOutstanding := true }
      else sent := by
  simp only [update, updateActiveMultistreamSource, setActiveMultistreamSource,
    Function.update_self]
  rfl

theorem withoutSupplied_cases (source : ActiveMultistreamSourceStage) (demand : Nat → Demand) :
    source.toSupply demand = none ∧ source.withoutSupplied demand = source ∨
      ∃ packet, source.cachedPacket = some packet ∧
        source.toSupply demand = some (source.cachedPacketOutputIndex, packet) ∧
        source.withoutSupplied demand = { source with cachedPacket := none } := by
  cases sends : source.toSupply demand with
  | none =>
    refine .inl ⟨rfl, ?_⟩
    rw [ActiveMultistreamSourceStage.withoutSupplied, if_neg (by simp [sends])]
  | some entry =>
    obtain ⟨outputIndex, packet⟩ := entry
    have cached := FlushIsolation.toSupply_cached sends
    refine .inr ⟨packet, cached, ?_, ?_⟩
    · simp only [ActiveMultistreamSourceStage.toSupply, cached, Option.ite_none_right_eq_some,
        Option.some.injEq, Prod.mk.injEq] at sends
      rw [sends.2.1]
    · rw [ActiveMultistreamSourceStage.withoutSupplied, if_pos (by simp [sends])]

theorem requests_free (asks : requests graph stage outputs state = true) :
    (state.activeMultistreamSource stage).packetRequestOutstanding = false ∧
      ((state.activeMultistreamSource stage).withoutSupplied
        (outputDemands graph stage state)).cachedPacket = none := by
  simp only [requests, ActiveMultistreamSourceStage.requests,
    FlushIsolation.withoutSupplied_outstanding, Bool.and_eq_true, Option.isNone_iff_eq_none,
    Bool.not_eq_true'] at asks
  exact ⟨asks.2, asks.1.1⟩

theorem noEnd_of_idle (idle : demux.supplying = none) : NoEndOnItsWay demux := by
  simp [NoEndOnItsWay, idle]

theorem inStep_seeking (seeking : demux.seekPosition ≠ kNotSeeking) :
    InStep source demux ↔ source.endedStreams = 0 ∧ NoEndOnItsWay demux := by
  rw [InStep, if_pos seeking]

theorem inStep_playing (playing : demux.nextStreamToEnd = none) :
    InStep source demux ↔ source.endedStreams = 0 ∧ NoEndOnItsWay demux := by
  rw [InStep, playing]
  split <;> rfl

theorem inStep_ending (settled : demux.seekPosition = kNotSeeking) {next : Nat}
    (ending : demux.nextStreamToEnd = some next) :
    InStep source demux ↔
      source.endedStreams = 0 ∧ Idle demux ∧ source.cachedPacket = none ∨
        0 < next ∧ (next = source.endedStreams ∧ NoEndOnItsWay demux ∨
          next = source.endedStreams + 1 ∧ ¬ NoEndOnItsWay demux) := by
  rw [InStep, if_neg (not_not.mpr settled), ending]

theorem position_cases (demux : FfmpegDemux) :
    demux.seekPosition ≠ kNotSeeking ∨ demux.nextStreamToEnd = none ∨
      demux.seekPosition = kNotSeeking ∧ ∃ next, demux.nextStreamToEnd = some next := by
  by_cases settled : demux.seekPosition = kNotSeeking
  · cases ending : demux.nextStreamToEnd with
    | none => exact .inr (.inl rfl)
    | some next => exact .inr (.inr ⟨settled, next, rfl⟩)
  · exact .inl settled

theorem Owed.not_idle (owed : Owed outputs source demux) : ¬ Idle demux := by
  rintro ⟨unrequested, resting⟩
  rcases owed.once with ⟨requested, -⟩ | ⟨-, supplying⟩
  · rw [unrequested] at requested
    cases requested
  · exact supplying resting

theorem Sound.owed (sound : Sound outputs source demux ended received) (busy : ¬ Idle demux) :
    Owed outputs source demux :=
  sound.calls.resolve_left fun free => busy free.2

theorem Sound.unrequested (sound : Sound outputs source demux ended received)
    (supplying : demux.supplying ≠ none) : demux.packetRequested = false := by
  rcases (sound.owed fun idle => supplying idle.supplying).once with ⟨-, none⟩ | ⟨requested, -⟩
  · exact absurd none supplying
  · exact requested

theorem Sound.uncached_of_behind (sound : Sound outputs source demux ended received)
    (behind : Behind source demux) : source.cachedPacket = none := by
  obtain ⟨settled, ending, unended⟩ := behind
  obtain ⟨next, ending⟩ := Option.ne_none_iff_exists'.mp ending
  rcases (inStep_ending settled ending).mp sound.inStep with
    ⟨-, -, uncached⟩ | ⟨positive, ⟨same, -⟩ | ⟨-, onItsWay⟩⟩
  · exact uncached
  · omega
  · refine (sound.owed fun idle => onItsWay ?_).uncached
    exact noEnd_of_idle idle.supplying

theorem Sound.send (sound : Sound outputs source demux ended received) :
    Sound outputs { source with cachedPacket := none } demux ended
      (received ++ cachedEnd source) := by
  refine ⟨sound.streams, sound.reached, sound.counted, ?_, sound.most, nofun, nofun, ?_,
    sound.coming, ?_⟩
  · rw [List.append_assoc]
    simpa [cachedEnd] using sound.passed
  · rcases sound.calls with idle | owed
    · exact .inl idle
    · exact .inr ⟨rfl, owed.unended, owed.once⟩
  · have inStep := sound.inStep
    rcases position_cases demux with seeking | playing | ⟨settled, next, ending⟩
    · have unended := (inStep_seeking seeking).mp inStep
      exact (inStep_seeking seeking).mpr unended
    · have unended := (inStep_playing playing).mp inStep
      exact (inStep_playing playing).mpr unended
    · rcases (inStep_ending settled ending).mp inStep with ⟨unended, idle, -⟩ | counted
      · exact (inStep_ending settled ending).mpr (.inl ⟨unended, idle, rfl⟩)
      · exact (inStep_ending settled ending).mpr (.inr counted)

theorem Sound.request (sound : Sound outputs source demux ended received)
    (resting : demux.supplying = none) (uncached : source.cachedPacket = none)
    (more : source.endedStreams < outputs) (notBehind : ¬ Behind source demux) :
    Sound outputs { source with packetRequestOutstanding := true } demux.requestPacket ended
      received := by
  refine ⟨sound.streams, sound.reached, sound.counted, sound.passed, sound.most, sound.last,
    sound.empty, .inr ⟨uncached, more, .inl ⟨rfl, resting⟩⟩, sound.coming, ?_⟩
  have inStep := sound.inStep
  rcases position_cases demux with seeking | playing | ⟨settled, next, ending⟩
  · have seekingStill : demux.requestPacket.seekPosition ≠ kNotSeeking := seeking
    exact (inStep_seeking seekingStill).mpr ((inStep_seeking seeking).mp inStep)
  · have playingStill : demux.requestPacket.nextStreamToEnd = none := playing
    exact (inStep_playing playingStill).mpr ((inStep_playing playing).mp inStep)
  · have settledStill : demux.requestPacket.seekPosition = kNotSeeking := settled
    have endingStill : demux.requestPacket.nextStreamToEnd = some next := ending
    rcases (inStep_ending settled ending).mp inStep with ⟨unended, -, -⟩ | counted
    · exact absurd ⟨settled, by simp [ending], unended⟩ notBehind
    · exact (inStep_ending settledStill endingStill).mpr (.inr counted)

theorem Sound.flush (sound : Sound outputs source demux ended received)
    (between : Idle demux ∨ (demux.seekPosition ≠ kNotSeeking ∨ demux.nextStreamToEnd = none) ∧
      NoEndOnItsWay demux) :
    Sound outputs source.flushOutput demux [] [] := by
  have noEnd : NoEndOnItsWay demux := by
    rcases between with idle | ⟨-, noEnd⟩
    · exact noEnd_of_idle idle.supplying
    · exact noEnd
  refine ⟨sound.streams, sound.reached, rfl, rfl, Nat.zero_le _, nofun, nofun, ?_, ?_, ?_⟩
  · rcases sound.calls with ⟨-, idle⟩ | owed
    · exact .inl ⟨rfl, idle⟩
    · exact .inr ⟨rfl, Nat.zero_lt_of_lt owed.unended, owed.once⟩
  · intro entry member ends
    rw [noEnd entry member] at ends
    cases ends
  · rcases position_cases demux with seeking | playing | ⟨settled, next, ending⟩
    · exact (inStep_seeking seeking).mpr ⟨rfl, noEnd⟩
    · exact (inStep_playing playing).mpr ⟨rfl, noEnd⟩
    · rcases between with idle | ⟨seeking | playing, -⟩
      · exact (inStep_ending settled ending).mpr (.inl ⟨rfl, idle, rfl⟩)
      · exact absurd settled seeking
      · rw [playing] at ending
        cases ending

theorem Sound.seek (sound : Sound outputs source demux ended received) {position : Int}
    (disciplined : if position = kNotSeeking then
        demux.seekPosition = kNotSeeking ∨ demux.nextStreamToEnd = none
      else source.endedStreams = 0 ∧ NoEndOnItsWay demux) :
    Sound outputs source (demux.seek position) ended received := by
  have inStep : InStep source (demux.seek position) := by
    have before := sound.inStep
    by_cases noPosition : position = kNotSeeking
    · rw [if_pos noPosition] at disciplined
      rcases disciplined with settled | playing
      · have same : demux.seek position = demux := by
          rw [FfmpegDemux.seek, noPosition, ← settled]
        rw [same]
        exact before
      · have still : (demux.seek position).nextStreamToEnd = none := playing
        exact (inStep_playing still).mpr ((inStep_playing playing).mp before)
    · rw [if_neg noPosition] at disciplined
      have seeking : (demux.seek position).seekPosition ≠ kNotSeeking := noPosition
      exact (inStep_seeking seeking).mpr disciplined
  refine ⟨sound.streams, sound.reached, sound.counted, sound.passed, sound.most, sound.last,
    sound.empty, ?_, sound.coming, inStep⟩
  rcases sound.calls with ⟨free, requested, supplying⟩ | ⟨uncached, unended, once⟩
  · exact .inl ⟨free, requested, supplying⟩
  · exact .inr ⟨uncached, unended, once⟩

theorem InStep.answered (inStep : InStep source demux)
    (busy : ¬ Idle demux) {after : ActiveMultistreamSourceStage}
    (counted : NoEndOnItsWay demux ∧ after.endedStreams = source.endedStreams ∨
      ¬ NoEndOnItsWay demux ∧ after.endedStreams = source.endedStreams + 1) :
    InStep after { demux with supplying := none } := by
  let rested : FfmpegDemux := { demux with supplying := none }
  have noneLeft : NoEndOnItsWay rested := noEnd_of_idle rfl
  have still (unended : source.endedStreams = 0 ∧ NoEndOnItsWay demux) :
      after.endedStreams = 0 ∧ NoEndOnItsWay rested := by
    rcases counted with ⟨-, same⟩ | ⟨onItsWay, -⟩
    · exact ⟨same.trans unended.1, noneLeft⟩
    · exact absurd unended.2 onItsWay
  rcases position_cases demux with seeking | playing | ⟨settled, next, ending⟩
  · have seekingStill : rested.seekPosition ≠ kNotSeeking := seeking
    exact (inStep_seeking seekingStill).mpr (still ((inStep_seeking seeking).mp inStep))
  · have playingStill : rested.nextStreamToEnd = none := playing
    exact (inStep_playing playingStill).mpr (still ((inStep_playing playing).mp inStep))
  · have settledStill : rested.seekPosition = kNotSeeking := settled
    have endingStill : rested.nextStreamToEnd = some next := ending
    refine (inStep_ending settledStill endingStill).mpr (.inr ?_)
    rcases (inStep_ending settled ending).mp inStep with ⟨-, idle, -⟩ | ⟨positive, before⟩
    · exact absurd idle busy
    · refine ⟨positive, .inl ⟨?_, noneLeft⟩⟩
      rcases before with ⟨same, noEnd⟩ | ⟨same, onItsWay⟩
      · rcases counted with ⟨-, still⟩ | ⟨onItsWay, -⟩
        · exact same.trans still.symm
        · exact absurd noEnd onItsWay
      · rcases counted with ⟨noEnd, -⟩ | ⟨-, further⟩
        · exact absurd noEnd onItsWay
        · exact same.trans further.symm

theorem Sound.supply (sound : Sound outputs source demux ended received) (demand : Nat → Demand)
    {outputIndex : Nat} {packet : Packet}
    (supplying : demux.supplying = some (outputIndex, packet)) :
    Sound outputs (source.supply demand outputIndex packet).1 { demux with supplying := none }
      (ended ++ if packet.endOfStream then [outputIndex] else []) received := by
  have onWay : demux.supplying ≠ none := by simp [supplying]
  have busy : ¬ Idle demux := fun idle => onWay idle.supplying
  obtain ⟨uncached, unended, -⟩ := sound.owed busy
  have requested := sound.unrequested onWay
  have noEnd : NoEndOnItsWay demux ↔ packet.endOfStream = false := by
    simp [NoEndOnItsWay, supplying]
  have passed := sound.passed
  rw [cachedEnd, uncached, List.append_nil] at passed
  cases last : packet.endOfStream with
  | false =>
    have same : (source.supply demand outputIndex packet).1.endedStreams =
        source.endedStreams := by
      simp [ActiveMultistreamSourceStage.supply, last]
    refine ⟨sound.streams, sound.reached, ?_, ?_, ?_, ?_, ?_, .inl ⟨rfl, requested, rfl⟩, ?_,
      sound.inStep.answered busy (.inl ⟨noEnd.mpr last, same⟩)⟩
    · rw [same, ← sound.counted]
      simp
    · simp [cachedEnd, ActiveMultistreamSourceStage.supply, last, passed]
    · rw [same]
      exact sound.most
    · intro allEnded
      rw [same] at allEnded
      omega
    · intro other cached ends
      simp only [ActiveMultistreamSourceStage.supply, Option.some.injEq] at cached
      rw [← cached, last] at ends
      cases ends
    · intro entry coming
      cases coming
  | true =>
    have further : (source.supply demand outputIndex packet).1.endedStreams =
        source.endedStreams + 1 := by
      simp [ActiveMultistreamSourceStage.supply, last]
    have onItsWay : ¬ NoEndOnItsWay demux := by simp [noEnd, last]
    obtain ⟨stream, empty⟩ := sound.coming (outputIndex, packet) (by simp [supplying]) last
    simp only at stream empty
    refine ⟨sound.streams, sound.reached, ?_, ?_, ?_, ?_, ?_, .inl ⟨rfl, requested, rfl⟩, ?_,
      sound.inStep.answered busy (.inr ⟨onItsWay, further⟩)⟩
    · rw [further, List.range_succ, ← sound.counted, stream]
      rfl
    · simp [cachedEnd, ActiveMultistreamSourceStage.supply, last, passed]
    · rw [further]
      exact unended
    · intro _ other cached
      simp only [ActiveMultistreamSourceStage.supply, Option.some.injEq] at cached
      rw [← cached]
      exact last
    · intro other cached _
      simp only [ActiveMultistreamSourceStage.supply, Option.some.injEq] at cached
      obtain rfl := cached
      refine ⟨empty, ?_⟩
      simp only [ActiveMultistreamSourceStage.supply, stream]
      exact unended
    · intro entry coming
      cases coming

-- What the worker has pulled. The next stream to end is not past the last.
structure Pulls (source : ActiveMultistreamSourceStage) (demux after : FfmpegDemux) : Prop where
  streams : after.streamCount = demux.streamCount
  reached : after.notReached = demux.notReached
  requested : after.packetRequested = false
  supplying : after.supplying ≠ none
  coming : ∀ entry ∈ after.supplying, entry.2.endOfStream = true →
    entry.1 = source.endedStreams ∧ entry.2.payload = []
  inStep : InStep source after

theorem pulls_end (demux : FfmpegDemux) (unended : source.endedStreams < demux.streamCount)
    (settled : demux.seekPosition = kNotSeeking) (unrequested : demux.packetRequested = false) :
    Pulls source demux (demux.pullEndOfStreamPacket source.endedStreams) := by
  rw [pullEndOfStreamPacket, if_neg (Nat.not_le_of_lt unended)]
  refine ⟨rfl, rfl, unrequested, nofun, ?_, ?_⟩
  · rintro entry member -
    obtain rfl := Option.some.inj member
    exact ⟨rfl, rfl⟩
  · let after : FfmpegDemux :=
      { demux with
        nextStreamToEnd := some (source.endedStreams + 1)
        supplying := some (source.endedStreams, createEndOfStream demux.nextPts) }
    have settledStill : after.seekPosition = kNotSeeking := settled
    have onItsWay : ¬ NoEndOnItsWay after := by
      simp [NoEndOnItsWay, after, createEndOfStream]
    exact (inStep_ending settledStill rfl).mpr (.inr ⟨Nat.succ_pos _, .inr ⟨rfl, onItsWay⟩⟩)

theorem pulls_packet (demux : FfmpegDemux) (unended : source.endedStreams < demux.streamCount)
    (settled : demux.seekPosition = kNotSeeking) (unrequested : demux.packetRequested = false)
    (next : demux.nextStreamToEnd = none ∧ source.endedStreams = 0 ∨
      demux.nextStreamToEnd = some source.endedStreams) (frame : Option AvPacket) :
    Pulls source demux (demux.pullPacket frame) := by
  rcases next with ⟨playing, zero⟩ | ending
  · simp only [pullPacket, playing]
    cases frame with
    | none =>
      rw [← zero]
      exact pulls_end demux unended settled unrequested
    | some avPacket =>
      refine ⟨rfl, rfl, unrequested, nofun, ?_, ?_⟩
      · rintro entry member ends
        obtain rfl := Option.some.inj member
        cases ends
      · let after : FfmpegDemux :=
          { demux with
            nextPts := MachineInt.s64 (avPacket.pts + avPacket.duration)
            nextStreamToEnd := none
            supplying := some (avPacket.streamIndex, demuxPacket avPacket) }
        have playingStill : after.nextStreamToEnd = none := rfl
        have noEnd : NoEndOnItsWay after := by simp [NoEndOnItsWay, after, demuxPacket]
        exact (inStep_playing playingStill).mpr ⟨zero, noEnd⟩
  · simp only [pullPacket, ending]
    exact pulls_end demux unended settled unrequested

theorem Sound.next_stream (sound : Sound outputs source demux ended received)
    (requested : demux.packetRequested = true) (resting : demux.supplying = none) :
    (if demux.seekPosition ≠ kNotSeeking then none else demux.nextStreamToEnd) = none ∧
        source.endedStreams = 0 ∨
      (if demux.seekPosition ≠ kNotSeeking then none else demux.nextStreamToEnd) =
        some source.endedStreams := by
  have inStep := sound.inStep
  rcases position_cases demux with seeking | playing | ⟨settled, next, ending⟩
  · rw [if_pos seeking]
    exact .inl ⟨rfl, ((inStep_seeking seeking).mp inStep).1⟩
  · refine .inl ⟨?_, ((inStep_playing playing).mp inStep).1⟩
    rw [playing]
    split <;> rfl
  · rw [if_neg (not_not.mpr settled), ending]
    rcases (inStep_ending settled ending).mp inStep with
      ⟨-, idle, -⟩ | ⟨-, ⟨same, -⟩ | ⟨-, onItsWay⟩⟩
    · rw [idle.requested] at requested
      cases requested
    · exact .inr (congrArg some same)
    · exact absurd (noEnd_of_idle resting) onItsWay

theorem Sound.wake (sound : Sound outputs source demux ended received) {frame : Option AvPacket}
    {after : FfmpegDemux} (woken : demux.wake frame = some after) :
    Sound outputs source after ended received := by
  simp only [FfmpegDemux.wake, Option.ite_none_right_eq_some] at woken
  obtain ⟨⟨resting, wakes⟩, same⟩ := woken
  obtain rfl := Option.some.inj same
  by_cases requested : demux.packetRequested = true
  · obtain ⟨uncached, unended, -⟩ : Owed outputs source demux := by
      refine sound.owed fun idle => ?_
      rw [idle.requested] at requested
      cases requested
    rw [if_pos requested]
    let seeked : FfmpegDemux :=
      { demux with
        packetRequested := false
        seekPosition := kNotSeeking
        nextStreamToEnd :=
          if demux.seekPosition ≠ kNotSeeking then none else demux.nextStreamToEnd }
    have more : source.endedStreams < seeked.streamCount := by
      rw [← sound.streams] at unended
      exact unended
    obtain ⟨streams, reached, unrequested, supplying, coming, inStep⟩ :=
      pulls_packet seeked more rfl rfl (sound.next_stream requested resting) frame
    exact ⟨streams.trans sound.streams, reached.trans sound.reached, sound.counted, sound.passed,
      sound.most, sound.last, sound.empty, .inr ⟨uncached, unended, .inr ⟨unrequested, supplying⟩⟩,
      coming, inStep⟩
  · have seeking : demux.seekPosition ≠ kNotSeeking := wakes.resolve_left requested
    have zero := ((inStep_seeking seeking).mp sound.inStep).1
    rw [if_neg requested]
    refine ⟨sound.streams, sound.reached, sound.counted, sound.passed, sound.most, sound.last,
      sound.empty, ?_, ?_, ?_⟩
    · rcases sound.calls with ⟨free, -⟩ | owed
      · exact .inl ⟨free, rfl, resting⟩
      · exact absurd ⟨by simpa using requested, resting⟩ owed.not_idle
    · simp [resting]
    · let seeked : FfmpegDemux :=
        { demux with
          packetRequested := false
          seekPosition := kNotSeeking
          nextStreamToEnd :=
            if demux.seekPosition ≠ kNotSeeking then none else demux.nextStreamToEnd }
      have playing : seeked.nextStreamToEnd = none := if_pos seeking
      exact (inStep_playing playing).mpr ⟨zero, noEnd_of_idle resting⟩

theorem withoutSupplied_ended (source : ActiveMultistreamSourceStage) (demand : Nat → Demand) :
    (source.withoutSupplied demand).endedStreams = source.endedStreams := by
  simp only [ActiveMultistreamSourceStage.withoutSupplied]
  split <;> rfl

theorem Inv.sent (graph : PreparedGraph) (inv : Inv stage outputs session) :
    Sound outputs ((session.state.activeMultistreamSource stage).withoutSupplied
        (outputDemands graph stage session.state)) session.demux session.ended
      (session.received ++ passedOn graph stage session.state) := by
  rcases withoutSupplied_cases (session.state.activeMultistreamSource stage)
    (outputDemands graph stage session.state) with ⟨sends, same⟩ | ⟨packet, cached, sends, same⟩
  · have none : passedOn graph stage session.state = [] := by rw [passedOn, sends]
    rw [same, none, List.append_nil]
    exact inv.sound
  · have passes : passedOn graph stage session.state =
        cachedEnd (session.state.activeMultistreamSource stage) := by
      rw [passedOn, sends, cachedEnd, cached]
    rw [same, passes]
    exact inv.sound.send

theorem Inv.may_request (mates : ∀ index < outputs, ∃ input,
      graph.connections.outputMate ⟨stage, index⟩ = some input) (inv : Inv stage outputs session)
    (disciplined : Disciplined graph stage outputs session .update)
    (asks : requests graph stage outputs session.state = true) :
    (session.state.activeMultistreamSource stage).endedStreams < outputs ∧
      ¬ Behind (session.state.activeMultistreamSource stage) session.demux ∧
      session.demux.supplying = none := by
  refine ⟨?_, fun behind => ?_, ?_⟩
  · by_contra allEnded
    have ended := Nat.le_of_not_lt allEnded
    refine disciplined (.inl ended) (wants_of_requests mates (fun packet cached => ?_) asks)
    exact inv.sound.empty packet cached (inv.sound.last ended packet cached)
  · refine disciplined (.inr (.inl behind)) (wants_of_requests mates (fun packet cached => ?_) asks)
    rw [inv.sound.uncached_of_behind behind] at cached
    cases cached
  · by_contra onWay
    refine disciplined (.inr (.inr onWay)) (wants_of_requests mates (fun packet cached => ?_) asks)
    rw [(inv.sound.owed fun idle => onWay idle.supplying).uncached] at cached
    cases cached

theorem Inv.update (mates : ∀ index < outputs, ∃ input,
      graph.connections.outputMate ⟨stage, index⟩ = some input) (inv : Inv stage outputs session)
    (disciplined : Disciplined graph stage outputs session .update) :
    Inv stage outputs (EndOfStream.update graph stage outputs session) := by
  have sent := inv.sent graph
  have source := @update_source graph stage outputs session
  simp only at source
  by_cases asks : requests graph stage outputs session.state = true
  · obtain ⟨more, notBehind, resting⟩ := inv.may_request mates disciplined asks
    obtain ⟨-, uncached⟩ := requests_free asks
    rw [if_pos asks] at source
    refine ⟨?_, ?_⟩
    · rw [source]
      have requested := sent.request resting uncached (by rwa [withoutSupplied_ended])
        (fun behind => notBehind ⟨behind.1, behind.2.1, by
          rw [← withoutSupplied_ended]
          exact behind.2.2⟩)
      simp only [EndOfStream.update, asks, if_true]
      exact requested
    · simp only [EndOfStream.update, asks, inv.onTime, Bool.false_or, Bool.true_and,
        decide_eq_false_iff_not]
      omega
  · rw [if_neg asks] at source
    refine ⟨?_, ?_⟩
    · rw [source]
      simp only [EndOfStream.update, asks]
      exact sent
    · simp [EndOfStream.update, asks, inv.onTime]

theorem Inv.step (mates : ∀ index < outputs, ∃ input,
      graph.connections.outputMate ⟨stage, index⟩ = some input) (inv : Inv stage outputs session)
    {event : Event} (disciplined : Disciplined graph stage outputs session event)
    (taken : EndOfStream.step graph stage outputs session event = some next) :
    Inv stage outputs next := by
  cases event with
  | update =>
    obtain rfl := Option.some.inj taken
    exact inv.update mates disciplined
  | flushOutput index =>
    simp only [EndOfStream.step, Option.ite_none_right_eq_some] at taken
    obtain rfl := Option.some.inj taken.2
    refine ⟨?_, inv.onTime⟩
    simp only [EndOfStream.flushOutput, setActiveMultistreamSource, Function.update_self]
    exact inv.sound.flush disciplined
  | seek position =>
    obtain rfl := Option.some.inj taken
    exact ⟨inv.sound.seek disciplined, inv.onTime⟩
  | wake frame =>
    obtain ⟨demux, woken, rfl⟩ := Option.map_eq_some_iff.mp taken
    exact ⟨inv.sound.wake woken, inv.onTime⟩
  | supply =>
    obtain ⟨⟨outputIndex, packet⟩, supplying, rfl⟩ := Option.map_eq_some_iff.mp taken
    refine ⟨?_, inv.onTime⟩
    have supplied := inv.sound.supply
      (fun index => session.state.outputDemand graph ⟨stage, index⟩) supplying
    have source : (session.state.answer graph stage outputIndex packet).activeMultistreamSource
        stage = ((session.state.activeMultistreamSource stage).supply
          (fun index => session.state.outputDemand graph ⟨stage, index⟩) outputIndex packet).1 := by
      simp only [answer]
      split <;> simp [setActiveMultistreamSource, request]
    rw [source]
    exact supplied
  | elsewhere other =>
    simp only [EndOfStream.step, Option.ite_none_right_eq_some] at taken
    obtain ⟨same, taken⟩ := taken
    obtain rfl := Option.some.inj taken
    refine ⟨?_, inv.onTime⟩
    rw [same]
    exact inv.sound

-- Each stream that has ended since the last flush has done so once, and in order.
structure EndsOnce (stage outputs : Nat) (session : Session) : Prop where
  onTime : session.late = false
  reached : session.demux.notReached = false
  received : session.received <+: List.range outputs
  whole : (session.state.activeMultistreamSource stage).endedStreams = outputs →
    (session.state.activeMultistreamSource stage).cachedPacket = none →
      session.received = List.range outputs

theorem Inv.endsOnce (inv : Inv stage outputs session) : EndsOnce stage outputs session := by
  have sound := inv.sound
  refine ⟨inv.onTime, sound.reached, ?_, ?_⟩
  · have front : session.ended <+: List.range outputs := by
      obtain ⟨more, total⟩ := Nat.exists_eq_add_of_le sound.most
      rw [sound.counted, total, List.range_add]
      exact List.prefix_append _ _
    exact List.IsPrefix.trans ⟨_, sound.passed⟩ front
  · intro all uncached
    have passed := sound.passed
    rw [cachedEnd, uncached, List.append_nil, sound.counted, all] at passed
    exact passed

theorem Inv.passedOn_slots (mates : ∀ index < outputs, ∃ input,
      graph.connections.outputMate ⟨stage, index⟩ = some input) (inv : Inv stage outputs session)
    {index : Nat} (passes : index ∈ passedOn graph stage session.state) :
    ∃ input packet, graph.connections.outputMate ⟨stage, index⟩ = some input ∧
      (EndOfStream.update graph stage outputs session).state.packetFromUpstream input =
        some packet ∧ packet.endOfStream = true := by
  rcases withoutSupplied_cases (session.state.activeMultistreamSource stage)
    (outputDemands graph stage session.state) with ⟨sends, -⟩ | ⟨packet, cached, sends, -⟩
  · simp [passedOn, sends] at passes
  · simp only [passedOn, sends, List.mem_ite_nil_right, List.mem_singleton] at passes
    obtain ⟨ends, rfl⟩ := passes
    obtain ⟨noPayload, inside⟩ := inv.sound.empty packet cached ends
    obtain ⟨input, mate⟩ := mates _ inside
    refine ⟨input, packet, mate, ?_, ends⟩
    have supplied : (session.state.updateActiveMultistreamSource graph stage
        outputs).packetFromUpstream = (session.state.supplyPacket graph
          ⟨stage, (session.state.activeMultistreamSource stage).cachedPacketOutputIndex⟩
            packet).packetFromUpstream := by
      simp only [updateActiveMultistreamSource, setActiveMultistreamSource]
      rw [show (session.state.activeMultistreamSource stage).toSupply
        (fun index => session.state.outputDemand graph ⟨stage, index⟩) = _ from sends]
    simp only [EndOfStream.update, supplied, supplyPacket_slots mate noPayload,
      Function.update_self]

-- In every run whose steps are all disciplined, no packet is requested once all streams have ended,
-- none is pulled after the last stream, and each stream ends once.
theorem each_stream_ends_once (graph : PreparedGraph) (stage outputs : Nat)
    (present : stage ∈ graph.connections.stages)
    (kind : graph.connections.kind stage = .activeMultistreamSource outputs)
    (start : Engine.State) (fresh : start.activeMultistreamSource stage = { })
    (events : List Event)
    (disciplined : Meets (step graph stage outputs) (Disciplined graph stage outputs)
      { state := start, demux := create outputs } events) (session : Session)
    (reached : run (step graph stage outputs) { state := start, demux := create outputs } events =
      some session) :
    EndsOnce stage outputs session ∧ ∀ index ∈ passedOn graph stage session.state,
      ∃ input packet, graph.connections.outputMate ⟨stage, index⟩ = some input ∧
        (update graph stage outputs session).state.packetFromUpstream input = some packet ∧
          packet.endOfStream = true := by
  have mates (index : Nat) (less : index < outputs) : ∃ input,
      graph.connections.outputMate ⟨stage, index⟩ = some input := by
    refine output_mate present index ?_
    rw [kind]
    exact less
  have begins : Inv stage outputs { state := start, demux := create outputs } := by
    refine ⟨?_, rfl⟩
    simp only [fresh]
    refine ⟨rfl, rfl, rfl, rfl, Nat.zero_le _, nofun, nofun, .inl ⟨rfl, rfl, rfl⟩, nofun, ?_⟩
    exact (inStep_playing rfl).mpr ⟨rfl, noEnd_of_idle rfl⟩
  have inv : Inv stage outputs session :=
    invariant_of_step (step graph stage outputs) (Disciplined graph stage outputs)
      (Inv stage outputs) (fun _ _ _ before guarded taken => before.step mates guarded taken) _
      session events begins disciplined reached
  exact ⟨inv.endsOnce, fun index passes => inv.passedOn_slots mates passes⟩

-- A demux with one stream, and a sink.
def single : Connections where
  stages := [0, 1]
  sources := [0]
  sinks := [1]
  kind stage := if stage = 0 then .activeMultistreamSource 1 else .activeSink
  inputMate input := if input = ⟨1, 0⟩ then some ⟨0, 0⟩ else none
  outputMate output := if output = ⟨0, 0⟩ then some ⟨1, 0⟩ else none

def singleGraph : PreparedGraph where
  connections := single
  mated := by
    refine ⟨?_, ?_⟩
    · intro output input
      simp only [single, Option.ite_none_right_eq_some, Option.some.injEq]
      constructor
      · rintro ⟨rfl, rfl⟩
        exact ⟨rfl, rfl⟩
      · rintro ⟨rfl, rfl⟩
        exact ⟨rfl, rfl⟩
    · intro output input mates
      simp only [single, Option.ite_none_right_eq_some, Option.some.injEq] at mates
      obtain ⟨rfl, rfl⟩ := mates
      decide
  connected := by
    refine ⟨?_, ?_⟩
    · rintro ⟨stage, index⟩ ⟨present, less⟩
      simp only [single, List.mem_cons, List.not_mem_nil, or_false] at present
      obtain rfl | rfl := present
      · simp [single, StageKind.inputCount] at less
      · obtain rfl : index = 0 := by simpa [single, StageKind.inputCount] using less
        rfl
    · rintro ⟨stage, index⟩ ⟨present, less⟩
      simp only [single, List.mem_cons, List.not_mem_nil, or_false] at present
      obtain rfl | rfl := present
      · obtain rfl : index = 0 := by simpa [single, StageKind.outputCount] using less
        rfl
      · simp [single, StageKind.outputCount] at less
  copyAllocator _ := none
  transforms _ _ := rfl
  inputs _ _ _ _ := rfl

def wanting : Engine.State := { demand := fun _ => .positive }

-- The asset has no packets. Its only stream ends, and the sink wants no more.
def ending : List Event := [.update, .wake none, .supply, .update]

theorem ending_ends_once :
    ∃ session, run (step singleGraph 0 1) { state := wanting, demux := create 1 } ending =
      some session ∧ session.received = [0] ∧ EndsOnce 0 1 session := by
  refine ⟨_, rfl, rfl,
    (each_stream_ends_once singleGraph 0 1 (by decide) rfl wanting rfl ending ?_ _ rfl).1⟩
  refine ⟨?_, ?_⟩
  · rintro (ended | ⟨-, behind, -⟩ | onWay)
    · cases ended
    · exact absurd rfl behind
    · exact absurd rfl onWay
  rintro first ⟨⟩
  refine ⟨trivial, ?_⟩
  rintro second ⟨⟩
  refine ⟨trivial, ?_⟩
  rintro third ⟨⟩
  refine ⟨?_, fun _ _ => trivial⟩
  rintro - ⟨-, index, less, -, apart⟩
  exact (apart nofun).1 (Nat.lt_one_iff.mp less)

theorem request_after_end :
    ∃ session, run (step singleGraph 0 1) { state := wanting, demux := create 1 } ending =
      some session ∧
      (session.state.activeMultistreamSource 0).endedStreams = 1 ∧
      ∃ final, run (step singleGraph 0 1) session
          [.elsewhere (session.state.takePacket ⟨1, 0⟩), .update, .wake none] = some final ∧
        final.late = true ∧ final.demux.notReached = true :=
  ⟨_, rfl, rfl, _, rfl, rfl, rfl⟩

end MojoMedia.EndOfStream
