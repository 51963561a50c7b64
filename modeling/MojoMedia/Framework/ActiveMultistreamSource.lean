import MojoMedia.Framework.Stages

set_option autoImplicit false

namespace MojoMedia.Framework

def hasPositiveDemand (demand : Nat → Demand) (outputs : Nat) : Bool :=
  (List.range outputs).any fun index => demand index = .positive

structure ActiveMultistreamSourceStage where
  cachedPacket : Option Packet := none
  cachedPacketOutputIndex : Nat := 0
  endedStreams : Nat := 0
  packetRequestOutstanding : Bool := false
  deriving Repr, DecidableEq

namespace ActiveMultistreamSourceStage

def supply (stage : ActiveMultistreamSourceStage) (demand : Nat → Demand) (outputIndex : Nat)
    (packet : Packet) : ActiveMultistreamSourceStage × Bool :=
  ({ cachedPacket := some packet
     cachedPacketOutputIndex := outputIndex
     endedStreams :=
       if packet.endOfStream then stage.endedStreams + 1 else stage.endedStreams
     packetRequestOutstanding := false },
    demand outputIndex ≠ .negative)

def toSupply (stage : ActiveMultistreamSourceStage) (demand : Nat → Demand) :
    Option (Nat × Packet) :=
  match stage.cachedPacket with
  | some packet =>
    if demand stage.cachedPacketOutputIndex ≠ .negative then
      some (stage.cachedPacketOutputIndex, packet)
    else none
  | none => none

def withoutSupplied (stage : ActiveMultistreamSourceStage) (demand : Nat → Demand) :
    ActiveMultistreamSourceStage :=
  if (stage.toSupply demand).isSome then { stage with cachedPacket := none } else stage

-- Whether `Update` then requests a packet, given the demand of the outputs after the supply.
def requests (stage : ActiveMultistreamSourceStage) (outputs : Nat) (demand : Nat → Demand) :
    Bool :=
  stage.cachedPacket.isNone && hasPositiveDemand demand outputs &&
    !stage.packetRequestOutstanding

def afterRequest (stage : ActiveMultistreamSourceStage) (outputs : Nat)
    (demand : Nat → Demand) : ActiveMultistreamSourceStage :=
  if stage.requests outputs demand then { stage with packetRequestOutstanding := true } else stage

def flushOutput (_ : ActiveMultistreamSourceStage) : ActiveMultistreamSourceStage :=
  { cachedPacket := none
    cachedPacketOutputIndex := 0
    endedStreams := 0
    packetRequestOutstanding := false }

end ActiveMultistreamSourceStage

namespace FlushIsolation

-- Times are counted in flushes. `owed` has the time of each request that the source has not
-- answered yet, and `cachedFrom` that of the request the cached packet answers.

structure Supply where
  requestOutstanding : Bool
  cacheEmpty : Bool
  deriving Repr, DecidableEq

structure Delivery where
  outputIndex : Nat
  packet : Packet
  requestedAt : Nat
  deliveredAt : Nat
  deriving Repr, DecidableEq

structure Session where
  stage : ActiveMultistreamSourceStage := { }
  owed : List Nat := []
  cachedFrom : Nat := 0
  flushes : Nat := 0
  supplies : List Supply := []
  deliveries : List Delivery := []
  deriving Repr, DecidableEq

-- `demand` is the demand of the outputs when the stage is updated, and `demandAfter` what it
-- is once the cached packet has been supplied.
inductive Event where
  | update (demand demandAfter : Nat → Demand)
  | flushOutput (index : Nat)
  | answer (position outputIndex : Nat) (packet : Packet)

def update (outputs : Nat) (session : Session) (demand demandAfter : Nat → Demand) : Session :=
  let supplied := session.stage.withoutSupplied demand
  { session with
    stage := supplied.afterRequest outputs demandAfter
    owed :=
      if supplied.requests outputs demandAfter then session.owed ++ [session.flushes]
      else session.owed
    deliveries :=
      match session.stage.toSupply demand with
      | some (outputIndex, packet) =>
        session.deliveries ++ [⟨outputIndex, packet, session.cachedFrom, session.flushes⟩]
      | none => session.deliveries }

def flushOutput (session : Session) : Session :=
  { session with
    stage := session.stage.flushOutput
    flushes := session.flushes + 1 }

-- The source answers one of the requests it owes an answer to. The update that the stage
-- may ask for is an event of its own.
def answer (session : Session) (position outputIndex : Nat) (packet : Packet) : Option Session := do
  let requestedAt ← session.owed[position]?
  some { session with
    stage := (session.stage.supply (fun _ => .negative) outputIndex packet).1
    owed := session.owed.eraseIdx position
    cachedFrom := requestedAt
    supplies := session.supplies ++
      [⟨session.stage.packetRequestOutstanding, session.stage.cachedPacket.isNone⟩] }

def step (outputs : Nat) (session : Session) : Event → Option Session
  | .update demand demandAfter => some (update outputs session demand demandAfter)
  | .flushOutput index => if index < outputs then some (flushOutput session) else none
  | .answer position outputIndex packet =>
    if outputIndex < outputs then answer session position outputIndex packet else none

structure Isolated (session : Session) : Prop where
  expected : ∀ supply ∈ session.supplies,
    supply.requestOutstanding = true ∧ supply.cacheEmpty = true
  fresh : ∀ delivery ∈ session.deliveries, delivery.requestedAt = delivery.deliveredAt

def Quiet (session : Session) : Event → Prop
  | .flushOutput _ => session.stage.packetRequestOutstanding = false
  | .update _ _ | .answer _ _ _ => True

structure InStep (session : Session) : Prop where
  isolated : Isolated session
  owed : session.owed =
    if session.stage.packetRequestOutstanding then [session.flushes] else []
  exclusive : session.stage.packetRequestOutstanding = true → session.stage.cachedPacket = none
  cached : session.stage.cachedPacket.isSome → session.cachedFrom = session.flushes

theorem withoutSupplied_outstanding (stage : ActiveMultistreamSourceStage)
    (demand : Nat → Demand) :
    (stage.withoutSupplied demand).packetRequestOutstanding = stage.packetRequestOutstanding := by
  simp only [ActiveMultistreamSourceStage.withoutSupplied]
  split <;> rfl

theorem withoutSupplied_cached (stage : ActiveMultistreamSourceStage) (demand : Nat → Demand) :
    (stage.withoutSupplied demand).cachedPacket = none ∨
      (stage.withoutSupplied demand).cachedPacket = stage.cachedPacket := by
  simp only [ActiveMultistreamSourceStage.withoutSupplied]
  split
  · exact .inl rfl
  · exact .inr rfl

theorem toSupply_cached {stage : ActiveMultistreamSourceStage} {demand : Nat → Demand}
    {outputIndex : Nat} {packet : Packet}
    (supplied : stage.toSupply demand = some (outputIndex, packet)) :
    stage.cachedPacket = some packet := by
  cases cached : stage.cachedPacket with
  | none => simp [ActiveMultistreamSourceStage.toSupply, cached] at supplied
  | some other =>
    simp only [ActiveMultistreamSourceStage.toSupply, cached, Option.ite_none_right_eq_some,
      Option.some.injEq, Prod.mk.injEq] at supplied
    rw [supplied.2.2]

theorem InStep.update {session : Session} (inStep : InStep session) (outputs : Nat)
    (demand demandAfter : Nat → Demand) :
    InStep (update outputs session demand demandAfter) := by
  have outstanding := withoutSupplied_outstanding session.stage demand
  have cached := withoutSupplied_cached session.stage demand
  have later (supplied : (session.stage.withoutSupplied demand).cachedPacket.isSome) :
      session.cachedFrom = session.flushes := by
    rcases cached with none | same
    · simp [none] at supplied
    · exact inStep.cached (same ▸ supplied)
  refine ⟨⟨inStep.isolated.expected, ?_⟩, ?_, ?_, ?_⟩
  · intro delivery delivered
    simp only [FlushIsolation.update] at delivered
    split at delivered
    next outputIndex packet supplied =>
      rcases List.mem_append.mp delivered with before | now
      · exact inStep.isolated.fresh delivery before
      · rw [List.mem_singleton.mp now]
        exact inStep.cached (by simp [toSupply_cached supplied])
    next => exact inStep.isolated.fresh delivery delivered
  · simp only [FlushIsolation.update, ActiveMultistreamSourceStage.afterRequest]
    by_cases asks : (session.stage.withoutSupplied demand).requests outputs demandAfter
    · have idle : session.stage.packetRequestOutstanding = false := by
        simp only [ActiveMultistreamSourceStage.requests, outstanding, Bool.and_eq_true,
          Bool.not_eq_true'] at asks
        exact asks.2
      simp [asks, inStep.owed, idle]
    · simp [asks, inStep.owed, outstanding]
  · simp only [FlushIsolation.update, ActiveMultistreamSourceStage.afterRequest]
    by_cases asks : (session.stage.withoutSupplied demand).requests outputs demandAfter
    · rw [if_pos asks]
      intro _
      simp only [ActiveMultistreamSourceStage.requests, Bool.and_eq_true,
        Option.isNone_iff_eq_none] at asks
      exact asks.1.1
    · rw [if_neg asks, outstanding]
      intro waiting
      rcases cached with none | same
      · exact none
      · exact same.trans (inStep.exclusive waiting)
  · simp only [FlushIsolation.update, ActiveMultistreamSourceStage.afterRequest]
    split
    · exact later
    · exact later

theorem InStep.flushOutput {session : Session} (inStep : InStep session)
    (quiet : session.stage.packetRequestOutstanding = false) : InStep (flushOutput session) := by
  refine ⟨⟨inStep.isolated.expected, inStep.isolated.fresh⟩, ?_, fun _ => rfl, ?_⟩
  · simp [FlushIsolation.flushOutput, ActiveMultistreamSourceStage.flushOutput, inStep.owed, quiet]
  · simp [FlushIsolation.flushOutput, ActiveMultistreamSourceStage.flushOutput]

theorem InStep.answer {session next : Session} (inStep : InStep session)
    {position outputIndex : Nat} {packet : Packet}
    (answered : answer session position outputIndex packet = some next) : InStep next := by
  simp only [FlushIsolation.answer, Option.bind_eq_bind, Option.bind_eq_some_iff,
    Option.some.injEq] at answered
  obtain ⟨requestedAt, owed, rfl⟩ := answered
  -- Only a stage that waits is owed an answer.
  have waiting : session.stage.packetRequestOutstanding = true := by
    by_contra idle
    rw [inStep.owed, if_neg idle] at owed
    simp at owed
  have owes : session.owed = [session.flushes] := by
    rw [inStep.owed, if_pos waiting]
  obtain ⟨rfl, rfl⟩ : position = 0 ∧ session.flushes = requestedAt := by
    rw [owes, List.getElem?_singleton] at owed
    simpa using owed
  refine ⟨⟨?_, inStep.isolated.fresh⟩, ?_, nofun, fun _ => rfl⟩
  · intro supply member
    rcases List.mem_append.mp member with before | now
    · exact inStep.isolated.expected supply before
    · rw [List.mem_singleton.mp now]
      exact ⟨waiting, by simp [inStep.exclusive waiting]⟩
  · simp [owes, ActiveMultistreamSourceStage.supply]

theorem InStep.step {outputs : Nat} {session next : Session} {event : Event}
    (inStep : InStep session) (quiet : Quiet session event)
    (taken : step outputs session event = some next) : InStep next := by
  cases event with
  | update demand demandAfter =>
    cases taken
    exact inStep.update outputs demand demandAfter
  | flushOutput index =>
    simp only [FlushIsolation.step, Option.ite_none_right_eq_some, Option.some.injEq] at taken
    obtain ⟨-, rfl⟩ := taken
    exact inStep.flushOutput quiet
  | answer position outputIndex packet =>
    simp only [FlushIsolation.step, Option.ite_none_right_eq_some] at taken
    exact inStep.answer taken.2

theorem inStep_start : InStep { } := ⟨⟨by simp, by simp⟩, rfl, nofun, nofun⟩

-- In every run in which no output is flushed while a request is outstanding, every answer finds
-- the stage waiting with an empty cache, and no packet outlives a flush.
theorem quiet_flushes_isolated (outputs : Nat) (events : List Event) (session : Session)
    (quiet : Runs.Meets (step outputs) Quiet { } events)
    (reached : Runs.run (step outputs) { } events = some session) : Isolated session := by
  have inStep : InStep session := by
    apply Runs.invariant_of_step (step outputs) Quiet InStep _ { } session events inStep_start
      quiet reached
    intro before event after inStep quiet taken
    exact inStep.step quiet taken
  exact inStep.isolated

def somePacket : Packet := ⟨0, false, [1]⟩

def flushedAfterwards : List Event :=
  [ .update (fun _ => .positive) (fun _ => .positive), .answer 0 0 somePacket,
    .update (fun _ => .positive) (fun _ => .negative), .flushOutput 0 ]

theorem flushed_afterwards_isolated :
    ∃ session, Runs.run (step 1) { } flushedAfterwards = some session ∧
      session.deliveries = [⟨0, somePacket, 0, 0⟩] ∧ Isolated session := by
  have outcome : (Runs.run (step 1) { } flushedAfterwards).any (fun session =>
      session.deliveries = [⟨0, somePacket, 0, 0⟩]) = true := by
    decide +kernel
  obtain ⟨session, reached, delivered⟩ := (Option.any_eq_true _ _).mp outcome
  refine ⟨session, reached, by simpa using delivered,
    quiet_flushes_isolated 1 flushedAfterwards session ?_ reached⟩
  refine ⟨trivial, ?_⟩
  rintro first ⟨⟩
  refine ⟨trivial, ?_⟩
  rintro second ⟨⟩
  refine ⟨trivial, ?_⟩
  rintro third ⟨⟩
  exact ⟨rfl, fun _ _ => trivial⟩

def flushedWhileOutstanding : List Event :=
  [ .update (fun _ => .positive) (fun _ => .positive), .flushOutput 0, .answer 0 0 somePacket,
    .update (fun _ => .positive) (fun _ => .negative) ]

theorem flushed_while_outstanding :
    ∃ session, Runs.run (step 1) { } flushedWhileOutstanding = some session ∧
      session.supplies = [⟨false, true⟩] ∧ session.deliveries = [⟨0, somePacket, 0, 1⟩] ∧
      ¬ Isolated session := by
  have outcome : (Runs.run (step 1) { } flushedWhileOutstanding).any (fun session =>
      session.supplies = [⟨false, true⟩] ∧
        session.deliveries = [⟨0, somePacket, 0, 1⟩]) = true := by
    decide +kernel
  obtain ⟨session, reached, found⟩ := (Option.any_eq_true _ _).mp outcome
  obtain ⟨supplies, deliveries⟩ : session.supplies = [⟨false, true⟩] ∧
      session.deliveries = [⟨0, somePacket, 0, 1⟩] := by
    simpa using found
  refine ⟨session, reached, supplies, deliveries, ?_⟩
  intro isolated
  have expected := isolated.expected ⟨false, true⟩ (by simp [supplies])
  simp at expected

end FlushIsolation

end MojoMedia.Framework
