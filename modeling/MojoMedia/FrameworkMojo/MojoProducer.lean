import MojoMedia.Shared.Runs
import MojoMedia.Framework.Stages
import MojoMedia.FrameworkMojo.MediaTransport
import Mathlib.Algebra.Group.Int.Defs

set_option autoImplicit false

-- The owner and the client call the producer on one thread, where posted tasks run and the
-- consumer's answers arrive too. The engine calls `SupplyPacket` on another. Demand is signalled
-- after the lock is left, so the engine may come in between.
namespace MojoMedia

open Runs Framework

inductive ConsumerMessage where
  | setBuffer
  | prime
  | flush
  | sendPacket (packet : Mojo.MediaPacket)
  deriving Repr, DecidableEq

inductive PushTask where
  | signal (demand : Demand)
  | prime
  | flush
  | reset
  | answered (packet : SharedPacket)
  deriving Repr, DecidableEq

-- `consumer` is what the consumer that is bound has been sent. `accepted` is the packet that
-- `SupplyPacket` has not thrown away and not counted yet, `posted` are the packets whose
-- `SendPacket` task has not run, and `unanswered` those that the bound consumer has been sent and
-- has not answered. `signalled` is the demand that the engine was told last.
structure MojoProducer where
  consumer : Option (List ConsumerMessage) := none
  buffer : Option Nat := none
  state : MediaState := .unprepared
  statuses : List MediaState := []
  endOfStream : Bool := false
  firstPtsSinceFlush : Int := Packet.kUnknownPts
  maxPushesOutstanding : UInt32 := 0
  currentPushesOutstanding : UInt32 := 0
  tasks : List PushTask := []
  accepted : Option SharedPacket := none
  posted : List (SharedPacket × Mojo.MediaPacket) := []
  unanswered : List SharedPacket := []
  signalled : Demand := .negative
  crashed : Bool := false
  deriving Repr, DecidableEq

namespace MojoProducer

def createMediaPacket (packet : SharedPacket) : Mojo.MediaPacket where
  pts := packet.pts
  endOfStream := packet.endOfStream
  payload := some
    { offset := if packet.size = 0 then 0 else offsetFromPtr packet.payload
      length := packet.size }

def setState (producer : MojoProducer) (state : MediaState) : MojoProducer :=
  { producer with
    state
    statuses := if producer.state = state then producer.statuses else producer.statuses ++ [state] }

def tell (producer : MojoProducer) (message : ConsumerMessage) : MojoProducer :=
  { producer with consumer := producer.consumer.map (· ++ [message]) }

def windowDemand (current max : UInt32) : Demand :=
  if current < max then .positive else .negative

def initBuffer (producer : MojoProducer) : MojoProducer :=
  { producer with buffer := some (producer.buffer.getD (2048 * 1024)) }

def primeConnection (producer : MojoProducer) : MojoProducer :=
  if producer.consumer.isSome then
    { producer with
      maxPushesOutstanding := 3
      tasks := [.signal (windowDemand producer.currentPushesOutstanding 3), .prime] }
  else { producer.initBuffer with tasks := [.signal .neutral, .prime] }

def flushConnection (producer : MojoProducer) : MojoProducer :=
  { producer with maxPushesOutstanding := 0, tasks := [.signal .negative, .flush] }

def connect (producer : MojoProducer) : MojoProducer :=
  { producer.initBuffer with consumer := some [.setBuffer], unanswered := [] }

def disconnect (producer : MojoProducer) : MojoProducer :=
  { producer with tasks := [.signal .negative, .reset] }

def proceed (producer : MojoProducer) : Option MojoProducer :=
  match producer.tasks with
  | [] => none
  | .signal demand :: rest => some { producer with signalled := demand, tasks := rest }
  | .prime :: rest => some { (producer.setState .paused).tell .prime with tasks := rest }
  | .flush :: rest =>
    some { producer.tell .flush with
      firstPtsSinceFlush := Packet.kUnknownPts
      endOfStream := false
      tasks := rest }
  | .reset :: rest =>
    some { producer.setState .unprepared with consumer := none, unanswered := [], tasks := rest }
  | .answered packet :: rest =>
    if producer.endOfStream && packet.endOfStream then
      some { producer.setState .ended with tasks := rest }
    else some { producer with tasks := rest }

def supplyPacket (producer : MojoProducer) (packet : SharedPacket) : MojoProducer :=
  let seen :=
    { producer with
      firstPtsSinceFlush :=
        if producer.firstPtsSinceFlush = Packet.kUnknownPts then packet.pts
        else producer.firstPtsSinceFlush }
  if producer.consumer.isSome then { seen with accepted := some packet }
  else if packet.endOfStream then
    { { seen with endOfStream := true }.setState .ended with signalled := .negative }
  else { seen with signalled := .neutral }

-- The rest of `SupplyPacket`, from the lock to the demand that it returns.
def push (producer : MojoProducer) (packet : SharedPacket) : MojoProducer :=
  let current := producer.currentPushesOutstanding + 1
  let pushed :=
    { producer with
      currentPushesOutstanding := current
      accepted := none
      posted := producer.posted ++ [(packet, createMediaPacket packet)] }
  if packet.endOfStream then
    { pushed with endOfStream := true, maxPushesOutstanding := 0, signalled := .negative }
  else { pushed with signalled := windowDemand current producer.maxPushesOutstanding }

def sendPacket (producer : MojoProducer) (packet : SharedPacket)
    (mediaPacket : Mojo.MediaPacket) : MojoProducer :=
  match producer.consumer with
  | some _ =>
    { producer.tell (.sendPacket mediaPacket) with unanswered := producer.unanswered ++ [packet] }
  | none => { producer with crashed := true }

def answer (producer : MojoProducer) (packet : SharedPacket) : MojoProducer :=
  let current := producer.currentPushesOutstanding - 1
  { producer with
    currentPushesOutstanding := current
    tasks := [.signal (windowDemand current producer.maxPushesOutstanding), .answered packet] }

inductive Event where
  | connect
  | disconnect
  | primeConnection
  | flushConnection
  | proceed
  | sendPacket
  | answer (index : Nat)
  | supplyPacket (packet : SharedPacket)
  | push
  deriving Repr, DecidableEq

def idle (producer : MojoProducer) : Bool := producer.tasks = []

-- The consumer answers in any order. The engine supplies a packet only after positive demand was
-- signalled, and one at a time.
def step (producer : MojoProducer) (event : Event) : Option MojoProducer :=
  if producer.crashed then none
  else match event with
  | .connect => if producer.idle then some producer.connect else none
  | .disconnect => if producer.idle then some producer.disconnect else none
  | .primeConnection => if producer.idle then some producer.primeConnection else none
  | .flushConnection => if producer.idle then some producer.flushConnection else none
  | .proceed => producer.proceed
  | .sendPacket =>
    if producer.idle then
      match producer.posted with
      | [] => none
      | (packet, mediaPacket) :: rest =>
        some ({ producer with posted := rest }.sendPacket packet mediaPacket)
    else none
  | .answer index =>
    if producer.idle then
      producer.unanswered[index]?.map fun packet =>
        { producer with unanswered := producer.unanswered.eraseIdx index }.answer packet
    else none
  | .supplyPacket packet =>
    if producer.signalled = .positive ∧ producer.accepted = none then
      some (producer.supplyPacket packet)
    else none
  | .push => producer.accepted.map producer.push

def outstanding (producer : MojoProducer) : Nat :=
  producer.posted.length + producer.unanswered.length

structure Accounted (producer : MojoProducer) : Prop where
  counted : producer.currentPushesOutstanding.toNat = producer.outstanding
  window : producer.maxPushesOutstanding.toNat ≤ 3
  bounded : producer.currentPushesOutstanding.toNat ≤ 3
  room : producer.signalled = .positive ∨ producer.accepted ≠ none →
    producer.currentPushesOutstanding.toNat < 3
  unbound : producer.consumer = none →
    producer.posted = [] ∧ producer.unanswered = [] ∧ producer.accepted = none
  running : producer.crashed = false

theorem accounted_start : Accounted {} where
  counted := rfl
  window := Nat.zero_le 3
  bounded := Nat.zero_le 3
  room := by simp
  unbound := fun _ => ⟨rfl, rfl, rfl⟩
  running := rfl

theorem windowDemand_positive {current max : UInt32}
    (positive : windowDemand current max = .positive) : current.toNat < max.toNat := by
  unfold windowDemand at positive
  split_ifs at positive with less
  exact UInt32.lt_iff_toNat_lt.mp less

variable {producer : MojoProducer}

theorem Accounted.untouched {next : MojoProducer} (accounted : Accounted producer)
    (current : next.currentPushesOutstanding = producer.currentPushesOutstanding)
    (posted : next.posted = producer.posted) (unanswered : next.unanswered = producer.unanswered)
    (accepted : next.accepted = producer.accepted) (crashed : next.crashed = producer.crashed)
    (signalled : next.signalled = .positive → producer.currentPushesOutstanding.toNat < 3)
    (window : next.maxPushesOutstanding.toNat ≤ 3)
    (consumer : next.consumer = none → producer.consumer = none) : Accounted next where
  counted := by rw [outstanding, current, posted, unanswered]; exact accounted.counted
  window := window
  bounded := by rw [current]; exact accounted.bounded
  room := by
    rw [current, accepted]
    rintro (positive | busy)
    · exact signalled positive
    · exact accounted.room (.inr busy)
  unbound := by
    rw [posted, unanswered, accepted]
    exact fun none => accounted.unbound (consumer none)
  running := by rw [crashed]; exact accounted.running

theorem supplyPacket_accounted (accounted : Accounted producer) (packet : SharedPacket)
    (positive : producer.signalled = .positive) :
    Accounted (producer.supplyPacket packet) := by
  have room := accounted.room (.inl positive)
  unfold supplyPacket
  by_cases bound : producer.consumer.isSome
  · rw [if_pos bound]
    exact {
      counted := accounted.counted
      window := accounted.window
      bounded := accounted.bounded
      room := fun _ => room
      unbound := fun none => by simp [show producer.consumer = .none from none] at bound
      running := accounted.running }
  · rw [if_neg bound]
    by_cases eos : packet.endOfStream
    · rw [if_pos eos]
      exact accounted.untouched rfl rfl rfl rfl rfl nofun accounted.window id
    · rw [if_neg eos]
      exact accounted.untouched rfl rfl rfl rfl rfl nofun accounted.window id

theorem push_accounted (accounted : Accounted producer) {packet : SharedPacket}
    (accepted : producer.accepted = some packet) : Accounted (producer.push packet) := by
  have room := accounted.room (.inr (by rw [accepted]; nofun))
  have raised : (producer.currentPushesOutstanding + 1).toNat =
      producer.currentPushesOutstanding.toNat + 1 := by
    rw [UInt32.toNat_add, UInt32.toNat_one]
    omega
  have counted : (producer.push packet).currentPushesOutstanding.toNat =
      (producer.push packet).outstanding := by
    have before := accounted.counted
    unfold outstanding at before
    unfold push
    split_ifs <;> simp only [outstanding, List.length_append, List.length_singleton] <;> omega
  have bound (none : producer.consumer = none) : False := by
    have nothing := (accounted.unbound none).2.2
    cases nothing.symm.trans accepted
  unfold push at counted ⊢
  dsimp only at counted ⊢
  split_ifs at counted ⊢ with eos
  · exact {
      counted := counted
      window := Nat.zero_le 3
      bounded := by rw [raised]; omega
      room := by simp
      unbound := fun none => (bound none).elim
      running := accounted.running }
  · refine {
      counted := counted
      window := accounted.window
      bounded := by rw [raised]; omega
      room := ?_
      unbound := fun none => (bound none).elim
      running := accounted.running }
    rintro (positive | busy)
    · have less := windowDemand_positive positive
      have window := accounted.window
      exact Nat.lt_of_lt_of_le less window
    · exact absurd rfl busy

theorem sendPacket_accounted (accounted : Accounted producer) {packet : SharedPacket}
    {mediaPacket : Mojo.MediaPacket} {rest : List (SharedPacket × Mojo.MediaPacket)}
    (posted : producer.posted = (packet, mediaPacket) :: rest) :
    Accounted ({ producer with posted := rest }.sendPacket packet mediaPacket) := by
  cases bound : producer.consumer with
  | none =>
    have nothing := (accounted.unbound bound).1
    cases nothing.symm.trans posted
  | some messages =>
    have counted := accounted.counted
    rw [outstanding, posted] at counted
    simp only [sendPacket, tell]
    exact {
      counted := by
        rw [counted]
        simp only [outstanding, List.length_cons, List.length_append, List.length_nil]
        omega
      window := accounted.window
      bounded := accounted.bounded
      room := accounted.room
      unbound := by simp
      running := accounted.running }

theorem answer_accounted (accounted : Accounted producer) {packet : SharedPacket} {index : Nat}
    (found : producer.unanswered[index]? = some packet) :
    Accounted ({ producer with
      unanswered := producer.unanswered.eraseIdx index }.answer packet) := by
  have inside := (List.getElem?_eq_some_iff.mp found).1
  have counted := accounted.counted
  unfold outstanding at counted
  have lowered : (producer.currentPushesOutstanding - 1).toNat =
      producer.currentPushesOutstanding.toNat - 1 := by
    apply UInt32.toNat_sub_of_le
    rw [UInt32.le_iff_toNat_le, UInt32.toNat_one]
    omega
  have fewer : (producer.unanswered.eraseIdx index).length = producer.unanswered.length - 1 :=
    List.length_eraseIdx_of_lt inside
  exact {
    counted := by
      simp only [answer, outstanding]
      omega
    window := accounted.window
    bounded := by
      have bounded := accounted.bounded
      simp only [answer]
      omega
    room := fun busy => by
      have room := accounted.room busy
      simp only [answer]
      omega
    unbound := fun none => by
      have nothing := (accounted.unbound none).2.1
      simp [nothing] at inside
    running := accounted.running }

-- A consumer is dropped only when it has answered everything, and without another in its place
-- only when nothing is left to be sent either. Positive demand is signalled only while fewer than
-- three packets are outstanding.
def Sound (producer : MojoProducer) : Event → Prop
  | .connect => producer.unanswered = []
  | .proceed =>
    match producer.tasks with
    | .signal .positive :: _ => producer.currentPushesOutstanding < 3
    | .reset :: _ =>
      producer.unanswered = [] ∧ producer.posted = [] ∧ producer.accepted = none
    | _ => True
  | _ => True

instance (producer : MojoProducer) (event : Event) : Decidable (producer.Sound event) := by
  unfold Sound
  split
  · infer_instance
  · split <;> infer_instance
  · infer_instance

theorem proceed_accounted {next : MojoProducer} (accounted : Accounted producer)
    (sound : producer.Sound .proceed) (taken : producer.proceed = some next) :
    Accounted next := by
  have told (message : ConsumerMessage) (none : (producer.tell message).consumer = none) :
      producer.consumer = .none := Option.map_eq_none_iff.mp none
  unfold proceed at taken
  split at taken
  next => cases taken
  next demand rest tasks =>
    cases taken
    refine accounted.untouched rfl rfl rfl rfl rfl ?_ accounted.window id
    rintro rfl
    simp only [Sound, tasks] at sound
    exact UInt32.lt_iff_toNat_lt.mp sound
  next rest _ =>
    cases taken
    exact accounted.untouched rfl rfl rfl rfl rfl (fun positive => accounted.room (.inl positive))
      accounted.window (told .prime)
  next rest _ =>
    cases taken
    exact accounted.untouched rfl rfl rfl rfl rfl (fun positive => accounted.room (.inl positive))
      accounted.window (told .flush)
  next rest tasks =>
    cases taken
    simp only [Sound, tasks] at sound
    obtain ⟨answered, sent, supplied⟩ := sound
    have counted := accounted.counted
    rw [outstanding, answered] at counted
    exact { accounted with counted := counted, unbound := fun _ => ⟨sent, rfl, supplied⟩ }
  next packet rest _ =>
    split_ifs at taken <;> cases taken
    all_goals
      exact accounted.untouched rfl rfl rfl rfl rfl (fun positive => accounted.room (.inl positive))
        accounted.window id

theorem step_accounted (producer : MojoProducer) (event : Event) (next : MojoProducer)
    (accounted : Accounted producer) (sound : producer.Sound event)
    (taken : producer.step event = some next) : Accounted next := by
  have still (positive : producer.signalled = .positive) := accounted.room (.inl positive)
  have alive : ¬ producer.crashed := by rw [accounted.running]; nofun
  unfold step at taken
  rw [if_neg alive] at taken
  cases event with
  | connect =>
    simp only at taken
    split_ifs at taken
    cases taken
    have answered : producer.unanswered = [] := sound
    have counted := accounted.counted
    rw [outstanding, answered] at counted
    exact { accounted with counted := counted, unbound := nofun }
  | disconnect =>
    simp only at taken
    split_ifs at taken
    cases taken
    exact accounted.untouched rfl rfl rfl rfl rfl still accounted.window id
  | primeConnection =>
    simp only [primeConnection] at taken
    split_ifs at taken <;> cases taken
    · exact accounted.untouched rfl rfl rfl rfl rfl still (Nat.le_refl 3) id
    · exact accounted.untouched rfl rfl rfl rfl rfl still accounted.window id
  | flushConnection =>
    simp only at taken
    split_ifs at taken
    cases taken
    exact accounted.untouched rfl rfl rfl rfl rfl still (Nat.zero_le 3) id
  | proceed => exact proceed_accounted accounted sound taken
  | sendPacket =>
    simp only at taken
    split_ifs at taken
    split at taken
    next => cases taken
    next packet mediaPacket rest posted =>
      cases taken
      exact sendPacket_accounted accounted posted
  | answer index =>
    simp only at taken
    split_ifs at taken
    obtain ⟨packet, found, rfl⟩ := Option.map_eq_some_iff.mp taken
    exact answer_accounted accounted found
  | supplyPacket packet =>
    simp only at taken
    split_ifs at taken with enabled
    cases taken
    exact supplyPacket_accounted accounted packet enabled.1
  | push =>
    obtain ⟨packet, accepted, rfl⟩ := Option.map_eq_some_iff.mp taken
    exact push_accounted accounted accepted

theorem primeConnection_positive (accounted : Accounted producer)
    (bound : producer.consumer ≠ none) (room : producer.outstanding < 3) :
    producer.primeConnection.tasks = [.signal .positive, .prime] := by
  rw [← accounted.counted] at room
  have less : producer.currentPushesOutstanding < 3 := UInt32.lt_iff_toNat_lt.mpr room
  rw [primeConnection, if_pos (Option.isSome_iff_ne_none.mpr bound), windowDemand, if_pos less]

-- `Disconnect`, `Connect` and `PrimeConnection`, up to the demand that is signalled.
def reconnect : List Event :=
  [.disconnect, .proceed, .proceed, .connect, .primeConnection, .proceed]

theorem reconnect_positive {later : MojoProducer} (accounted : Accounted producer)
    (sound : Meets step Sound producer reconnect)
    (reached : run step producer reconnect = some later) : later.signalled = .positive := by
  obtain ⟨next, taken, -⟩ := (run_cons step producer later .disconnect _).mp reached
  have alive : producer.crashed = false := accounted.running
  have idle : producer.tasks = [] := by
    by_contra busy
    simp [step, MojoProducer.idle, busy] at taken
  have counted := accounted.counted
  obtain ⟨consumer, buffer, state, statuses, endOfStream, first, max, current, tasks, accepted,
    posted, unanswered, signalled, crashed⟩ := producer
  subst alive idle
  obtain ⟨answered, sent, -⟩ : unanswered = [] ∧ posted = [] ∧ accepted = none :=
    ((sound.2 _ rfl).2 _ rfl).1
  have none : current.toNat = 0 := by
    rw [counted, outstanding, sent, answered]
    rfl
  have signalled : later.signalled = windowDemand current 3 := by
    cases reached
    rfl
  rw [signalled]
  have room : current < 3 := by
    rw [UInt32.lt_iff_toNat_lt, none]
    decide
  rw [windowDemand, if_pos room]

-- The pushes that are counted are those that the consumer has not answered, at most three, and no
-- task uses an interface that is not bound. Whenever a consumer that owes fewer than three
-- answers is primed, and so after every new connection, positive demand is signalled.
theorem pushes_accounted (events : List Event) (final : MojoProducer)
    (sound : Meets step Sound {} events) (reached : run step {} events = some final) :
    final.currentPushesOutstanding.toNat = final.outstanding ∧
      final.currentPushesOutstanding ≤ 3 ∧ final.crashed = false ∧
      (final.consumer ≠ none → final.outstanding < 3 →
        final.primeConnection.tasks = [.signal .positive, .prime]) ∧
      (∀ later, Meets step Sound final reconnect → run step final reconnect = some later →
        later.signalled = .positive) := by
  have accounted := invariant_of_step step Sound Accounted step_accounted {} final events
    accounted_start sound reached
  refine ⟨accounted.counted, UInt32.le_iff_toNat_le.mpr accounted.bounded, accounted.running,
    primeConnection_positive accounted, ?_⟩
  intro later again on
  exact reconnect_positive accounted again on

def connectAndPrime : List Event := [.connect, .primeConnection, .proceed, .proceed]

def answeredBefore : List Event := connectAndPrime ++
  [.supplyPacket { pts := 1 }, .push, .sendPacket, .supplyPacket { pts := 2 }, .push, .answer 0,
    .proceed, .proceed, .sendPacket, .answer 0, .proceed, .proceed]

theorem pushes_accounted_replaced : ∃ final later, run step {} answeredBefore = some final ∧
    final.firstPtsSinceFlush = 1 ∧ final.currentPushesOutstanding.toNat = final.outstanding ∧
    run step final reconnect = some later ∧ later.signalled = .positive :=
  ⟨_, _, rfl, rfl, (pushes_accounted answeredBefore _ (by decide) rfl).1, rfl,
    (pushes_accounted answeredBefore _ (by decide) rfl).2.2.2.2 _ (by decide) rfl⟩

def supplyTwice : List Event :=
  [.supplyPacket { pts := 1 }, .push, .supplyPacket { pts := 2 }, .push]

-- Three packets are sent and not answered when the consumer is disconnected, and the next one
-- gets none. A task that is still posted then uses an interface that is not bound.
theorem answers_lost :
    (∃ final, run step {} (connectAndPrime ++ supplyTwice ++
        [.supplyPacket { pts := 3 }, .push, .sendPacket, .sendPacket, .sendPacket] ++ reconnect) =
          some final ∧
      final.currentPushesOutstanding = 3 ∧ final.outstanding = 0 ∧ final.signalled = .negative) ∧
    ∃ final, run step {} (connectAndPrime ++ supplyTwice ++
        [.disconnect, .proceed, .proceed, .sendPacket]) = some final ∧ final.crashed = true :=
  ⟨⟨_, rfl, by decide⟩, ⟨_, rfl, rfl⟩⟩

end MojoProducer

end MojoMedia
