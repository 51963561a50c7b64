import Mathlib.Logic.Function.Basic
import MojoMedia.Shared.Runs

set_option autoImplicit false

-- Sections under one lock are single steps; what a thread does between them is interleaved with
-- the steps of the others. Packets are numbered in the order in which they are received.
namespace MojoMedia.Audio.PendingQueues

inductive SendResult where
  | consumed
  | flushed
  deriving Repr, DecidableEq

def SendResult.setResult : SendResult → SendResult → SendResult
  | .consumed, result => result
  | .flushed, _ => .flushed

inductive Thread where
  | main
  | mixer (link : Nat)
  deriving Repr, DecidableEq

-- Where a thread stands in `ReleaseQueue`: at the head of its loop, about to reset the
-- reference it has marked, or in the destructor of the packet it was the last to hold.
inductive Release where
  | loop (queue : List Nat)
  | reset (packet : Nat) (queue : List Nat)
  | schedule (packet : Nat) (queue : List Nat)
  deriving Repr, DecidableEq

def Release.references : Release → List Nat
  | .loop queue => queue
  | .reset packet queue => packet :: queue
  | .schedule _ queue => queue

inductive Task where
  | idle
  | pushing (packet : Nat) (links : List Nat)
  | flushing (links : List Nat)
  | stopping (links : List Nat)
  | cleaning
  | answering (packets : List Nat)
  deriving Repr, DecidableEq

def Task.references : Task → List Nat
  | .pushing packet _ => [packet]
  | _ => []

-- `front` is what the mixer got from `LockPendingQueueFront`, while it holds the flush
-- lock; `gone` is set when the link is destructed.
structure Link where
  queue : List Nat := []
  flushed : Bool := true
  front : Option (Option Nat) := none
  gone : Bool := false
  deriving Repr, DecidableEq

def Link.references (link : Link) : List Nat :=
  link.queue ++ link.front.join.toList

inductive Moment where
  | received (packet : Nat)
  | locked (link : Nat) (wasFlushed : Bool)
  | read (link packet : Nat)
  | flushed (link : Nat) (queue : List Nat)
  | destructed (link : Nat) (queue : List Nat)
  | requested (links : List Nat)
  | acknowledged
  deriving Repr, DecidableEq

-- `history` records what happened and is read by no step.
structure State where
  packets : Nat := 0
  result : Nat → SendResult := fun _ => .consumed
  task : Task := .idle
  release : Thread → Release := fun _ => .loop []
  links : Nat → Link := fun _ => { }
  count : Nat := 0
  outputs : List Nat := []
  alive : Bool := true
  shuttingDown : Bool := false
  cleanupQueue : List Nat := []
  cleanupScheduled : Bool := false
  posted : Nat := 0
  answered : List (Nat × SendResult) := []
  history : List Moment := []

def State.setRelease (state : State) (thread : Thread) (release : Release) : State :=
  { state with release := Function.update state.release thread release }

def State.setLink (state : State) (index : Nat) (link : Link) : State :=
  { state with links := Function.update state.links index link }

def State.note (state : State) (moment : Moment) : State :=
  { state with history := state.history ++ [moment] }

def State.referenced (state : State) (packet : Nat) : Bool :=
  packet ∈ state.task.references ∨ packet ∈ (state.release .main).references ∨
    ∃ index < state.count, packet ∈ (state.release (.mixer index)).references ∨
      packet ∈ (state.links index).references

def State.pushToPendingQueue (state : State) (index packet : Nat) : State :=
  let link := state.links index
  state.setLink index { link with queue := link.queue ++ [packet] }

def State.flushPendingQueue (state : State) (index : Nat) : State :=
  let link := state.links index
  ((state.setLink index { link with queue := [], flushed := true }).setRelease .main
    (.loop link.queue)).note (.flushed index link.queue)

def State.lockPendingQueueFront (state : State) (index : Nat) : State :=
  let link := state.links index
  (state.setLink index { link with flushed := false, front := some link.queue.head? }).note
    (.locked index link.flushed)

-- The mixer's own reference is not the last: the queue still has its front. Both locks
-- are held until the reference that `pop_front` drops has been dealt with.
def State.unlockPendingQueueFront (state : State) (index : Nat) (packet : Option Nat)
    (releasePacket : Bool) : Option State :=
  let link := state.links index
  if packet.isSome ∧ releasePacket then
    match link.queue with
    | [] => none
    | first :: rest =>
      some ((state.setLink index { link with queue := rest, front := none }).setRelease
        (.mixer index) (.reset first []))
  else some (state.setLink index { link with front := none })

def State.destruct (state : State) (index : Nat) (thread : Thread) : State :=
  let link := state.links index
  ((state.setLink index { link with queue := [], gone := true }).setRelease thread
    (.loop link.queue)).note (.destructed index link.queue)

def State.schedulePacketCleanup (state : State) (packet : Nat) : State :=
  let queued := { state with cleanupQueue := state.cleanupQueue ++ [packet] }
  if ¬ state.cleanupScheduled ∧ ¬ state.shuttingDown then
    { queued with
      cleanupScheduled := true
      posted := state.posted + 1 }
  else queued

def State.swapCleanupQueue (state : State) : State :=
  { state with
    task := .answering state.cleanupQueue
    cleanupQueue := []
    cleanupScheduled := false }

-- One step of a thread that is in `ReleaseQueue`, or that has dropped a reference.
def State.work (state : State) (thread : Thread) : Option State :=
  match state.release thread with
  | .loop [] => none
  | .loop (packet :: queue) =>
    some ({ state with
      result := Function.update state.result packet ((state.result packet).setResult .flushed) }
        |>.setRelease thread (.reset packet queue))
  | .reset packet queue =>
    let dropped := state.setRelease thread (.loop queue)
    some (if dropped.referenced packet then dropped
      else state.setRelease thread (.schedule packet queue))
  | .schedule packet queue =>
    some ((state.setRelease thread (.loop queue)).schedulePacketCleanup packet)

def State.unlocked (state : State) (index : Nat) : Bool :=
  (state.links index).front = none ∧ state.release (.mixer index) = .loop []

def State.continueTask (state : State) : Option State :=
  match state.task with
  | .idle => none
  | .pushing packet [] =>
    some ({ state with task := .idle }.setRelease .main (.reset packet []))
  | .pushing packet (index :: links) =>
    -- The queue's lock is held by a mixer that is letting go of its front.
    if state.release (.mixer index) = .loop [] then
      some ({ state with task := .pushing packet links }.pushToPendingQueue index packet)
    else none
  | .flushing [] => some ({ state with task := .idle }.note .acknowledged)
  | .flushing (index :: links) =>
    if state.unlocked index then
      some ({ state with task := .flushing links }.flushPendingQueue index)
    else none
  | .stopping [] => some { state with task := .cleaning }
  | .stopping (index :: links) =>
    -- `AudioOutput::Shutdown` waits for the processing that is under way.
    if state.unlocked index then
      let stopped := { state with task := .stopping links }
      some (if (state.links index).gone then stopped else stopped.destruct index .main)
    else none
  | .cleaning => some state.swapCleanupQueue
  | .answering [] => some { state with task := .idle }
  | .answering (packet :: packets) =>
    some { state with
      task := .answering packets
      answered := state.answered ++ [(packet, state.result packet)] }

inductive Event where
  | receive
  | flush
  | runCleanup
  | attach (position : Nat)
  | trackShutdown
  | outputShutdown (link : Nat)
  | shutdown
  | main
  | work (thread : Thread)
  | lock (link : Nat)
  | read (link : Nat)
  | unlock (link : Nat) (releasePacket : Bool)
  | prune (link : Nat)
  deriving Repr, DecidableEq

def State.ready (state : State) : Bool :=
  state.task = .idle ∧ state.release .main = .loop []

def State.onPacketReceived (state : State) : State :=
  { state with
    packets := state.packets + 1
    task := .pushing state.packets state.outputs }.note (.received state.packets)

def State.onFlushRequested (state : State) : State :=
  { state with task := .flushing state.outputs }.note (.requested state.outputs)

-- A set of pointers iterates in an order of its own: the new link may come anywhere.
def State.addOutput (state : State) (position : Nat) : State :=
  { state with
    count := state.count + 1
    outputs := state.outputs.take position ++ state.count :: state.outputs.drop position }

def State.removeOutput (state : State) (index : Nat) : State :=
  { state with outputs := state.outputs.erase index }

def State.trackShutdown (state : State) : State :=
  { state with
    alive := false
    outputs := [] }

def step (state : State) : Event → Option State
  | .receive => if state.ready ∧ state.alive then some state.onPacketReceived else none
  | .flush =>
    if state.ready ∧ state.alive then some state.onFlushRequested else none
  | .runCleanup =>
    if state.ready ∧ 0 < state.posted then
      some { state with
        posted := state.posted - 1
        task := .cleaning }
    else none
  | .attach position =>
    if state.ready ∧ state.alive then some (state.addOutput position) else none
  | .trackShutdown => if state.ready ∧ state.alive then some state.trackShutdown else none
  | .outputShutdown index =>
    if state.ready ∧ index < state.count ∧ ¬ (state.links index).gone ∧
        state.unlocked index then
      some ((state.removeOutput index).destruct index .main)
    else none
  | .shutdown =>
    if state.ready ∧ ¬ state.shuttingDown then
      some { state.trackShutdown with
        shuttingDown := true
        task := .stopping (List.range state.count) }
    else none
  | .main => if state.release .main = .loop [] then state.continueTask else none
  | .work thread => state.work thread
  | .lock index =>
    if index < state.count ∧ ¬ (state.links index).gone ∧ state.unlocked index then
      some (state.lockPendingQueueFront index)
    else none
  | .read index =>
    match (state.links index).front with
    | some (some packet) => some (state.note (.read index packet))
    | _ => none
  | .unlock index releasePacket =>
    match (state.links index).front with
    | some packet => state.unlockPendingQueueFront index packet releasePacket
    | none => none
  | .prune index =>
    -- The track's weak pointer fails only once the track is shut down.
    if index < state.count ∧ ¬ (state.links index).gone ∧ state.unlocked index ∧
        ¬ state.alive then
      some (state.destruct index (.mixer index))
    else none

structure State.Ready (state : State) : Prop where
  idle : state.task = .idle
  released : state.release .main = .loop []

structure State.Unlocked (state : State) (index : Nat) : Prop where
  front : (state.links index).front = none
  released : state.release (.mixer index) = .loop []

inductive Move (state : State) : State → Prop where
  | receive (ready : state.Ready) (alive : state.alive = true) : Move state state.onPacketReceived
  | flush (ready : state.Ready) (alive : state.alive = true) : Move state state.onFlushRequested
  | runCleanup (ready : state.Ready) (posted : 0 < state.posted) :
      Move state { state with
        posted := state.posted - 1
        task := .cleaning }
  | attach (position : Nat) (ready : state.Ready) (alive : state.alive = true) :
      Move state (state.addOutput position)
  | trackShutdown (ready : state.Ready) (alive : state.alive = true) :
      Move state state.trackShutdown
  | outputShutdown (index : Nat) (ready : state.Ready) (lt : index < state.count)
      (present : (state.links index).gone = false) (unlocked : state.Unlocked index) :
      Move state ((state.removeOutput index).destruct index .main)
  | shutdown (ready : state.Ready) (running : state.shuttingDown = false) :
      Move state { state.trackShutdown with
        shuttingDown := true
        task := .stopping (List.range state.count) }
  | pushed (packet : Nat) (task : state.task = .pushing packet [])
      (released : state.release .main = .loop []) :
      Move state ({ state with task := .idle }.setRelease .main (.reset packet []))
  | push (packet index : Nat) (links : List Nat)
      (task : state.task = .pushing packet (index :: links))
      (released : state.release .main = .loop [])
      (free : state.release (.mixer index) = .loop []) :
      Move state ({ state with task := .pushing packet links }.pushToPendingQueue index packet)
  | acknowledge (task : state.task = .flushing [])
      (released : state.release .main = .loop []) :
      Move state ({ state with task := .idle }.note .acknowledged)
  | flushLink (index : Nat) (links : List Nat) (task : state.task = .flushing (index :: links))
      (released : state.release .main = .loop []) (unlocked : state.Unlocked index) :
      Move state ({ state with task := .flushing links }.flushPendingQueue index)
  | stopped (task : state.task = .stopping []) (released : state.release .main = .loop []) :
      Move state { state with task := .cleaning }
  | stopGone (index : Nat) (links : List Nat) (task : state.task = .stopping (index :: links))
      (released : state.release .main = .loop []) (unlocked : state.Unlocked index)
      (gone : (state.links index).gone = true) :
      Move state { state with task := .stopping links }
  | stopLink (index : Nat) (links : List Nat) (task : state.task = .stopping (index :: links))
      (released : state.release .main = .loop []) (unlocked : state.Unlocked index)
      (present : (state.links index).gone = false) :
      Move state ({ state with task := .stopping links }.destruct index .main)
  | swap (task : state.task = .cleaning) (released : state.release .main = .loop []) :
      Move state state.swapCleanupQueue
  | cleaned (task : state.task = .answering []) (released : state.release .main = .loop []) :
      Move state { state with task := .idle }
  | answer (packet : Nat) (packets : List Nat)
      (task : state.task = .answering (packet :: packets))
      (released : state.release .main = .loop []) :
      Move state { state with
        task := .answering packets
        answered := state.answered ++ [(packet, state.result packet)] }
  | mark (thread : Thread) (packet : Nat) (queue : List Nat)
      (release : state.release thread = .loop (packet :: queue)) :
      Move state ({ state with
        result := Function.update state.result packet
          ((state.result packet).setResult .flushed) }.setRelease thread (.reset packet queue))
  | dropShared (thread : Thread) (packet : Nat) (queue : List Nat)
      (release : state.release thread = .reset packet queue)
      (shared : (state.setRelease thread (.loop queue)).referenced packet = true) :
      Move state (state.setRelease thread (.loop queue))
  | dropLast (thread : Thread) (packet : Nat) (queue : List Nat)
      (release : state.release thread = .reset packet queue)
      (last : (state.setRelease thread (.loop queue)).referenced packet = false) :
      Move state (state.setRelease thread (.schedule packet queue))
  | schedule (thread : Thread) (packet : Nat) (queue : List Nat)
      (release : state.release thread = .schedule packet queue) :
      Move state ((state.setRelease thread (.loop queue)).schedulePacketCleanup packet)
  | lock (index : Nat) (lt : index < state.count)
      (present : (state.links index).gone = false) (unlocked : state.Unlocked index) :
      Move state (state.lockPendingQueueFront index)
  | read (index packet : Nat) (front : (state.links index).front = some (some packet)) :
      Move state (state.note (.read index packet))
  | unlock (index : Nat) (locked : (state.links index).front.isSome) :
      Move state (state.setLink index { state.links index with front := none })
  | unlockPop (index packet first : Nat) (rest : List Nat)
      (front : (state.links index).front = some (some packet))
      (queue : (state.links index).queue = first :: rest) :
      Move state ((state.setLink index { state.links index with
        queue := rest
        front := none }).setRelease (.mixer index) (.reset first []))
  | prune (index : Nat) (lt : index < state.count)
      (present : (state.links index).gone = false) (unlocked : state.Unlocked index)
      (dead : state.alive = false) : Move state (state.destruct index (.mixer index))

theorem ready_iff (state : State) : state.ready = true ↔ state.Ready := by
  simp only [State.ready, decide_eq_true_eq]
  exact ⟨fun ⟨idle, released⟩ => ⟨idle, released⟩, fun ⟨idle, released⟩ => ⟨idle, released⟩⟩

theorem unlocked_iff (state : State) (index : Nat) :
    state.unlocked index = true ↔ state.Unlocked index := by
  simp only [State.unlocked, decide_eq_true_eq]
  exact ⟨fun ⟨front, released⟩ => ⟨front, released⟩, fun ⟨front, released⟩ => ⟨front, released⟩⟩

theorem work_move {state next : State} {thread : Thread}
    (taken : state.work thread = some next) : Move state next := by
  simp only [State.work] at taken
  split at taken
  next => simp at taken
  next packet queue release =>
    cases taken
    exact .mark thread packet queue release
  next packet queue release =>
    simp only [Option.some.injEq] at taken
    split at taken
    · next shared => exact taken ▸ .dropShared thread packet queue release shared
    · next last => exact taken ▸ .dropLast thread packet queue release (by simpa using last)
  next packet queue release =>
    cases taken
    exact .schedule thread packet queue release

theorem continueTask_move {state next : State} (released : state.release .main = .loop [])
    (taken : state.continueTask = some next) : Move state next := by
  simp only [State.continueTask] at taken
  split at taken
  next => simp at taken
  next packet task =>
    cases taken
    exact .pushed packet task released
  next packet index links task =>
    split at taken
    · next free =>
      cases taken
      exact .push packet index links task released free
    · simp at taken
  next task =>
    cases taken
    exact .acknowledge task released
  next index links task =>
    split at taken
    · next unlocked =>
      cases taken
      exact .flushLink index links task released ((unlocked_iff state index).mp unlocked)
    · simp at taken
  next task =>
    cases taken
    exact .stopped task released
  next index links task =>
    split at taken
    · next unlocked =>
      have unlocked := (unlocked_iff state index).mp unlocked
      simp only [Option.some.injEq] at taken
      split at taken
      · next gone => exact taken ▸ .stopGone index links task released unlocked gone
      · next present =>
        exact taken ▸ .stopLink index links task released unlocked (by simpa using present)
    · simp at taken
  next task =>
    cases taken
    exact .swap task released
  next task =>
    cases taken
    exact .cleaned task released
  next packet packets task =>
    cases taken
    exact .answer packet packets task released

theorem unlock_move {state next : State} {index : Nat} {packet : Option Nat}
    {releasePacket : Bool} (front : (state.links index).front = some packet)
    (taken : state.unlockPendingQueueFront index packet releasePacket = some next) :
    Move state next := by
  simp only [State.unlockPendingQueueFront] at taken
  split at taken
  · next popped =>
    obtain ⟨locked, rfl⟩ := Option.isSome_iff_exists.mp popped.1
    split at taken
    · simp at taken
    · next first rest queue =>
      cases taken
      exact .unlockPop index locked first rest front queue
  · cases taken
    exact .unlock index (by simp [front])

theorem step_move {state next : State} {event : Event} (taken : step state event = some next) :
    Move state next := by
  cases event with
  | main =>
    simp only [step, Option.ite_none_right_eq_some] at taken
    exact continueTask_move taken.1 taken.2
  | work thread => exact work_move taken
  | read index =>
    simp only [step] at taken
    split at taken
    · next packet front =>
      cases taken
      exact .read index packet front
    · simp at taken
  | unlock index releasePacket =>
    simp only [step] at taken
    split at taken
    · next packet front => exact unlock_move front taken
    · simp at taken
  | receive =>
    simp only [step, ready_iff, Option.ite_none_right_eq_some, Option.some.injEq] at taken
    obtain ⟨⟨ready, alive⟩, rfl⟩ := taken
    exact .receive ready alive
  | flush =>
    simp only [step, ready_iff, Option.ite_none_right_eq_some, Option.some.injEq] at taken
    obtain ⟨⟨ready, alive⟩, rfl⟩ := taken
    exact .flush ready alive
  | runCleanup =>
    simp only [step, ready_iff, Option.ite_none_right_eq_some, Option.some.injEq] at taken
    obtain ⟨⟨ready, posted⟩, rfl⟩ := taken
    exact .runCleanup ready posted
  | attach position =>
    simp only [step, ready_iff, Option.ite_none_right_eq_some, Option.some.injEq] at taken
    obtain ⟨⟨ready, alive⟩, rfl⟩ := taken
    exact .attach position ready alive
  | trackShutdown =>
    simp only [step, ready_iff, Option.ite_none_right_eq_some, Option.some.injEq] at taken
    obtain ⟨⟨ready, alive⟩, rfl⟩ := taken
    exact .trackShutdown ready alive
  | outputShutdown index =>
    simp only [step, ready_iff, unlocked_iff, Option.ite_none_right_eq_some, Option.some.injEq,
      Bool.not_eq_true] at taken
    obtain ⟨⟨ready, lt, present, unlocked⟩, rfl⟩ := taken
    exact .outputShutdown index ready lt present unlocked
  | shutdown =>
    simp only [step, ready_iff, Option.ite_none_right_eq_some, Option.some.injEq,
      Bool.not_eq_true] at taken
    obtain ⟨⟨ready, running⟩, rfl⟩ := taken
    exact .shutdown ready running
  | lock index =>
    simp only [step, unlocked_iff, Option.ite_none_right_eq_some, Option.some.injEq,
      Bool.not_eq_true] at taken
    obtain ⟨⟨lt, present, unlocked⟩, rfl⟩ := taken
    exact .lock index lt present unlocked
  | prune index =>
    simp only [step, unlocked_iff, Option.ite_none_right_eq_some, Option.some.injEq,
      Bool.not_eq_true] at taken
    obtain ⟨⟨lt, present, unlocked, dead⟩, rfl⟩ := taken
    exact .prune index lt present unlocked dead

end MojoMedia.Audio.PendingQueues
