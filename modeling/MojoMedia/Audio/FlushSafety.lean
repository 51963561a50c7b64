import MojoMedia.Shared.Histories
import MojoMedia.Audio.LinkInvariant

set_option autoImplicit false

namespace MojoMedia.Audio.PendingQueues

open Histories

def Stale (history : List Moment) (packet : Nat) : Prop :=
  ∃ before after, history = before ++ .acknowledged :: after ∧ .received packet ∈ before

def awaitingStep (link : Nat) (awaiting : Bool) : Moment → Bool
  | .locked other _ => if other = link then false else awaiting
  | .flushed other _ => if other = link then true else awaiting
  | _ => awaiting

-- The link is new or has been flushed, and has not been locked since.
def awaiting (link : Nat) (history : List Moment) : Bool :=
  history.foldl (awaitingStep link) true

def Flushing (history : List Moment) (remaining : List Nat) : Prop :=
  ∃ links before after, history = before ++ .requested links :: after ∧
    ∀ link ∈ links, link ∈ remaining ∨ ∃ queue, .flushed link queue ∈ after

def Owes (before : List Moment) : Moment → Prop
  | .read _ packet => ¬ Stale before packet
  | .locked link wasFlushed => wasFlushed = awaiting link before
  | .acknowledged => Flushing before []
  | _ => True

def report (link : Nat) : Moment → Option Bool
  | .locked other wasFlushed => if other = link then some wasFlushed else none
  | _ => none

def reports (link : Nat) (history : List Moment) : List Bool :=
  history.filterMap (report link)

theorem stale_concat {history : List Moment} {moment : Moment} {packet : Nat}
    (stale : Stale (history ++ [moment]) packet) :
    Stale history packet ∨ moment = .acknowledged ∧ .received packet ∈ history := by
  obtain ⟨before, after, split, member⟩ := stale
  rcases split_concat split with ⟨rfl, rfl⟩ | ⟨rest, -, older⟩
  · exact .inr ⟨rfl, member⟩
  · exact .inl ⟨before, rest, older, member⟩

theorem received_of_stale {history : List Moment} {packet : Nat}
    (stale : Stale history packet) : .received packet ∈ history := by
  obtain ⟨before, after, rfl, member⟩ := stale
  exact List.mem_append_left _ member

theorem awaiting_concat (link : Nat) (history : List Moment) (moment : Moment) :
    awaiting link (history ++ [moment]) = awaitingStep link (awaiting link history) moment := by
  simp [awaiting]

theorem Flushing.concat {history : List Moment} {remaining : List Nat} (moment : Moment)
    (flushing : Flushing history remaining) : Flushing (history ++ [moment]) remaining := by
  obtain ⟨links, before, after, rfl, covered⟩ := flushing
  refine ⟨links, before, after ++ [moment], by simp, ?_⟩
  intro link member
  rcases covered link member with later | ⟨queue, done⟩
  · exact .inl later
  · exact .inr ⟨queue, List.mem_append_left _ done⟩

theorem Flushing.flushed {history : List Moment} {link : Nat} {remaining : List Nat}
    (queue : List Nat) (flushing : Flushing history (link :: remaining)) :
    Flushing (history ++ [.flushed link queue]) remaining := by
  obtain ⟨links, before, after, rfl, covered⟩ := flushing
  refine ⟨links, before, after ++ [.flushed link queue], by simp, ?_⟩
  intro other member
  rcases covered other member with later | ⟨old, done⟩
  · rcases List.mem_cons.mp later with rfl | still
    · exact .inr ⟨queue, by simp⟩
    · exact .inl still
  · exact .inr ⟨old, List.mem_append_left _ done⟩

theorem reports_between {link : Nat} {before middle rest : List Moment}
    (always : Always Owes (before ++ (middle ++ rest)))
    (unflushed : ∀ queue, .flushed link queue ∉ middle) :
    reports link middle = [] ∨
      ∃ count, reports link middle = awaiting link before :: List.replicate count false := by
  induction middle generalizing before with
  | nil => exact .inl rfl
  | cons moment middle ih =>
    have later := @ih (before ++ [moment]) (by simpa using always)
      fun queue member => unflushed queue (List.mem_cons_of_mem _ member)
    rw [awaiting_concat] at later
    by_cases mine : ∃ flag, moment = .locked link flag
    · obtain ⟨flag, rfl⟩ := mine
      have owed : flag = awaiting link before :=
        always before (.locked link flag) (middle ++ rest) rfl
      have reported : reports link (.locked link flag :: middle) =
          awaiting link before :: reports link middle := by
        simp [reports, report, ← owed]
      simp only [awaitingStep, if_true] at later
      right
      rcases later with none | ⟨count, some⟩
      · exact ⟨0, by rw [reported, none, List.replicate_zero]⟩
      · exact ⟨count + 1, by rw [reported, some, List.replicate_succ]⟩
    · have elsewhere : ∀ other flag, moment = .locked other flag → other ≠ link := by
        rintro other flag rfl rfl
        exact mine ⟨flag, rfl⟩
      have silent : report link moment = none := by
        cases moment with
        | locked other flag => simp [report, elsewhere other flag rfl]
        | _ => rfl
      have still : awaitingStep link (awaiting link before) moment = awaiting link before := by
        cases moment with
        | flushed other queue =>
          have different : other ≠ link := by
            rintro rfl
            exact unflushed queue List.mem_cons_self
          simp [awaitingStep, different]
        | locked other flag => simp [awaitingStep, elsewhere other flag rfl]
        | _ => rfl
      rw [still] at later
      simpa [reports, silent] using later

structure State.Fresh (state : State) : Prop where
  history : Always Owes state.history
  received : ∀ packet, .received packet ∈ state.history → packet < state.packets
  queues : ∀ index, ∀ packet ∈ (state.links index).queue, ¬ Stale state.history packet
  pushing : ∀ packet links, state.task = .pushing packet links → ¬ Stale state.history packet
  flushing : ∀ links, state.task = .flushing links →
    Flushing state.history links ∧ ∀ index, index ∉ links → (state.links index).queue = []
  flushed : ∀ index, (state.links index).flushed = awaiting index state.history

namespace State.Fresh

variable {state next : State}

theorem start : State.Fresh { } where
  history := always_nil Owes
  received _ member := by simp at member
  queues _ _ member := by simp at member
  pushing := nofun
  flushing := nofun
  flushed _ := rfl

theorem of_queues (fresh : state.Fresh) (history : next.history = state.history)
    (packets : next.packets = state.packets)
    (queues : ∀ index, (next.links index).queue ⊆ (state.links index).queue)
    (flushed : ∀ index, (next.links index).flushed = (state.links index).flushed)
    (task : next.task = state.task ∨ ∀ packet links, next.task ≠ .pushing packet links ∧
      next.task ≠ .flushing links) : next.Fresh := by
  refine ⟨history ▸ fresh.history, ?_, ?_, ?_, ?_, ?_⟩
  · rw [history, packets]
    exact fresh.received
  · intro index packet member
    rw [history]
    exact fresh.queues index packet (queues index member)
  · intro packet links pushing
    rw [history]
    rcases task with same | other
    · exact fresh.pushing packet links (same ▸ pushing)
    · exact absurd pushing (other packet links).1
  · intro links flushing
    rw [history]
    rcases task with same | other
    · obtain ⟨covered, empty⟩ := fresh.flushing links (same ▸ flushing)
      refine ⟨covered, fun index absent => ?_⟩
      exact List.eq_nil_of_subset_nil (empty index absent ▸ queues index)
    · exact absurd flushing (other 0 links).2
  · intro index
    rw [history, flushed, fresh.flushed]

theorem of_note (fresh : state.Fresh) (moment : Moment) (owed : Owes state.history moment)
    (minor : moment ≠ .acknowledged) (unreceived : ∀ packet, moment ≠ .received packet)
    (history : next.history = state.history ++ [moment])
    (packets : next.packets = state.packets)
    (queues : ∀ index, (next.links index).queue ⊆ (state.links index).queue)
    (flushed : ∀ index, (next.links index).flushed =
      awaitingStep index (state.links index).flushed moment)
    (pushing : ∀ packet links, next.task = .pushing packet links →
      state.task = .pushing packet links)
    (flushing : ∀ links, next.task = .flushing links →
      Flushing next.history links ∧ ∀ index, index ∉ links → (next.links index).queue = []) :
    next.Fresh := by
  have stale : ∀ packet, Stale next.history packet → Stale state.history packet := by
    intro packet now
    rw [history] at now
    exact (stale_concat now).resolve_right fun both => minor both.1
  refine ⟨history ▸ fresh.history.concat owed, ?_, ?_, ?_, flushing, ?_⟩
  · intro packet member
    rw [history, List.mem_append, List.mem_singleton] at member
    rw [packets]
    exact fresh.received packet (member.resolve_right fun same => unreceived packet same.symm)
  · exact fun index packet member now =>
      fresh.queues index packet (queues index member) (stale packet now)
  · exact fun packet links now old =>
      fresh.pushing packet links (pushing packet links now) (stale packet old)
  · intro index
    rw [flushed, fresh.flushed, history, awaiting_concat]

theorem receive (fresh : state.Fresh) : state.onPacketReceived.Fresh := by
  have unreceived : .received state.packets ∉ state.history := fun member =>
    absurd (fresh.received state.packets member) (by omega)
  have stale : ∀ packet, Stale (state.history ++ [.received state.packets]) packet →
      Stale state.history packet := by
    intro packet now
    exact (stale_concat now).resolve_right (by simp)
  refine ⟨fresh.history.concat trivial, ?_, ?_, ?_, nofun, ?_⟩
  · intro packet member
    simp only [State.onPacketReceived, State.note, List.mem_append, List.mem_singleton,
      Moment.received.injEq] at member ⊢
    rcases member with old | rfl
    · have lt := fresh.received packet old
      omega
    · omega
  · exact fun index packet member now => fresh.queues index packet member (stale packet now)
  · intro packet links pushing now
    obtain ⟨rfl, -⟩ : state.packets = packet ∧ state.outputs = links := by
      simpa [State.onPacketReceived, State.note] using pushing
    exact unreceived (received_of_stale (stale _ now))
  · intro index
    simp only [State.onPacketReceived, State.note, awaiting_concat, awaitingStep]
    exact fresh.flushed index

theorem acknowledge (fresh : state.Fresh) (task : state.task = .flushing []) :
    ({ state with task := .idle }.note .acknowledged).Fresh := by
  obtain ⟨covered, empty⟩ := fresh.flushing [] task
  refine ⟨fresh.history.concat covered, ?_, ?_, nofun, nofun, ?_⟩
  · intro packet member
    refine fresh.received packet ?_
    simpa [State.note] using member
  · -- Nothing is left in any queue that could have become stale.
    intro index packet member
    have nothing : (state.links index).queue = [] := empty index (by simp)
    simp [State.note, nothing] at member
  · intro index
    simp only [State.note, awaiting_concat, awaitingStep]
    exact fresh.flushed index

theorem push (fresh : state.Fresh) (packet index : Nat) (links : List Nat)
    (task : state.task = .pushing packet (index :: links)) :
    ({ state with task := .pushing packet links }.pushToPendingQueue index packet).Fresh := by
  have current := fresh.pushing packet _ task
  refine ⟨fresh.history, fresh.received, ?_, ?_, nofun, ?_⟩
  · intro other queued member
    by_cases same : other = index
    · subst same
      rcases (by simpa [State.pushToPendingQueue, State.setLink] using member :
        queued ∈ (state.links other).queue ∨ queued = packet) with old | rfl
      · exact fresh.queues other queued old
      · exact current
    · refine fresh.queues other queued ?_
      simpa [State.pushToPendingQueue, State.setLink, same] using member
  · intro other rest pushing
    obtain ⟨rfl, -⟩ : packet = other ∧ links = rest := by
      simpa [State.pushToPendingQueue, State.setLink] using pushing
    exact current
  · intro other
    have before := fresh.flushed other
    by_cases same : other = index
    · subst same
      simpa [State.pushToPendingQueue, State.setLink] using before
    · simpa [State.pushToPendingQueue, State.setLink, same] using before

theorem flushLink (fresh : state.Fresh) (index : Nat) (links : List Nat)
    (task : state.task = .flushing (index :: links)) :
    ({ state with task := .flushing links }.flushPendingQueue index).Fresh := by
  obtain ⟨covered, empty⟩ := fresh.flushing _ task
  refine fresh.of_note (.flushed index (state.links index).queue) trivial nofun nofun rfl rfl
    ?_ ?_ nofun ?_
  · intro other
    by_cases same : other = index
    · subst same
      simp [State.flushPendingQueue, State.setLink, State.setRelease, State.note]
    · simp [State.flushPendingQueue, State.setLink, State.setRelease, State.note, same]
  · intro other
    by_cases same : other = index
    · subst same
      simp [State.flushPendingQueue, State.setLink, State.setRelease, State.note, awaitingStep]
    · simp [State.flushPendingQueue, State.setLink, State.setRelease, State.note, awaitingStep,
        same, Ne.symm same]
  · intro rest flushing
    obtain rfl : links = rest := by
      simpa [State.flushPendingQueue, State.setLink, State.setRelease, State.note] using flushing
    refine ⟨covered.flushed _, fun other absent => ?_⟩
    by_cases same : other = index
    · subst same
      simp [State.flushPendingQueue, State.setLink, State.setRelease, State.note]
    · simpa [State.flushPendingQueue, State.setLink, State.setRelease, State.note, same] using
        empty other (by simp [same, absent])

theorem destruct (fresh : state.Fresh) (index : Nat) (thread : Thread) (task : Task)
    (outputs : List Nat)
    (settled : ∀ packet links, task ≠ .pushing packet links ∧ task ≠ .flushing links) :
    ({ state with task := task, outputs := outputs }.destruct index thread).Fresh := by
  refine fresh.of_note (.destructed index (state.links index).queue) trivial nofun nofun rfl rfl
    ?_ ?_ ?_ ?_
  · intro other
    by_cases same : other = index
    · subst same
      simp [State.destruct, State.setLink, State.setRelease, State.note]
    · simp [State.destruct, State.setLink, State.setRelease, State.note, same]
  · intro other
    by_cases same : other = index
    · subst same
      simp [State.destruct, State.setLink, State.setRelease, State.note, awaitingStep]
    · simp [State.destruct, State.setLink, State.setRelease, State.note, awaitingStep, same]
  · exact fun packet links pushing => absurd pushing (settled packet links).1
  · exact fun links flushing => absurd flushing (settled 0 links).2

theorem lock (fresh : state.Fresh) (index : Nat) : (state.lockPendingQueueFront index).Fresh := by
  have queues : ∀ other, ((state.lockPendingQueueFront index).links other).queue =
      (state.links other).queue := by
    intro other
    by_cases same : other = index
    · subst same
      simp [State.lockPendingQueueFront, State.setLink, State.note]
    · simp [State.lockPendingQueueFront, State.setLink, State.note, same]
  refine fresh.of_note (.locked index (state.links index).flushed) (fresh.flushed index)
    (by simp) (by simp) rfl rfl (fun other _ member => queues other ▸ member) ?_
    (fun _ _ pushing => pushing) ?_
  · intro other
    by_cases same : other = index
    · subst same
      simp [State.lockPendingQueueFront, State.setLink, State.note, awaitingStep]
    · simp [State.lockPendingQueueFront, State.setLink, State.note, awaitingStep, same,
        Ne.symm same]
  · intro links flushing
    obtain ⟨covered, empty⟩ := fresh.flushing links flushing
    exact ⟨covered.concat _, fun other absent => by rw [queues, empty other absent]⟩

theorem read (fresh : state.Fresh) (linked : state.Linked) (index packet : Nat)
    (front : (state.links index).front = some (some packet)) :
    (state.note (.read index packet)).Fresh := by
  have queued : packet ∈ (state.links index).queue :=
    List.mem_of_mem_head? (linked.head_of_front front)
  refine fresh.of_note (.read index packet) (fresh.queues index packet queued) nofun nofun
    rfl rfl (fun _ _ member => member) (fun _ => rfl) (fun _ _ pushing => pushing) ?_
  intro links flushing
  obtain ⟨covered, empty⟩ := fresh.flushing links flushing
  exact ⟨covered.concat _, empty⟩

theorem flush (fresh : state.Fresh) (linked : state.Linked) (alive : state.alive = true) :
    state.onFlushRequested.Fresh := by
  refine fresh.of_note (.requested state.outputs) trivial nofun nofun rfl rfl
    (fun _ _ member => member) (fun _ => rfl) nofun ?_
  intro links flushing
  obtain rfl : state.outputs = links := by
    simpa [State.onFlushRequested, State.note] using flushing
  refine ⟨⟨state.outputs, state.history, [], rfl, fun link member => .inl member⟩, ?_⟩
  exact fun index absent => (linked.detached alive index absent).1

theorem move (fresh : state.Fresh) (linked : state.Linked) (taken : Move state next) :
    next.Fresh := by
  cases taken with
  | receive ready alive => exact fresh.receive
  | flush ready alive => exact fresh.flush linked alive
  | runCleanup ready posted =>
    exact fresh.of_queues rfl rfl (fun _ _ member => member) (fun _ => rfl) (.inr (by simp))
  | attach position ready alive =>
    exact fresh.of_queues rfl rfl (fun _ _ member => member) (fun _ => rfl) (.inl rfl)
  | trackShutdown ready alive =>
    exact fresh.of_queues rfl rfl (fun _ _ member => member) (fun _ => rfl) (.inl rfl)
  | outputShutdown index ready lt present unlocked =>
    exact fresh.destruct index .main state.task (state.outputs.erase index) (by simp [ready.idle])
  | shutdown ready running =>
    exact fresh.of_queues rfl rfl (fun _ _ member => member) (fun _ => rfl) (.inr (by simp))
  | pushed packet task released =>
    exact fresh.of_queues rfl rfl (fun _ _ member => member) (fun _ => rfl)
      (.inr (by simp [State.setRelease]))
  | push packet index links task released free => exact fresh.push packet index links task
  | acknowledge task released => exact fresh.acknowledge task
  | flushLink index links task released unlocked => exact fresh.flushLink index links task
  | stopped task released =>
    exact fresh.of_queues rfl rfl (fun _ _ member => member) (fun _ => rfl) (.inr (by simp))
  | stopGone index links task released unlocked gone =>
    exact fresh.of_queues rfl rfl (fun _ _ member => member) (fun _ => rfl) (.inr (by simp))
  | stopLink index links task released unlocked present =>
    exact fresh.destruct index .main (.stopping links) state.outputs (by simp)
  | swap task released =>
    exact fresh.of_queues rfl rfl (fun _ _ member => member) (fun _ => rfl)
      (.inr (by simp [State.swapCleanupQueue]))
  | cleaned task released =>
    exact fresh.of_queues rfl rfl (fun _ _ member => member) (fun _ => rfl) (.inr (by simp))
  | answer packet packets task released =>
    exact fresh.of_queues rfl rfl (fun _ _ member => member) (fun _ => rfl) (.inr (by simp))
  | mark thread packet queue release =>
    exact fresh.of_queues rfl rfl (fun _ _ member => member) (fun _ => rfl) (.inl rfl)
  | dropShared thread packet queue release shared =>
    exact fresh.of_queues rfl rfl (fun _ _ member => member) (fun _ => rfl) (.inl rfl)
  | dropLast thread packet queue release last =>
    exact fresh.of_queues rfl rfl (fun _ _ member => member) (fun _ => rfl) (.inl rfl)
  | schedule thread packet queue release =>
    simp only [State.schedulePacketCleanup]
    split
    · exact fresh.of_queues rfl rfl (fun _ _ member => member) (fun _ => rfl) (.inl rfl)
    · exact fresh.of_queues rfl rfl (fun _ _ member => member) (fun _ => rfl) (.inl rfl)
  | lock index lt present unlocked => exact fresh.lock index
  | read index packet front => exact fresh.read linked index packet front
  | unlock index locked =>
    refine fresh.of_queues rfl rfl ?_ ?_ (.inl rfl) <;> intro other
    · by_cases same : other = index
      · subst same
        simp [State.setLink]
      · simp [State.setLink, same]
    · by_cases same : other = index
      · subst same
        simp [State.setLink]
      · simp [State.setLink, same]
  | unlockPop index packet first rest front queue =>
    refine fresh.of_queues rfl rfl ?_ ?_ (.inl rfl) <;> intro other
    · by_cases same : other = index
      · subst same
        simp [State.setLink, State.setRelease, queue]
      · simp [State.setLink, State.setRelease, same]
    · by_cases same : other = index
      · subst same
        simp [State.setLink, State.setRelease]
      · simp [State.setLink, State.setRelease, same]
  | prune index lt present unlocked dead =>
    refine fresh.destruct index (.mixer index) state.task state.outputs ?_
    -- The track is dead, so no packet is being pushed and no flush is under way.
    have carries := linked.task
    refine fun packet links => ⟨fun pushing => ?_, fun flushing => ?_⟩
    · rw [pushing] at carries
      simp [carries.2.1] at dead
    · rw [flushing] at carries
      simp [carries.1] at dead

end State.Fresh

theorem fresh_run {state : State} {events : List Event}
    (reached : Runs.run step { } events = some state) : state.Linked ∧ state.Fresh := by
  apply Runs.invariant_of_run step (fun state => state.Linked ∧ state.Fresh) _ { } state events
    ⟨.start, .start⟩ reached
  intro before event after valid taken
  have moved := step_move taken
  exact ⟨valid.1.move moved, valid.2.move valid.1 moved⟩

-- Once a flush is acknowledged every link has been flushed, and no packet received before is read
-- again; between two flushes of a link only the first lock is told of it.
theorem no_read_after_flush {state : State} {events : List Event}
    (reached : Runs.run step { } events = some state) :
    (∀ before after, state.history = before ++ .acknowledged :: after →
      (∀ link packet, .received packet ∈ before → .read link packet ∉ after) ∧
      ∃ links earlier between, before = earlier ++ .requested links :: between ∧
        ∀ link ∈ links, ∃ queue, .flushed link queue ∈ between) ∧
    ∀ link queue before middle rest,
      state.history = before ++ .flushed link queue :: (middle ++ rest) →
      (∀ other, .flushed link other ∉ middle) →
      reports link middle = [] ∨
        ∃ count, reports link middle = true :: List.replicate count false := by
  have history := (fresh_run reached).2.history
  refine ⟨fun before after split => ⟨?_, ?_⟩, ?_⟩
  · intro link packet received read
    have always : Always Owes ((before ++ [.acknowledged]) ++ after) := by
      simpa [split] using history
    obtain ⟨between, -, owed⟩ := always.mem read
    exact owed ⟨before, between, by simp, received⟩
  · obtain ⟨links, earlier, between, shape, covered⟩ := history before _ after split
    refine ⟨links, earlier, between, shape, fun link member => ?_⟩
    exact (covered link member).resolve_left (by simp)
  · intro link queue before middle rest split unflushed
    have always : Always Owes ((before ++ [.flushed link queue]) ++ (middle ++ rest)) := by
      simpa [split] using history
    simpa [awaiting_concat, awaitingStep] using reports_between always unflushed

def flushWhileMixing : List Event :=
  [ .attach 0, .receive, .main, .main, .work .main,
    .lock 0, .read 0, .unlock 0 false,
    .flush, .main, .work .main, .work .main, .work .main, .main,
    .receive, .main, .main, .work .main,
    .lock 0, .read 0, .unlock 0 false, .lock 0, .read 0, .unlock 0 true ]

theorem flush_while_mixing_not_read_again :
    ∃ state, Runs.run step { } flushWhileMixing = some state ∧
      ∃ before after, state.history = before ++ .acknowledged :: after ∧
        .received 0 ∈ before ∧ .read 0 0 ∉ after ∧ .read 0 1 ∈ after ∧
        reports 0 after = [true, false] := by
  have outcome : (Runs.run step { } flushWhileMixing).any (fun state =>
      state.history =
        [ .received 0, .locked 0 true, .read 0 0, .requested [0], .flushed 0 [0] ] ++
          .acknowledged :: [ .received 1, .locked 0 true, .read 0 1, .locked 0 false,
            .read 0 1 ]) = true := by
    decide +kernel
  obtain ⟨state, reached, split⟩ := (Option.any_eq_true _ _).mp outcome
  simp only [decide_eq_true_eq] at split
  refine ⟨state, reached, _, _, split, by decide, ?_, by decide, by decide⟩
  exact ((no_read_after_flush reached).1 _ _ split).1 0 0 (by decide)

end MojoMedia.Audio.PendingQueues
