import MojoMedia.Audio.ReferenceLedger

set_option autoImplicit false

namespace MojoMedia.Audio.PendingQueues

open ReleaseOrder

def Moment.released : Moment → List Nat
  | .flushed _ queue => queue
  | .destructed _ queue => queue
  | _ => []

def State.Flushed (state : State) (packet : Nat) : Prop :=
  ∃ moment ∈ state.history, packet ∈ moment.released

def Release.queue : Release → List Nat
  | .loop queue => queue
  | .reset _ queue => queue
  | .schedule _ queue => queue

@[simp] theorem queue_loop (queue : List Nat) : (Release.loop queue).queue = queue := rfl

@[simp] theorem queue_reset (packet : Nat) (queue : List Nat) :
    (Release.reset packet queue).queue = queue := rfl

@[simp] theorem queue_schedule (packet : Nat) (queue : List Nat) :
    (Release.schedule packet queue).queue = queue := rfl

theorem queue_subset_held (release : Release) : release.queue ⊆ release.held := by
  cases release <;> simp

theorem flushed_note {state next : State} {moment : Moment}
    (history : next.history = state.history ++ [moment]) (packet : Nat) :
    next.Flushed packet ↔ state.Flushed packet ∨ packet ∈ moment.released := by
  simp only [State.Flushed, history, List.mem_append, List.mem_singleton]
  constructor
  · rintro ⟨other, old | rfl, member⟩
    · exact .inl ⟨other, old, member⟩
    · exact .inr member
  · rintro (⟨other, old, member⟩ | member)
    · exact ⟨other, .inl old, member⟩
    · exact ⟨moment, .inr rfl, member⟩

structure State.Marked (state : State) : Prop where
  unmarked : ∀ thread, ∀ packet ∈ (state.release thread).queue, state.Flushed packet
  marked : ∀ packet, state.Flushed packet →
    state.result packet = .flushed ∨ ∃ thread, packet ∈ (state.release thread).queue
  result : ∀ packet, state.result packet = .flushed → state.Flushed packet
  answered : ∀ packet result, (packet, result) ∈ state.answered →
    (result = .flushed ↔ state.Flushed packet)

namespace State.Marked

variable {state next : State}

theorem start : State.Marked { } where
  unmarked _ _ member := by simp at member
  marked _ := by simp [State.Flushed]
  result _ := nofun
  answered _ _ := by simp

theorem congr (marked : state.Marked) (result : next.result = state.result)
    (answered : next.answered = state.answered)
    (queues : ∀ thread, (next.release thread).queue = (state.release thread).queue)
    (flushed : ∀ packet, next.Flushed packet ↔ state.Flushed packet) : next.Marked where
  unmarked := by simpa [queues, flushed] using marked.unmarked
  marked := by simpa [queues, flushed, result] using marked.marked
  result := by simpa [flushed, result] using marked.result
  answered := by simpa [flushed, answered] using marked.answered

theorem retired_lt (sound : state.ledger.Sound) {packet : Nat}
    (member : packet ∈ state.ledger.retired) : packet < state.ledger.retired.length := by
  rw [sound.ordered] at member
  simpa using member

theorem answered_retired {packet : Nat} {result : SendResult}
    (member : (packet, result) ∈ state.answered) : packet ∈ state.ledger.retired := by
  have : packet ∈ state.answered.map Prod.fst := List.mem_map.mpr ⟨_, member, rfl⟩
  simp only [State.ledger, List.mem_append]
  exact .inl (.inl this)

theorem answer (marked : state.Marked) (sound : state.ledger.Sound) (packet : Nat)
    (packets : List Nat) (task : state.task = .answering (packet :: packets)) :
    ({ state with
      task := .answering packets
      answered := state.answered ++ [(packet, state.result packet)] } : State).Marked := by
  refine ⟨marked.unmarked, marked.marked, marked.result, ?_⟩
  intro other result member
  rcases List.mem_append.mp member with old | new
  · exact marked.answered other result old
  · obtain ⟨rfl, rfl⟩ : other = packet ∧ result = state.result packet := by simpa using new
    refine ⟨marked.result other, fun flushed => ?_⟩
    rcases marked.marked other flushed with done | ⟨thread, queued⟩
    · exact done
    · have held : other ∈ state.ledger.held thread :=
        List.mem_append_left _ (queue_subset_held _ queued)
      have waiting : other ∈ state.ledger.retired := by
        simp [State.ledger, task, Task.waiting]
      have lt := retired_lt sound waiting
      have le := sound.live thread other held
      omega

theorem mark (marked : state.Marked) (thread : Thread) (packet : Nat) (queue : List Nat)
    (release : state.release thread = .loop (packet :: queue)) :
    ({ state with
      result := Function.update state.result packet
        ((state.result packet).setResult .flushed) }.setRelease thread
          (.reset packet queue)).Marked := by
  have exchanged : (state.result packet).setResult .flushed = .flushed := by
    cases state.result packet <;> rfl
  have flushed : state.Flushed packet := marked.unmarked thread packet (by simp [release])
  refine ⟨?_, ?_, ?_, marked.answered⟩
  · intro other held member
    refine marked.unmarked other held ?_
    by_cases same : other = thread
    · subst same
      have kept : held ∈ queue := by simpa [State.setRelease] using member
      simp [release, kept]
    · simpa [State.setRelease, Function.update_of_ne same] using member
  · intro other before
    by_cases same : other = packet
    · subst same
      exact .inl (by simp [State.setRelease, exchanged])
    · rcases marked.marked other before with done | ⟨owner, queued⟩
      · exact .inl (by simpa [State.setRelease, Function.update_of_ne same] using done)
      · refine .inr ⟨owner, ?_⟩
        by_cases mine : owner = thread
        · subst mine
          simpa [State.setRelease, release, same] using queued
        · simpa [State.setRelease, Function.update_of_ne mine] using queued
  · intro other done
    by_cases same : other = packet
    · exact same ▸ flushed
    · exact marked.result other
        (by simpa [State.setRelease, Function.update_of_ne same] using done)

theorem take (marked : state.Marked) (sound : state.ledger.Sound) (thread : Thread)
    (index : Nat) (moment : Moment) (idle : state.release thread = .loop [])
    (released : moment.released = (state.links index).queue)
    (history : next.history = state.history ++ [moment])
    (release : next.release =
      Function.update state.release thread (.loop (state.links index).queue))
    (result : next.result = state.result) (answered : next.answered = state.answered) :
    next.Marked := by
  have flushed := flushed_note history
  rw [released] at flushed
  refine ⟨?_, ?_, ?_, ?_⟩
  · intro other packet member
    rw [flushed]
    by_cases same : other = thread
    · subst same
      exact .inr (by simpa [release] using member)
    · refine .inl (marked.unmarked other packet ?_)
      simpa [release, Function.update_of_ne same] using member
  · intro packet before
    rw [result]
    rcases (flushed packet).mp before with old | new
    · rcases marked.marked packet old with done | ⟨owner, queued⟩
      · exact .inl done
      · have different : owner ≠ thread := by
          rintro rfl
          simp [idle] at queued
        exact .inr ⟨owner, by simpa [release, Function.update_of_ne different] using queued⟩
    · exact .inr ⟨thread, by simpa [release] using new⟩
  · intro packet done
    rw [result] at done
    exact (flushed packet).mpr (.inl (marked.result packet done))
  · intro packet outcome member
    rw [answered] at member
    rw [flushed, marked.answered packet outcome member]
    refine ⟨.inl, fun either => either.resolve_right fun queued => ?_⟩
    have held : packet ∈ state.ledger.held (.mixer index) := List.mem_append_right _ queued
    have lt := retired_lt sound (answered_retired member)
    have le := sound.live (.mixer index) packet held
    omega

theorem queues_setRelease {release : Release} {thread : Thread}
    (same : release.queue = (state.release thread).queue) (other : Thread) :
    ((state.setRelease thread release).release other).queue = (state.release other).queue := by
  by_cases mine : other = thread
  · subst mine
    simp [State.setRelease, same]
  · simp [State.setRelease, Function.update_of_ne mine]

theorem move (marked : state.Marked) (linked : state.Linked) (sound : state.ledger.Sound)
    (taken : Move state next) : next.Marked := by
  have same : ∀ {other : State}, other.history = state.history →
      ∀ packet, other.Flushed packet ↔ state.Flushed packet := by
    intro other history packet
    simp [State.Flushed, history]
  have noted : ∀ {other : State} (moment : Moment), moment.released = [] →
      other.history = state.history ++ [moment] →
      ∀ packet, other.Flushed packet ↔ state.Flushed packet := by
    intro other moment nothing history packet
    simp [flushed_note history packet, nothing]
  cases taken with
  | receive ready alive =>
    exact marked.congr rfl rfl (fun _ => rfl) (noted (.received _) rfl rfl)
  | flush ready alive =>
    exact marked.congr rfl rfl (fun _ => rfl) (noted (.requested _) rfl rfl)
  | runCleanup ready posted => exact marked.congr rfl rfl (fun _ => rfl) (same rfl)
  | attach position ready alive => exact marked.congr rfl rfl (fun _ => rfl) (same rfl)
  | trackShutdown ready alive => exact marked.congr rfl rfl (fun _ => rfl) (same rfl)
  | outputShutdown index ready lt present unlocked =>
    exact marked.take sound .main index (.destructed index _) ready.released rfl rfl rfl rfl rfl
  | shutdown ready running => exact marked.congr rfl rfl (fun _ => rfl) (same rfl)
  | pushed packet task released =>
    exact marked.congr rfl rfl (queues_setRelease (by simp [released])) (same rfl)
  | push packet index links task released free =>
    exact marked.congr rfl rfl (fun _ => rfl) (same rfl)
  | acknowledge task released =>
    exact marked.congr rfl rfl (fun _ => rfl) (noted .acknowledged rfl rfl)
  | flushLink index links task released unlocked =>
    exact marked.take sound .main index (.flushed index _) released rfl rfl rfl rfl rfl
  | stopped task released => exact marked.congr rfl rfl (fun _ => rfl) (same rfl)
  | stopGone index links task released unlocked gone =>
    exact marked.congr rfl rfl (fun _ => rfl) (same rfl)
  | stopLink index links task released unlocked present =>
    exact marked.take sound .main index (.destructed index _) released rfl rfl rfl rfl rfl
  | swap task released => exact marked.congr rfl rfl (fun _ => rfl) (same rfl)
  | cleaned task released => exact marked.congr rfl rfl (fun _ => rfl) (same rfl)
  | answer packet packets task released => exact marked.answer sound packet packets task
  | mark thread packet queue release => exact marked.mark thread packet queue release
  | dropShared thread packet queue release shared =>
    exact marked.congr rfl rfl (queues_setRelease (by simp [release])) (same rfl)
  | dropLast thread packet queue release last =>
    exact marked.congr rfl rfl (queues_setRelease (by simp [release])) (same rfl)
  | schedule thread packet queue release =>
    have dropped : (state.setRelease thread (.loop queue)).Marked :=
      marked.congr rfl rfl (queues_setRelease (by simp [release])) (same rfl)
    simp only [State.schedulePacketCleanup]
    split
    · exact dropped.congr rfl rfl (fun _ => rfl) (same rfl)
    · exact dropped.congr rfl rfl (fun _ => rfl) (same rfl)
  | lock index lt present unlocked =>
    exact marked.congr rfl rfl (fun _ => rfl) (noted (.locked index _) rfl rfl)
  | read index packet front =>
    exact marked.congr rfl rfl (fun _ => rfl) (noted (.read index packet) rfl rfl)
  | unlock index locked => exact marked.congr rfl rfl (fun _ => rfl) (same rfl)
  | unlockPop index packet first rest front queue =>
    have idle := (linked.valid index).locked (by simp [front])
    exact marked.congr rfl rfl (queues_setRelease (by simp [State.setLink, idle])) (same rfl)
  | prune index lt present unlocked dead =>
    exact marked.take sound (.mixer index) index (.destructed index _) unlocked.released
      rfl rfl rfl rfl rfl

end State.Marked

def State.Finished (state : State) (index : Nat) : Prop :=
  index < state.count →
    (state.links index).gone = true ∧ state.release (.mixer index) = .loop []

def State.Stops (state : State) : Task → Prop
  | .stopping links => ∀ index, index ∉ links → state.Finished index
  | .cleaning => state.release .main = .loop [] ∧ ∀ index, state.Finished index
  | .pushing _ _ => False
  | .flushing _ => False
  | _ => state.release .main = .loop [] ∧ (∀ index, state.Finished index) ∧
    state.cleanupQueue = []

-- A task has been posted for whatever is in the cleanup queue, unless the server is
-- shutting down: then it cleans up by itself after the last link is gone.
structure State.Scheduled (state : State) : Prop where
  queued : state.cleanupQueue ≠ [] → state.cleanupScheduled = true ∨ state.shuttingDown = true
  posted : state.cleanupScheduled = true → 0 < state.posted ∨ state.task = .cleaning
  stopped : state.shuttingDown = true → state.alive = false ∧ state.Stops state.task

namespace State.Scheduled

variable {state next : State}

theorem start : State.Scheduled { } := ⟨nofun, nofun, nofun⟩

theorem congr (scheduled : state.Scheduled) (queue : next.cleanupQueue = state.cleanupQueue)
    (flag : next.cleanupScheduled = state.cleanupScheduled)
    (posted : next.posted = state.posted) (stopping : next.shuttingDown = state.shuttingDown)
    (task : state.task = .cleaning → next.task = .cleaning)
    (stops : state.shuttingDown = true → state.alive = false → state.Stops state.task →
      next.alive = false ∧ next.Stops next.task) : next.Scheduled where
  queued := by simpa [queue, flag, stopping] using scheduled.queued
  posted set := by
    rw [posted]
    exact (scheduled.posted (flag ▸ set)).imp_right task
  stopped down := by
    rw [stopping] at down
    obtain ⟨dead, before⟩ := scheduled.stopped down
    exact stops down dead before

theorem stops_congr {task : Task} (stops : state.Stops task)
    (release : next.release = state.release) (count : next.count = state.count)
    (gone : ∀ index, (next.links index).gone = (state.links index).gone)
    (queue : next.cleanupQueue = state.cleanupQueue) : next.Stops task := by
  have finished : ∀ index, state.Finished index → next.Finished index := by
    intro index before lt
    rw [gone, release]
    exact before (count ▸ lt)
  cases task with
  | stopping links => exact fun index absent => finished index (stops index absent)
  | cleaning => exact ⟨release ▸ stops.1, fun index => finished index (stops.2 index)⟩
  | pushing packet links => exact stops
  | flushing links => exact stops
  | idle =>
    exact ⟨release ▸ stops.1, fun index => finished index (stops.2.1 index), queue ▸ stops.2.2⟩
  | answering packets =>
    exact ⟨release ▸ stops.1, fun index => finished index (stops.2.1 index), queue ▸ stops.2.2⟩

theorem stops_cases {task : Task} (stops : state.Stops task) :
    (∃ links, task = .stopping links ∧ ∀ index, index ∉ links → state.Finished index) ∨
      state.release .main = .loop [] ∧ ∀ index, state.Finished index := by
  cases task with
  | stopping links => exact .inl ⟨links, rfl, stops⟩
  | cleaning => exact .inr stops
  | pushing packet links => exact stops.elim
  | flushing links => exact stops.elim
  | idle => exact .inr ⟨stops.1, stops.2.1⟩
  | answering packets => exact .inr ⟨stops.1, stops.2.1⟩

theorem stopping_of_busy (linked : state.Linked) {thread : Thread}
    (busy : state.release thread ≠ .loop []) (stops : state.Stops state.task) :
    ∃ links, state.task = .stopping links ∧
      ∀ index, thread = .mixer index → index ∈ links := by
  have idle : ∀ index, state.Finished index → thread ≠ .mixer index := by
    rintro index finished rfl
    by_cases lt : index < state.count
    · exact busy (finished lt).2
    · exact busy (linked.unused index (by omega)).2
  rcases stops_cases stops with ⟨links, task, others⟩ | ⟨released, all⟩
  · refine ⟨links, task, fun index same => ?_⟩
    by_contra absent
    exact idle index (others index absent) same
  · cases thread with
    | main => exact absurd released busy
    | mixer index => exact absurd rfl (idle index (all index))

theorem stopping_of_present {index : Nat} (lt : index < state.count)
    (present : (state.links index).gone = false) (stops : state.Stops state.task) :
    ∃ links, state.task = .stopping links ∧ index ∈ links := by
  have never : ¬ state.Finished index := by
    intro finished
    have gone := (finished lt).1
    simp [present] at gone
  rcases stops_cases stops with ⟨links, task, others⟩ | ⟨-, all⟩
  · refine ⟨links, task, ?_⟩
    by_contra absent
    exact never (others index absent)
  · exact absurd (all index) never

theorem stops_others {links : List Nat} (task : state.task = .stopping links)
    (same : next.task = state.task) (stops : state.Stops state.task)
    (count : next.count = state.count)
    (gone : ∀ index, index ∉ links → (next.links index).gone = (state.links index).gone)
    (release : ∀ index, index ∉ links →
      next.release (.mixer index) = state.release (.mixer index)) : next.Stops next.task := by
  rw [task] at stops
  rw [same, task]
  intro index absent lt
  rw [gone index absent, release index absent]
  exact stops index absent (count ▸ lt)

theorem of_release (scheduled : state.Scheduled) (linked : state.Linked) (thread : Thread)
    (value : Release) (busy : state.release thread ≠ .loop [])
    (release : next.release = Function.update state.release thread value)
    (links : next.links = state.links) (count : next.count = state.count)
    (alive : next.alive = state.alive) (task : next.task = state.task)
    (queue : next.cleanupQueue = state.cleanupQueue)
    (flag : next.cleanupScheduled = state.cleanupScheduled)
    (posted : next.posted = state.posted) (stopping : next.shuttingDown = state.shuttingDown) :
    next.Scheduled := by
  refine scheduled.congr queue flag posted stopping (fun cleaning => task ▸ cleaning) ?_
  intro down dead stops
  obtain ⟨rest, stage, mine⟩ := stopping_of_busy linked busy stops
  refine ⟨alive ▸ dead, stops_others stage task stops count (fun _ _ => by rw [links]) ?_⟩
  intro index absent
  have different : Thread.mixer index ≠ thread := fun same => absent (mine index same.symm)
  rw [release, Function.update_of_ne different]

theorem schedule (scheduled : state.Scheduled) (packet : Nat)
    (busy : state.shuttingDown = true → ∃ links, state.task = .stopping links) :
    (state.schedulePacketCleanup packet).Scheduled := by
  have stops : state.shuttingDown = true → ∀ other : State, other.release = state.release →
      other.links = state.links → other.count = state.count → other.Stops state.task := by
    intro down other release links count
    obtain ⟨rest, task⟩ := busy down
    have before := (scheduled.stopped down).2
    rw [task] at before ⊢
    intro index absent lt
    rw [links, release]
    exact before index absent (count ▸ lt)
  simp only [State.schedulePacketCleanup]
  split
  · next unscheduled =>
    refine ⟨fun _ => .inl rfl, fun _ => .inl (by simp), fun down => ?_⟩
    exact absurd down unscheduled.2
  · next already =>
    refine ⟨fun _ => ?_, scheduled.posted, fun down => ?_⟩
    · by_cases flag : state.cleanupScheduled = true
      · exact .inl flag
      · exact .inr (by simpa [flag] using already)
    · exact ⟨(scheduled.stopped down).1, stops down _ rfl rfl rfl⟩

theorem of_present (scheduled : state.Scheduled) (index : Nat) (lt : index < state.count)
    (present : (state.links index).gone = false) (count : next.count = state.count)
    (others : ∀ other, other ≠ index → (next.links other).gone = (state.links other).gone ∧
      next.release (.mixer other) = state.release (.mixer other))
    (alive : next.alive = state.alive) (task : next.task = state.task)
    (queue : next.cleanupQueue = state.cleanupQueue)
    (flag : next.cleanupScheduled = state.cleanupScheduled)
    (posted : next.posted = state.posted) (stopping : next.shuttingDown = state.shuttingDown) :
    next.Scheduled := by
  refine scheduled.congr queue flag posted stopping (fun cleaning => task ▸ cleaning) ?_
  intro _ dead stops
  obtain ⟨links, stage, member⟩ := stopping_of_present lt present stops
  have different : ∀ other, other ∉ links → other ≠ index :=
    fun other absent same => absent (same ▸ member)
  refine ⟨alive ▸ dead, stops_others stage task stops count ?_ ?_⟩
  · exact fun other absent => (others other (different other absent)).1
  · exact fun other absent => (others other (different other absent)).2

theorem of_links (scheduled : state.Scheduled)
    (links : ∀ other, (next.links other).gone = (state.links other).gone)
    (release : next.release = state.release) (count : next.count = state.count)
    (alive : next.alive = state.alive) (task : next.task = state.task)
    (queue : next.cleanupQueue = state.cleanupQueue)
    (flag : next.cleanupScheduled = state.cleanupScheduled)
    (posted : next.posted = state.posted) (stopping : next.shuttingDown = state.shuttingDown) :
    next.Scheduled := by
  refine scheduled.congr queue flag posted stopping (fun cleaning => task ▸ cleaning) ?_
  intro _ dead stops
  rw [task]
  exact ⟨alive ▸ dead, stops_congr stops release count links queue⟩

theorem move (scheduled : state.Scheduled) (linked : state.Linked)
    (taken : Move state next) : next.Scheduled := by
  cases taken with
  | receive ready alive | flush ready alive =>
    refine scheduled.congr rfl rfl rfl rfl (by simp [ready.idle]) fun _ dead => ?_
    simp [alive] at dead
  | runCleanup ready posted =>
    refine ⟨scheduled.queued, fun _ => .inr rfl, fun down => ?_⟩
    obtain ⟨dead, stops⟩ := scheduled.stopped down
    rw [ready.idle] at stops
    exact ⟨dead, stops.1, stops.2.1⟩
  | attach position ready alive | trackShutdown ready alive =>
    refine scheduled.congr rfl rfl rfl rfl (fun task => task) fun _ dead => ?_
    simp [alive] at dead
  | outputShutdown index ready lt present unlocked =>
    refine scheduled.congr rfl rfl rfl rfl (fun task => task) fun _ _ stops => ?_
    obtain ⟨links, task, -⟩ := stopping_of_present lt present stops
    simp [ready.idle] at task
  | shutdown ready running =>
    refine ⟨fun _ => .inr rfl, fun set => .inl ?_, fun _ => ⟨rfl, ?_⟩⟩
    · simpa [State.trackShutdown, ready.idle] using scheduled.posted set
    · exact fun index absent lt => absurd (List.mem_range.mpr lt) absent
  -- None of these tasks is on its way during a shutdown.
  | pushed packet task | push packet index links task | acknowledge task
  | flushLink index links task =>
    refine scheduled.congr rfl rfl rfl rfl (by simp [task]) fun _ _ stops => ?_
    simp [task, State.Stops] at stops
  | stopped task released =>
    refine scheduled.congr rfl rfl rfl rfl (fun _ => rfl) fun _ dead stops => ?_
    rw [task] at stops
    exact ⟨dead, released, fun index => stops index (by simp)⟩
  | stopGone index links task released unlocked gone =>
    refine scheduled.congr rfl rfl rfl rfl (by simp [task]) fun _ dead stops => ⟨dead, ?_⟩
    rw [task] at stops
    intro other absent lt
    by_cases same : other = index
    · exact same ▸ ⟨gone, unlocked.released⟩
    · exact stops other (by simp [same, absent]) lt
  | stopLink index links task released unlocked present =>
    refine scheduled.congr rfl rfl rfl rfl (by simp [task]) fun _ dead stops => ⟨dead, ?_⟩
    rw [task] at stops
    intro other absent lt
    by_cases same : other = index
    · subst same
      simp [State.destruct, State.setLink, State.setRelease, State.note, unlocked.released]
    · simpa [State.destruct, State.setLink, State.setRelease, State.note, same] using
        stops other (by simp [same, absent]) lt
  | swap task released =>
    refine ⟨fun some => absurd rfl some, fun set => absurd set Bool.false_ne_true, fun down => ?_⟩
    obtain ⟨dead, stops⟩ := scheduled.stopped down
    rw [task] at stops
    exact ⟨dead, stops.1, stops.2, rfl⟩
  | cleaned task | answer packet packets task =>
    refine scheduled.congr rfl rfl rfl rfl (by simp [task]) fun _ dead stops => ⟨dead, ?_⟩
    rw [task] at stops
    exact stops
  | mark thread packet queue release | dropShared thread packet queue release
  | dropLast thread packet queue release =>
    exact scheduled.of_release linked thread _ (by simp [release]) rfl rfl rfl rfl rfl rfl rfl
      rfl rfl
  | schedule thread packet queue release =>
    have busy : state.release thread ≠ .loop [] := by simp [release]
    have dropped : (state.setRelease thread (.loop queue)).Scheduled :=
      scheduled.of_release linked thread _ busy rfl rfl rfl rfl rfl rfl rfl rfl rfl
    refine dropped.schedule packet fun down => ?_
    obtain ⟨links, task, -⟩ := stopping_of_busy linked busy (scheduled.stopped down).2
    exact ⟨links, task⟩
  | lock index lt present unlocked =>
    refine scheduled.of_links ?_ rfl rfl rfl rfl rfl rfl rfl rfl
    intro other
    by_cases same : other = index
    · subst same
      simp [State.lockPendingQueueFront, State.setLink, State.note]
    · simp [State.lockPendingQueueFront, State.setLink, State.note, same]
  | read index packet front =>
    exact scheduled.of_links (fun _ => rfl) rfl rfl rfl rfl rfl rfl rfl rfl
  | unlock index locked =>
    refine scheduled.of_links ?_ rfl rfl rfl rfl rfl rfl rfl rfl
    intro other
    by_cases same : other = index
    · subst same
      simp [State.setLink]
    · simp [State.setLink, same]
  | unlockPop index packet first rest front queue =>
    have lt := linked.lt_of_locked (Option.isSome_iff_exists.mpr ⟨_, front⟩)
    have present : (state.links index).gone = false := by
      by_contra gone
      simp [((linked.valid index).gone (by simpa using gone)).2] at front
    refine scheduled.of_present index lt present rfl ?_ rfl rfl rfl rfl rfl rfl
    intro other different
    constructor <;> simp [State.setLink, State.setRelease, different]
  | prune index lt present unlocked dead =>
    refine scheduled.of_present index lt present rfl ?_ rfl rfl rfl rfl rfl rfl
    intro other different
    constructor <;>
      simp [State.destruct, State.setLink, State.setRelease, State.note, different]

end State.Scheduled

structure State.Valid (state : State) : Prop where
  linked : state.Linked
  sound : state.ledger.Sound
  marked : state.Marked
  scheduled : state.Scheduled

theorem valid_start : State.Valid { } where
  linked := .start
  sound := {
    window := fun thread => by cases thread <;> simp [State.ledger, State.rest, Task.references,
      Task.coming]
    ordered := rfl
    within := Nat.le_refl _
    live := fun thread _ member => by
      cases thread <;> simp [State.ledger, State.rest, Task.references] at member
    covered := fun number _ lt => by simp [State.ledger] at lt
    alone := fun _ _ claimed => by simp [State.ledger] at claimed
    lent := fun thread _ member => by
      cases thread <;> simp [State.ledger, Task.coming] at member }
  marked := .start
  scheduled := .start

theorem valid_move {state next : State} (valid : state.Valid) (taken : Move state next) :
    next.Valid where
  linked := valid.linked.move taken
  sound := by
    rcases move_refines valid.linked valid.sound taken with same | stepped
    · exact same ▸ valid.sound
    · exact valid.sound.step stepped
  marked := valid.marked.move valid.linked valid.sound taken
  scheduled := valid.scheduled.move valid.linked taken

theorem valid_run {state : State} {events : List Event}
    (reached : Runs.run step { } events = some state) : state.Valid := by
  apply Runs.invariant_of_run step State.Valid _ { } state events valid_start reached
  intro before event after valid taken
  exact valid_move valid (step_move taken)

def State.Settled (state : State) : Prop :=
  state.ready = true ∧ state.posted = 0 ∧
    ∀ index < state.count, (state.links index).references = [] ∧
      state.release (.mixer index) = .loop []

instance (state : State) : Decidable state.Settled :=
  inferInstanceAs (Decidable (_ ∧ _ ∧ ∀ index < state.count, _ ∧ _))

theorem retired_of_settled {state : State} (valid : state.Valid) (settled : state.Settled) :
    state.answered.map Prod.fst = List.range state.packets := by
  obtain ⟨ready, posted, links⟩ := settled
  obtain ⟨idle, released⟩ := (ready_iff state).mp ready
  have cleaned : state.cleanupQueue = [] := by
    by_contra queued
    rcases valid.scheduled.queued queued with flag | down
    · simpa [posted, idle] using valid.scheduled.posted flag
    · have stops := (valid.scheduled.stopped down).2
      rw [idle] at stops
      exact queued stops.2.2
  have retired : state.ledger.retired = state.answered.map Prod.fst := by
    simp [State.ledger, idle, cleaned, Task.waiting]
  have empty : ∀ thread, state.ledger.held thread = [] := by
    intro thread
    cases thread with
    | main => simp [State.ledger, State.rest, released, idle, Task.references]
    | mixer index =>
      by_cases lt : index < state.count
      · obtain ⟨unreferenced, done⟩ := links index lt
        have queue : (state.links index).queue = [] := (List.append_eq_nil_iff.mp unreferenced).1
        simp [State.ledger, State.rest, done, queue]
      · obtain ⟨unused, done⟩ := valid.linked.unused index (by omega)
        simp [State.ledger, State.rest, done, unused]
  have all : state.ledger.retired.length = state.packets := by
    refine le_antisymm valid.sound.within ?_
    by_contra fewer
    obtain ⟨thread, member⟩ := valid.sound.covered state.ledger.retired.length le_rfl
      (show _ < state.packets by omega)
    simp [empty] at member
  rw [← retired, valid.sound.ordered, all]

-- The callbacks that have run are those of the first packets, one each and in order; a packet is
-- reported flushed exactly if a link flushed it, and none is left over.
theorem packets_returned_in_order {state : State} {events : List Event}
    (reached : Runs.run step { } events = some state) :
    state.answered.map Prod.fst <+: List.range state.packets ∧
      (∀ packet result, (packet, result) ∈ state.answered →
        (result = .flushed ↔ state.Flushed packet)) ∧
      (state.Settled → state.answered.map Prod.fst = List.range state.packets) := by
  have valid := valid_run reached
  refine ⟨?_, valid.marked.answered, retired_of_settled valid⟩
  have front : state.answered.map Prod.fst <+: state.ledger.retired := by
    simp only [State.ledger, List.append_assoc]
    exact List.prefix_append _ _
  have range : state.ledger.retired <+: List.range state.packets := by
    have within : state.ledger.retired.length ≤ state.packets := valid.sound.within
    have short : List.range state.ledger.retired.length =
        (List.range state.packets).take state.ledger.retired.length := by
      rw [List.take_range, min_eq_left within]
    rw [valid.sound.ordered, short]
    exact List.take_prefix _ _
  exact front.trans range

def consumeThenFlush : List Event :=
  [ .attach 0, .attach 0,
    .receive, .main, .main, .main, .work .main,
    .receive, .main, .main, .main, .work .main,
    .lock 0, .read 0, .unlock 0 true, .work (.mixer 0),
    .lock 0, .read 0, .unlock 0 true, .work (.mixer 0),
    .lock 1, .read 1, .unlock 1 true, .work (.mixer 1), .work (.mixer 1),
    .flush, .main, .work .main, .work .main, .work .main, .main, .main,
    .runCleanup, .main, .main, .main, .main ]

theorem consume_then_flush_returned :
    ∃ state, Runs.run step { } consumeThenFlush = some state ∧
      state.answered = [(0, .consumed), (1, .flushed)] ∧
      state.answered.map Prod.fst = List.range state.packets := by
  have outcome : (Runs.run step { } consumeThenFlush).any (fun state =>
      state.Settled ∧ state.answered = [(0, .consumed), (1, .flushed)]) = true := by
    decide +kernel
  obtain ⟨state, reached, settled⟩ := (Option.any_eq_true _ _).mp outcome
  simp only [decide_eq_true_eq] at settled
  exact ⟨state, reached, settled.2, (packets_returned_in_order reached).2.2 settled.1⟩

end MojoMedia.Audio.PendingQueues
