import MojoMedia.Shared.ReleaseOrder
import MojoMedia.Audio.LinkInvariant

set_option autoImplicit false

namespace MojoMedia.Audio.PendingQueues

open ReleaseOrder

def Release.held : Release → List Nat
  | .loop queue => queue
  | .reset packet queue => packet :: queue
  | .schedule packet queue => packet :: queue

def Release.claimed : Release → Option Nat
  | .schedule packet _ => some packet
  | _ => none

def Task.coming (task : Task) : Thread → List Nat
  | .main => []
  | .mixer index =>
    match task with
    | .pushing packet links => if index ∈ links then [packet] else []
    | _ => []

def Task.waiting : Task → List Nat
  | .answering packets => packets
  | _ => []

def State.rest (state : State) : Thread → List Nat
  | .main => state.task.references
  | .mixer index => (state.links index).queue

def State.ledger (state : State) : Ledger Thread where
  received := state.packets
  retired := state.answered.map Prod.fst ++ state.task.waiting ++ state.cleanupQueue
  held thread := (state.release thread).held ++ state.rest thread
  coming := state.task.coming
  claimed thread := (state.release thread).claimed

@[simp] theorem held_loop (queue : List Nat) : (Release.loop queue).held = queue := rfl

@[simp] theorem held_reset (packet : Nat) (queue : List Nat) :
    (Release.reset packet queue).held = packet :: queue := rfl

@[simp] theorem held_schedule (packet : Nat) (queue : List Nat) :
    (Release.schedule packet queue).held = packet :: queue := rfl

@[simp] theorem claimed_loop (queue : List Nat) : (Release.loop queue).claimed = none := rfl

@[simp] theorem claimed_reset (packet : Nat) (queue : List Nat) :
    (Release.reset packet queue).claimed = none := rfl

@[simp] theorem claimed_schedule (packet : Nat) (queue : List Nat) :
    (Release.schedule packet queue).claimed = some packet := rfl

theorem coming_plain {task : Task} (plain : task.references = []) (thread : Thread) :
    task.coming thread = [] := by
  cases thread <;> cases task <;> simp_all [Task.coming, Task.references]

theorem references_subset_held (release : Release) : release.references ⊆ release.held := by
  cases release <;> simp [Release.references]

theorem mem_held {release : Release} {packet : Nat} (member : packet ∈ release.held) :
    packet ∈ release.references ∨ release.claimed = some packet := by
  cases release with
  | loop queue => exact .inl member
  | reset first queue => exact .inl member
  | schedule first queue =>
    rcases List.mem_cons.mp member with rfl | later
    · exact .inr rfl
    · exact .inl later

theorem ledger_setRelease (state : State) (thread : Thread) (release : Release) :
    (state.setRelease thread release).ledger =
      { state.ledger with
        held := Function.update state.ledger.held thread (release.held ++ state.rest thread)
        claimed := Function.update state.ledger.claimed thread release.claimed } := by
  ext1
  · rfl
  · rfl
  · funext other
    by_cases same : other = thread
    · subst same
      cases other <;> simp [State.ledger, State.setRelease, State.rest]
    · simp only [State.ledger, State.setRelease, Function.update_of_ne same]
      cases other <;> rfl
  · rfl
  · funext other
    by_cases same : other = thread
    · subst same
      simp [State.ledger, State.setRelease]
    · simp [State.ledger, State.setRelease, Function.update_of_ne same]

theorem ledger_eq_setRelease (state : State) (thread : Thread) (release : Release)
    (held : release.held = (state.release thread).held)
    (claimed : release.claimed = (state.release thread).claimed) :
    (state.setRelease thread release).ledger = state.ledger := by
  rw [ledger_setRelease, held, claimed]
  ext1
  · rfl
  · rfl
  · exact Function.update_eq_self thread state.ledger.held
  · rfl
  · exact Function.update_eq_self thread state.ledger.claimed

namespace State.Linked

variable {state next : State}

theorem referenced_iff (linked : state.Linked) (packet : Nat) :
    state.referenced packet = true ↔
      ∃ thread, packet ∈ (state.release thread).references ++ state.rest thread := by
  simp only [State.referenced, decide_eq_true_eq]
  constructor
  · rintro (pushed | released | ⟨index, -, released | linked_to⟩)
    · exact ⟨.main, List.mem_append_right _ pushed⟩
    · exact ⟨.main, List.mem_append_left _ released⟩
    · exact ⟨.mixer index, List.mem_append_left _ released⟩
    · refine ⟨.mixer index, List.mem_append_right _ ?_⟩
      rcases List.mem_append.mp linked_to with queued | locked
      · exact queued
      · -- What the mixer looks at is the front of the queue.
        have front : (state.links index).front = some (some packet) := by
          simpa [Option.join_eq_some_iff] using locked
        exact List.mem_of_mem_head? (linked.head_of_front front)
  · rintro ⟨thread, member⟩
    cases thread with
    | main =>
      rcases List.mem_append.mp member with released | pushed
      · exact .inr (.inl released)
      · exact .inl pushed
    | mixer index =>
      have lt : index < state.count := by
        by_contra outside
        obtain ⟨empty, idle⟩ := linked.unused index (by omega)
        simp [State.rest, empty, idle, Release.references] at member
      rcases List.mem_append.mp member with released | queued
      · exact .inr (.inr ⟨index, lt, .inl released⟩)
      · exact .inr (.inr ⟨index, lt, .inr (List.mem_append_left _ queued)⟩)

theorem lent (linked : state.Linked) {thread : Thread}
    (busy : state.release thread ≠ .loop []) :
    ∀ target, ∀ newest ∈ state.ledger.coming target, ∃ lender, lender ≠ thread ∧
      state.ledger.claimed lender = none ∧ newest ∈ state.ledger.held lender := by
  intro target newest member
  have carries := linked.task
  cases target with
  | main => simp [State.ledger, Task.coming] at member
  | mixer index =>
    simp only [State.ledger, Task.coming] at member
    split at member
    · next packet links task =>
      rw [task] at carries
      obtain ⟨released, -⟩ := carries
      refine ⟨.main, ?_, ?_, ?_⟩
      · rintro rfl
        exact busy released
      · simp [State.ledger, released]
      · split at member
        · simpa [State.ledger, State.rest, released, task, Task.references] using
            member
        · simp at member
    · simp at member

theorem receive_step (linked : state.Linked) (ready : state.Ready)
    (alive : state.alive = true) : state.ledger.Step state.onPacketReceived.ledger := by
  have held : state.onPacketReceived.ledger.held =
      Function.update state.ledger.held .main [state.packets] := by
    funext thread
    cases thread with
    | main =>
      simp [State.ledger, State.onPacketReceived, State.note, State.rest, Task.references,
        ready.released]
    | mixer index => simp [State.ledger, State.onPacketReceived, State.note, State.rest]
  have settled : ∀ thread, state.ledger.coming thread = [] :=
    coming_plain (by simp [ready.idle, Task.references])
  have stepped := Ledger.Step.receive .main state.onPacketReceived.ledger.coming settled
    (by simp [State.ledger, State.rest, ready.idle, ready.released,
      Task.references])
    (by simp [State.ledger, ready.released]) ?_
  · convert stepped using 1
    ext1
    · rfl
    · simp [State.ledger, State.onPacketReceived, State.note, ready.idle, Task.waiting]
    · exact held
    · rfl
    · rfl
  · intro thread
    cases thread with
    | main =>
      refine .inr ⟨rfl, ?_⟩
      simp [State.ledger, State.rest, ready.idle, ready.released,
        Task.references]
    | mixer index =>
      by_cases member : index ∈ state.outputs
      · exact .inl ⟨by simp [State.ledger, State.onPacketReceived, State.note, Task.coming,
          member], by simp⟩
      · obtain ⟨empty, idle⟩ := linked.detached alive index member
        exact .inr ⟨by simp [State.ledger, State.onPacketReceived, State.note, Task.coming,
          member], by simp [State.ledger, State.rest, empty, idle]⟩

theorem push_step (linked : state.Linked) (packet index : Nat) (links : List Nat)
    (task : state.task = .pushing packet (index :: links)) :
    state.ledger.Step
      ({ state with task := .pushing packet links }.pushToPendingQueue index packet).ledger := by
  have carries := linked.task
  rw [task] at carries
  obtain ⟨-, -, nodup, -⟩ := carries
  have coming : state.ledger.coming (.mixer index) = [packet] := by
    simp [State.ledger, Task.coming, task]
  convert Ledger.Step.give (.mixer index) packet coming using 1
  ext1
  · rfl
  · simp [State.ledger, State.pushToPendingQueue, State.setLink, task, Task.waiting]
  · funext thread
    cases thread with
    | main =>
      simp [State.ledger, State.pushToPendingQueue, State.setLink, State.rest, task,
        Task.references]
    | mixer other =>
      by_cases same : other = index
      · subst same
        simp [State.ledger, State.pushToPendingQueue, State.setLink, State.rest]
      · simp [State.ledger, State.pushToPendingQueue, State.setLink, State.rest, same]
  · funext thread
    cases thread with
    | main => simp [State.ledger, State.pushToPendingQueue, State.setLink, Task.coming]
    | mixer other =>
      by_cases same : other = index
      · subst same
        simp [State.ledger, State.pushToPendingQueue, State.setLink, Task.coming,
          (List.nodup_cons.mp nodup).1]
      · simp [State.ledger, State.pushToPendingQueue, State.setLink, Task.coming, task, same]
  · rfl

theorem dropShared_step (linked : state.Linked) (sound : state.ledger.Sound) (thread : Thread)
    (packet : Nat) (queue : List Nat) (release : state.release thread = .reset packet queue)
    (shared : (state.setRelease thread (.loop queue)).referenced packet = true) :
    state.ledger.Step (state.setRelease thread (.loop queue)).ledger := by
  have busy : state.release thread ≠ .loop [] := by simp [release]
  have dropped : (state.setRelease thread (.loop queue)).Linked :=
    linked.of_release thread _ busy rfl rfl rfl rfl rfl rfl
  have held : state.ledger.held thread = packet :: (queue ++ state.rest thread) := by
    simp [State.ledger, release]
  have rest : (state.setRelease thread (.loop queue)).rest = state.rest := by
    funext other
    cases other <;> rfl
  obtain ⟨other, member⟩ := (dropped.referenced_iff packet).mp shared
  rw [rest] at member
  have different : other ≠ thread := by
    rintro rfl
    refine sound.not_mem_rest held ?_
    simpa [State.setRelease, Release.references] using member
  have kept : packet ∈ state.ledger.held other := by
    simp only [State.setRelease, Function.update_of_ne different] at member
    rcases List.mem_append.mp member with released | queued
    · exact List.mem_append_left _ (references_subset_held _ released)
    · exact List.mem_append_right _ queued
  convert Ledger.Step.drop thread other packet (queue ++ state.rest thread) held
    (by simp [State.ledger, release]) different kept (linked.lent busy) using 1
  rw [ledger_setRelease]
  ext1
  · rfl
  · rfl
  · rfl
  · rfl
  · have same : (Release.loop queue).claimed = state.ledger.claimed thread := by
      simp [State.ledger, release]
    simp only [same, Function.update_eq_self]

theorem dropLast_step (linked : state.Linked) (sound : state.ledger.Sound) (thread : Thread)
    (packet : Nat) (queue : List Nat) (release : state.release thread = .reset packet queue)
    (last : (state.setRelease thread (.loop queue)).referenced packet = false) :
    state.ledger.Step (state.setRelease thread (.schedule packet queue)).ledger := by
  have busy : state.release thread ≠ .loop [] := by simp [release]
  have dropped : (state.setRelease thread (.loop queue)).Linked :=
    linked.of_release thread _ busy rfl rfl rfl rfl rfl rfl
  have held : state.ledger.held thread = packet :: (queue ++ state.rest thread) := by
    simp [State.ledger, release]
  have alone : ∀ other, other ≠ thread → packet ∉ state.ledger.held other := by
    intro other different member
    rcases List.mem_append.mp member with released | queued
    · rcases mem_held released with referenced | claimed
      · have counted : (state.setRelease thread (.loop queue)).referenced packet = true := by
          refine (dropped.referenced_iff packet).mpr ⟨other, List.mem_append_left _ ?_⟩
          simpa [State.setRelease, Function.update_of_ne different] using referenced
        simp [last] at counted
      · -- Another thread cannot have found itself the last one before.
        have only := (sound.alone other packet claimed).2 thread different.symm
        simp [held] at only
    · have counted : (state.setRelease thread (.loop queue)).referenced packet = true := by
        refine (dropped.referenced_iff packet).mpr ⟨other, List.mem_append_right _ ?_⟩
        cases other <;> exact queued
      simp [last] at counted
  convert Ledger.Step.claim thread packet (queue ++ state.rest thread) held alone
    (linked.lent busy) using 1
  rw [ledger_setRelease]
  ext1
  · rfl
  · rfl
  · have same : (Release.schedule packet queue).held ++ state.rest thread =
        state.ledger.held thread := by
      simp [held]
    simp only [same, Function.update_eq_self]
  · rfl
  · rfl

theorem schedule_step (state : State) (thread : Thread) (packet : Nat) (queue : List Nat)
    (release : state.release thread = .schedule packet queue) :
    state.ledger.Step
      ((state.setRelease thread (.loop queue)).schedulePacketCleanup packet).ledger := by
  have held : state.ledger.held thread = packet :: (queue ++ state.rest thread) := by
    simp [State.ledger, release]
  have ledger : ((state.setRelease thread (.loop queue)).schedulePacketCleanup packet).ledger =
      { (state.setRelease thread (.loop queue)).ledger with
        retired := state.ledger.retired ++ [packet] } := by
    simp only [State.schedulePacketCleanup]
    split <;> (ext1 <;> try rfl) <;> simp [State.ledger, State.setRelease]
  convert Ledger.Step.retire thread packet (queue ++ state.rest thread) held
    (by simp [State.ledger, release]) using 1
  rw [ledger, ledger_setRelease]
  rfl

theorem take_step (index : Nat) (released : state.release .main = .loop [])
    (idle : state.release (.mixer index) = .loop [])
    (before : state.task.references = []) (after : next.task.references = [])
    (release : next.release =
      Function.update state.release .main (.loop (state.links index).queue))
    (empty : (next.links index).queue = [])
    (links : ∀ other, other ≠ index → (next.links other).queue = (state.links other).queue)
    (packets : next.packets = state.packets)
    (retired : next.ledger.retired = state.ledger.retired) :
    state.ledger.Step next.ledger := by
  have settled : ∀ thread, state.ledger.coming thread = [] := coming_plain before
  have stepped := Ledger.Step.move (.mixer index) .main next.ledger.held
    (by simp [State.ledger, State.rest, empty, release, idle])
    (by simp [State.ledger, State.rest, release, idle, after]) ?_
    (by simp [State.ledger, State.rest, released, before]) settled
    (by simp [State.ledger, idle])
    (by simp [State.ledger, released])
  · convert stepped using 1
    ext1
    · exact packets
    · exact retired
    · rfl
    · funext thread
      exact (coming_plain after thread).trans (settled thread).symm
    · funext thread
      by_cases same : thread = .main
      · subst same
        simp [State.ledger, release, released]
      · simp [State.ledger, release, Function.update_of_ne same]
  · intro other away apart
    cases other with
    | main => exact absurd rfl apart
    | mixer third =>
      have different : third ≠ index := fun same => away (by rw [same])
      simp [State.ledger, State.rest, release, links third different]

end State.Linked

theorem ledger_eq_of_task {state next : State} (packets : next.packets = state.packets)
    (release : next.release = state.release)
    (queues : ∀ index, (next.links index).queue = (state.links index).queue)
    (before : state.task.references = []) (after : next.task.references = [])
    (retired : next.ledger.retired = state.ledger.retired) : next.ledger = state.ledger := by
  ext1
  · exact packets
  · exact retired
  · funext thread
    cases thread with
    | main => simp [State.ledger, State.rest, release, before, after]
    | mixer index => simp [State.ledger, State.rest, release, queues index]
  · funext thread
    exact (coming_plain after thread).trans (coming_plain before thread).symm
  · funext thread
    simp [State.ledger, release]

theorem ledger_eq_of_link (state : State) (index : Nat) (link : Link)
    (queue : link.queue = (state.links index).queue) (history : List Moment) :
    ({ state.setLink index link with history := history } : State).ledger = state.ledger := by
  ext1
  · rfl
  · rfl
  · funext thread
    cases thread with
    | main => rfl
    | mixer other =>
      by_cases same : other = index
      · subst same
        simp [State.ledger, State.rest, State.setLink, queue]
      · simp [State.ledger, State.rest, State.setLink, same]
  · rfl
  · rfl

theorem ledger_eq_of_mixer (state : State) (index : Nat) (link : Link) (release : Release)
    (idle : state.release (.mixer index) = .loop []) (claimed : release.claimed = none)
    (held : release.held ++ link.queue = (state.links index).queue) (history : List Moment) :
    ({ (state.setLink index link).setRelease (.mixer index) release with
      history := history } : State).ledger = state.ledger := by
  ext1
  · rfl
  · rfl
  · funext thread
    cases thread with
    | main => simp [State.ledger, State.rest, State.setLink, State.setRelease]
    | mixer other =>
      by_cases same : other = index
      · subst same
        simp [State.ledger, State.rest, State.setLink, State.setRelease, held, idle]
      · simp [State.ledger, State.rest, State.setLink, State.setRelease, same]
  · rfl
  · funext thread
    by_cases same : thread = .mixer index
    · subst same
      simp [State.ledger, State.setLink, State.setRelease, claimed, idle]
    · simp [State.ledger, State.setLink, State.setRelease, Function.update_of_ne same]

theorem move_refines {state next : State} (linked : state.Linked) (sound : state.ledger.Sound)
    (taken : Move state next) :
    next.ledger = state.ledger ∨ state.ledger.Step next.ledger := by
  cases taken with
  | receive ready alive => exact .inr (linked.receive_step ready alive)
  | flush ready alive =>
    refine .inl (ledger_eq_of_task rfl rfl (fun _ => rfl) ?_ rfl ?_)
    · simp [ready.idle, Task.references]
    · simp [State.ledger, State.onFlushRequested, State.note, ready.idle, Task.waiting]
  | runCleanup ready posted =>
    refine .inl (ledger_eq_of_task rfl rfl (fun _ => rfl) ?_ rfl ?_)
    · simp [ready.idle, Task.references]
    · simp [State.ledger, ready.idle, Task.waiting]
  | attach position ready alive => exact .inl rfl
  | trackShutdown ready alive => exact .inl rfl
  | outputShutdown index ready lt present unlocked =>
    refine .inr (State.Linked.take_step index ready.released unlocked.released ?_ ?_ rfl
      ?_ ?_ rfl rfl)
    · simp [ready.idle, Task.references]
    · simp [State.removeOutput, State.destruct, State.setLink, State.setRelease, State.note,
        ready.idle, Task.references]
    · simp [State.destruct, State.setLink, State.setRelease, State.note]
    · intro other different
      simp [State.removeOutput, State.destruct, State.setLink, State.setRelease, State.note,
        Function.update_of_ne different]
  | shutdown ready running =>
    refine .inl (ledger_eq_of_task rfl rfl (fun _ => rfl) ?_ rfl ?_)
    · simp [ready.idle, Task.references]
    · simp [State.ledger, State.trackShutdown, ready.idle, Task.waiting]
  | pushed packet task released =>
    refine .inl (Ledger.ext rfl ?_ ?_ ?_ ?_)
    · simp [State.ledger, State.setRelease, task, Task.waiting]
    · funext thread
      cases thread <;>
        simp [State.ledger, State.setRelease, State.rest, task, released, Task.references]
    · funext thread
      cases thread <;> simp [State.ledger, State.setRelease, task, Task.coming]
    · funext thread
      cases thread <;> simp [State.ledger, State.setRelease, released]
  | push packet index links task released free =>
    exact .inr (linked.push_step packet index links task)
  | acknowledge task released =>
    refine .inl (ledger_eq_of_task rfl rfl (fun _ => rfl) ?_ rfl ?_)
    · simp [task, Task.references]
    · simp [State.ledger, State.note, task, Task.waiting]
  | flushLink index links task released unlocked =>
    refine .inr (State.Linked.take_step index released unlocked.released ?_ rfl rfl
      ?_ ?_ rfl ?_)
    · simp [task, Task.references]
    · simp [State.flushPendingQueue, State.setLink, State.setRelease, State.note]
    · intro other different
      simp [State.flushPendingQueue, State.setLink, State.setRelease, State.note,
        Function.update_of_ne different]
    · simp [State.ledger, State.flushPendingQueue, State.setLink, State.setRelease, State.note,
        task, Task.waiting]
  | stopped task | stopGone index links task | cleaned task | answer packet packets task =>
    refine .inl (ledger_eq_of_task rfl rfl (fun _ => rfl) ?_ rfl ?_)
    · simp [task, Task.references]
    · simp [State.ledger, task, Task.waiting]
  | stopLink index links task released unlocked present =>
    refine .inr (State.Linked.take_step index released unlocked.released ?_ rfl rfl
      ?_ ?_ rfl ?_)
    · simp [task, Task.references]
    · simp [State.destruct, State.setLink, State.setRelease, State.note]
    · intro other different
      simp [State.destruct, State.setLink, State.setRelease, State.note,
        Function.update_of_ne different]
    · simp [State.ledger, State.destruct, State.setLink, State.setRelease, State.note,
        task, Task.waiting]
  | swap task released =>
    refine .inl (ledger_eq_of_task rfl rfl (fun _ => rfl) ?_ rfl ?_)
    · simp [task, Task.references]
    · simp [State.ledger, State.swapCleanupQueue, task, Task.waiting]
  | mark thread packet queue release =>
    refine .inl ((ledger_eq_setRelease _ thread _ ?_ ?_).trans rfl)
    · simp [release]
    · simp [release]
  | dropShared thread packet queue release shared =>
    exact .inr (linked.dropShared_step sound thread packet queue release shared)
  | dropLast thread packet queue release last =>
    exact .inr (linked.dropLast_step sound thread packet queue release last)
  | schedule thread packet queue release =>
    exact .inr (State.Linked.schedule_step state thread packet queue release)
  | lock index lt present unlocked =>
    exact .inl (ledger_eq_of_link state index { state.links index with
      flushed := false
      front := some (state.links index).queue.head? } rfl _)
  | read index packet front => exact .inl rfl
  | unlock index locked =>
    exact .inl (ledger_eq_of_link state index { state.links index with front := none } rfl
      state.history)
  | unlockPop index packet first rest front queue =>
    have idle := (linked.valid index).locked (by simp [front])
    refine .inl (ledger_eq_of_mixer state index { state.links index with
      queue := rest
      front := none } (.reset first []) idle rfl ?_ state.history)
    simp [queue]
  | prune index lt present unlocked dead =>
    refine .inl (ledger_eq_of_mixer state index { state.links index with
      queue := []
      gone := true } (.loop (state.links index).queue) unlocked.released rfl ?_ _)
    simp

end MojoMedia.Audio.PendingQueues
