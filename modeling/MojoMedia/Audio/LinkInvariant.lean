import MojoMedia.Audio.PendingQueues

set_option autoImplicit false

namespace MojoMedia.Audio.PendingQueues

structure Link.Valid (link : Link) (release : Release) : Prop where
  front : ∀ packet, link.front = some (some packet) → link.queue.head? = some packet
  locked : link.front.isSome → release = .loop []
  gone : link.gone = true → link.queue = [] ∧ link.front = none

def State.Carries (state : State) : Task → Prop
  | .pushing _ links =>
    state.release .main = .loop [] ∧ state.alive = true ∧ links.Nodup ∧ links ⊆ state.outputs
  | .flushing links => state.alive = true ∧ links ⊆ state.outputs
  | .stopping links => state.alive = false ∧ ∀ index ∈ links, index < state.count
  | _ => True

structure State.Linked (state : State) : Prop where
  valid : ∀ index, (state.links index).Valid (state.release (.mixer index))
  unused : ∀ index, state.count ≤ index →
    state.links index = { } ∧ state.release (.mixer index) = .loop []
  present : ∀ index ∈ state.outputs, index < state.count ∧ (state.links index).gone = false
  nodup : state.outputs.Nodup
  detached : state.alive = true → ∀ index, index ∉ state.outputs →
    (state.links index).queue = [] ∧ state.release (.mixer index) = .loop []
  dead : state.alive = false → state.outputs = []
  task : state.Carries state.task

theorem State.Carries.congr {state next : State} {task : Task} (carries : state.Carries task)
    (release : state.release .main = .loop [] → next.release .main = .loop [])
    (count : next.count = state.count) (outputs : next.outputs = state.outputs)
    (alive : next.alive = state.alive) : next.Carries task := by
  cases task with
  | pushing packet links =>
    obtain ⟨released, living, nodup, subset⟩ := carries
    exact ⟨release released, alive ▸ living, nodup, outputs ▸ subset⟩
  | flushing links => exact ⟨alive ▸ carries.1, outputs ▸ carries.2⟩
  | stopping links => exact ⟨alive ▸ carries.1, count ▸ carries.2⟩
  | idle => trivial
  | cleaning => trivial
  | answering packets => trivial

namespace State.Linked

variable {state next : State}

theorem start : State.Linked { } where
  valid _ := ⟨nofun, nofun, nofun⟩
  unused _ _ := ⟨rfl, rfl⟩
  present := nofun
  nodup := List.nodup_nil
  detached _ _ _ := ⟨rfl, rfl⟩
  dead := nofun
  task := trivial

theorem lt_of_locked (linked : state.Linked) {index : Nat}
    (locked : (state.links index).front.isSome) : index < state.count := by
  by_contra outside
  simp [(linked.unused index (by omega)).1] at locked

theorem head_of_front (linked : state.Linked) {index packet : Nat}
    (front : (state.links index).front = some (some packet)) :
    (state.links index).queue.head? = some packet :=
  (linked.valid index).front packet front

theorem of_task (linked : state.Linked) (links : next.links = state.links)
    (release : next.release = state.release) (count : next.count = state.count)
    (outputs : next.outputs = state.outputs) (alive : next.alive = state.alive)
    (task : state.Carries next.task) : next.Linked where
  valid := by simpa [links, release] using linked.valid
  unused := by simpa [links, release, count] using linked.unused
  present := by simpa [links, count, outputs] using linked.present
  nodup := by simpa [outputs] using linked.nodup
  detached := by simpa [links, release, outputs, alive] using linked.detached
  dead := by simpa [outputs, alive] using linked.dead
  task := task.congr (fun released => release ▸ released) count outputs alive

theorem of_release (linked : state.Linked) (thread : Thread) (value : Release)
    (busy : state.release thread ≠ .loop [])
    (release : next.release = Function.update state.release thread value)
    (links : next.links = state.links) (count : next.count = state.count)
    (outputs : next.outputs = state.outputs) (alive : next.alive = state.alive)
    (task : next.task = state.task) : next.Linked := by
  have idle : ∀ other, state.release other = .loop [] → next.release other = .loop [] := by
    intro other done
    have different : other ≠ thread := by
      rintro rfl
      exact busy done
    rw [release, Function.update_of_ne different, done]
  refine ⟨?_, ?_, ?_, ?_, ?_, ?_, ?_⟩
  · intro index
    have before := linked.valid index
    rw [links]
    exact ⟨before.front, fun locked => idle _ (before.locked locked), before.gone⟩
  · intro index outside
    obtain ⟨empty, done⟩ := linked.unused index (by omega)
    exact ⟨by rw [links, empty], idle _ done⟩
  · simpa [links, count, outputs] using linked.present
  · simpa [outputs] using linked.nodup
  · intro living index absent
    obtain ⟨empty, done⟩ := linked.detached (alive ▸ living) index (outputs ▸ absent)
    exact ⟨by rw [links, empty], idle _ done⟩
  · simpa [outputs, alive] using linked.dead
  · rw [task]
    exact linked.task.congr (idle .main) count outputs alive

theorem of_link (linked : state.Linked) (index : Nat) (lt : index < state.count)
    (links : ∀ other, other ≠ index → next.links other = state.links other)
    (release : ∀ other, other ≠ index →
      next.release (.mixer other) = state.release (.mixer other))
    (count : next.count = state.count) (alive : next.alive = state.alive)
    (outputs : next.outputs = state.outputs ∨ next.outputs = state.outputs.erase index)
    (valid : (next.links index).Valid (next.release (.mixer index)))
    (present : index ∈ next.outputs → (next.links index).gone = false)
    (detached : state.alive = true → index ∉ next.outputs →
      (next.links index).queue = [] ∧ next.release (.mixer index) = .loop [])
    (task : next.Carries next.task) : next.Linked := by
  have subset : ∀ other ∈ next.outputs, other ∈ state.outputs := by
    intro other member
    rcases outputs with same | erased
    · exact same ▸ member
    · exact List.mem_of_mem_erase (erased ▸ member)
  have kept : ∀ other, other ≠ index → other ∈ state.outputs → other ∈ next.outputs := by
    intro other different member
    rcases outputs with same | erased
    · exact same ▸ member
    · exact erased ▸ (List.mem_erase_of_ne different).mpr member
  refine ⟨?_, ?_, ?_, ?_, ?_, ?_, task⟩
  · intro other
    by_cases same : other = index
    · exact same ▸ valid
    · rw [links other same, release other same]
      exact linked.valid other
  · intro other outside
    have different : other ≠ index := by omega
    rw [links other different, release other different]
    exact linked.unused other (count ▸ outside)
  · intro other member
    rw [count]
    refine ⟨(linked.present other (subset other member)).1, ?_⟩
    by_cases same : other = index
    · exact same ▸ present (same ▸ member)
    · rw [links other same]
      exact (linked.present other (subset other member)).2
  · rcases outputs with same | erased
    · exact same ▸ linked.nodup
    · exact erased ▸ linked.nodup.erase index
  · intro living other absent
    rw [alive] at living
    by_cases same : other = index
    · exact same ▸ detached living (same ▸ absent)
    · rw [links other same, release other same]
      exact linked.detached living other fun member => absent (kept other same member)
  · intro dead
    rw [alive] at dead
    rcases outputs with same | erased
    · rw [same, linked.dead dead]
    · rw [erased, linked.dead dead, List.erase_nil]

theorem destruct (linked : state.Linked) (index : Nat) (thread : Thread) (task : Task)
    (outputs : List Nat) (lt : index < state.count) (unlocked : state.Unlocked index)
    (removed : outputs = state.outputs ∨ outputs = state.outputs.erase index)
    (absent : index ∉ outputs)
    (carries : ({ state with task := task, outputs := outputs }.destruct index thread).Carries
      task)
    (owner : thread = .main ∨ thread = .mixer index ∧ state.alive = false) :
    ({ state with task := task, outputs := outputs }.destruct index thread).Linked := by
  refine linked.of_link index lt ?_ ?_ rfl rfl removed ⟨?_, ?_, ?_⟩ ?_ ?_ carries
  · intro other different
    simp [State.destruct, State.setLink, State.setRelease, State.note,
      Function.update_of_ne different]
  · intro other different
    rcases owner with rfl | ⟨rfl, -⟩ <;>
      simp [State.destruct, State.setLink, State.setRelease, State.note, different]
  · simp [State.destruct, State.setLink, State.setRelease, State.note, unlocked.front]
  · simp [State.destruct, State.setLink, State.setRelease, State.note, unlocked.front]
  · simp [State.destruct, State.setLink, State.setRelease, State.note, unlocked.front]
  · exact fun member => absurd member absent
  · rintro living -
    rcases owner with rfl | ⟨-, dead⟩
    · simp [State.destruct, State.setLink, State.setRelease, State.note, unlocked.released]
    · simp [living] at dead

theorem addOutput (linked : state.Linked) (position : Nat) (ready : state.Ready)
    (living : state.alive = true) : (state.addOutput position).Linked := by
  have members : ∀ index, index ∈ (state.addOutput position).outputs ↔
      index = state.count ∨ index ∈ state.outputs := by
    intro index
    have split := List.take_append_drop position state.outputs
    conv_rhs => rw [← split]
    simp only [State.addOutput, List.mem_append, List.mem_cons]
    tauto
  have fresh : state.count ∉ state.outputs := fun member =>
    absurd (linked.present _ member).1 (by omega)
  refine ⟨linked.valid, ?_, ?_, ?_, ?_, ?_, ?_⟩
  · exact fun index outside => linked.unused index (Nat.le_of_succ_le outside)
  · intro index member
    simp only [State.addOutput]
    rcases (members index).mp member with rfl | old
    · exact ⟨by omega, by rw [(linked.unused state.count (Nat.le_refl _)).1]⟩
    · obtain ⟨lt, present⟩ := linked.present index old
      exact ⟨by omega, present⟩
  · have nodup : (state.count :: state.outputs).Nodup :=
      List.nodup_cons.mpr ⟨fresh, linked.nodup⟩
    refine (List.Perm.nodup_iff ?_).mpr nodup
    simp only [State.addOutput]
    refine List.perm_middle.trans ?_
    rw [List.take_append_drop]
  · intro _ index absent
    exact linked.detached living index fun member => absent ((members index).mpr (.inr member))
  · intro dead
    have : state.alive = false := dead
    simp [living] at this
  · simp [State.addOutput, ready.idle, State.Carries]

theorem of_dead (linked : state.Linked) (links : next.links = state.links)
    (release : next.release = state.release) (count : next.count = state.count)
    (outputs : next.outputs = []) (alive : next.alive = false)
    (task : next.Carries next.task) : next.Linked where
  valid := by simpa [links, release] using linked.valid
  unused := by simpa [links, release, count] using linked.unused
  present := by simp [outputs]
  nodup := by simp [outputs]
  detached := by simp [alive]
  dead := by simp [outputs]
  task := task

theorem push (linked : state.Linked) (packet index : Nat) (links : List Nat)
    (task : state.task = .pushing packet (index :: links))
    (free : state.release (.mixer index) = .loop []) :
    ({ state with task := .pushing packet links }.pushToPendingQueue index packet).Linked := by
  have carries := linked.task
  rw [task] at carries
  obtain ⟨released, living, nodup, subset⟩ := carries
  have member : index ∈ state.outputs := subset List.mem_cons_self
  obtain ⟨lt, present⟩ := linked.present index member
  refine linked.of_link index lt ?_ (fun _ _ => rfl) rfl rfl (.inl rfl) ⟨?_, ?_, ?_⟩ ?_ ?_ ?_
  · intro other different
    simp [State.pushToPendingQueue, State.setLink, Function.update_of_ne different]
  · intro front locked
    have head := linked.head_of_front (by
      simpa [State.pushToPendingQueue, State.setLink] using locked)
    simp [State.pushToPendingQueue, State.setLink, head]
  · exact fun _ => free
  · simp [State.pushToPendingQueue, State.setLink, present]
  · simp [State.pushToPendingQueue, State.setLink, present]
  · exact fun _ absent => absurd member absent
  · exact ⟨released, living, (List.nodup_cons.mp nodup).2, fun _ kept =>
      subset (List.mem_cons_of_mem _ kept)⟩

theorem flushLink (linked : state.Linked) (index : Nat) (links : List Nat)
    (task : state.task = .flushing (index :: links)) (unlocked : state.Unlocked index) :
    ({ state with task := .flushing links }.flushPendingQueue index).Linked := by
  have carries := linked.task
  rw [task] at carries
  obtain ⟨living, subset⟩ := carries
  obtain ⟨lt, present⟩ := linked.present index (subset List.mem_cons_self)
  refine linked.of_link index lt ?_ ?_ rfl rfl (.inl rfl) ⟨?_, ?_, ?_⟩ ?_ ?_ ?_
  · intro other different
    simp [State.flushPendingQueue, State.setLink, State.setRelease, State.note,
      Function.update_of_ne different]
  · intro other different
    simp [State.flushPendingQueue, State.setLink, State.setRelease, State.note]
  · simp [State.flushPendingQueue, State.setLink, State.setRelease, State.note, unlocked.front]
  · simp [State.flushPendingQueue, State.setLink, State.setRelease, State.note, unlocked.front]
  · simp [State.flushPendingQueue, State.setLink, State.setRelease, State.note, unlocked.front]
  · simp [State.flushPendingQueue, State.setLink, State.setRelease, State.note, present]
  · simp [State.flushPendingQueue, State.setLink, State.setRelease, State.note,
      unlocked.released]
  · exact ⟨living, fun _ kept => subset (List.mem_cons_of_mem _ kept)⟩

theorem of_mixer (linked : state.Linked) (index : Nat) (link : Link)
    (lt : index < state.count) (gone : link.gone = (state.links index).gone)
    (valid : link.Valid (state.release (.mixer index)))
    (queue : link.queue = (state.links index).queue) (history : List Moment) :
    ({ state.setLink index link with history := history } : State).Linked := by
  refine linked.of_link index lt ?_ (fun _ _ => rfl) rfl rfl (.inl rfl) ?_ ?_ ?_ linked.task
  · intro other different
    simp [State.setLink, Function.update_of_ne different]
  · simpa [State.setLink] using valid
  · intro member
    simpa [State.setLink, gone] using (linked.present index member).2
  · intro living absent
    simpa [State.setLink, queue] using linked.detached living index absent

theorem unlockPop (linked : state.Linked) (index first : Nat) (rest : List Nat)
    (lt : index < state.count) (queue : (state.links index).queue = first :: rest) :
    ((state.setLink index { state.links index with
      queue := rest
      front := none }).setRelease (.mixer index) (.reset first [])).Linked := by
  refine linked.of_link index lt ?_ ?_ rfl rfl (.inl rfl) ⟨?_, ?_, ?_⟩ ?_ ?_ ?_
  · intro other different
    simp [State.setLink, State.setRelease, Function.update_of_ne different]
  · intro other different
    simp [State.setLink, State.setRelease, different]
  · simp [State.setLink, State.setRelease]
  · simp [State.setLink, State.setRelease]
  · intro gone
    have : (state.links index).gone = true := by
      simpa [State.setLink, State.setRelease] using gone
    simp [((linked.valid index).gone this).1] at queue
  · intro member
    simpa [State.setLink, State.setRelease] using (linked.present index member).2
  · intro living absent
    simp [(linked.detached living index absent).1] at queue
  · exact linked.task.congr (fun released => by
      simpa [State.setLink, State.setRelease] using released) rfl rfl rfl

theorem move (linked : state.Linked) (taken : Move state next) : next.Linked := by
  cases taken with
  | receive ready alive =>
    exact linked.of_task rfl rfl rfl rfl rfl
      ⟨ready.released, alive, linked.nodup, fun _ member => member⟩
  | flush ready alive =>
    exact linked.of_task rfl rfl rfl rfl rfl ⟨alive, fun _ member => member⟩
  | runCleanup ready posted => exact linked.of_task rfl rfl rfl rfl rfl trivial
  | attach position ready alive => exact linked.addOutput position ready alive
  | trackShutdown ready alive =>
    refine linked.of_dead rfl rfl rfl rfl rfl ?_
    simp [State.trackShutdown, ready.idle, State.Carries]
  | outputShutdown index ready lt present unlocked =>
    refine linked.destruct index .main state.task (state.outputs.erase index) lt unlocked
      (.inr rfl) linked.nodup.not_mem_erase ?_ (.inl rfl)
    simp [ready.idle, State.Carries]
  | shutdown ready running =>
    exact linked.of_dead rfl rfl rfl rfl rfl ⟨rfl, fun index => List.mem_range.mp⟩
  | pushed packet task released =>
    exact ⟨linked.valid, linked.unused, linked.present, linked.nodup, linked.detached,
      linked.dead, trivial⟩
  | push packet index links task released free =>
    exact linked.push packet index links task free
  | acknowledge task released => exact linked.of_task rfl rfl rfl rfl rfl trivial
  | flushLink index links task released unlocked =>
    exact linked.flushLink index links task unlocked
  | stopped task released => exact linked.of_task rfl rfl rfl rfl rfl trivial
  | stopGone index links task released unlocked gone =>
    have carries := linked.task
    rw [task] at carries
    exact linked.of_task rfl rfl rfl rfl rfl
      ⟨carries.1, fun other member => carries.2 other (List.mem_cons_of_mem _ member)⟩
  | stopLink index links task released unlocked present =>
    have carries := linked.task
    rw [task] at carries
    obtain ⟨dead, within⟩ := carries
    exact linked.destruct index .main (.stopping links) state.outputs
      (within index List.mem_cons_self) unlocked (.inl rfl) (by simp [linked.dead dead])
      ⟨dead, fun other member => within other (List.mem_cons_of_mem _ member)⟩ (.inl rfl)
  | swap task released => exact linked.of_task rfl rfl rfl rfl rfl trivial
  | cleaned task released => exact linked.of_task rfl rfl rfl rfl rfl trivial
  | answer packet packets task released => exact linked.of_task rfl rfl rfl rfl rfl trivial
  | mark thread packet queue release =>
    exact linked.of_release thread _ (by simp [release]) rfl rfl rfl rfl rfl rfl
  | dropShared thread packet queue release shared =>
    exact linked.of_release thread _ (by simp [release]) rfl rfl rfl rfl rfl rfl
  | dropLast thread packet queue release last =>
    exact linked.of_release thread _ (by simp [release]) rfl rfl rfl rfl rfl rfl
  | schedule thread packet queue release =>
    refine linked.of_release thread (.loop queue) (by simp [release]) ?_ ?_ ?_ ?_ ?_ ?_ <;>
      simp only [State.schedulePacketCleanup] <;> split <;> rfl
  | lock index lt present unlocked =>
    refine linked.of_mixer index { state.links index with
      flushed := false
      front := some (state.links index).queue.head? } lt rfl ⟨?_, ?_, ?_⟩ rfl _
    · simp
    · exact fun _ => unlocked.released
    · simp [present]
  | read index packet front => exact linked.of_task rfl rfl rfl rfl rfl linked.task
  | unlock index locked =>
    refine linked.of_mixer index { state.links index with front := none }
      (linked.lt_of_locked locked) rfl ⟨?_, ?_, ?_⟩ rfl state.history
    · simp
    · simp
    · exact fun gone => ⟨((linked.valid index).gone gone).1, rfl⟩
  | unlockPop index packet first rest front queue =>
    exact linked.unlockPop index first rest (linked.lt_of_locked (by simp [front])) queue
  | prune index lt present unlocked dead =>
    exact linked.destruct index (.mixer index) state.task state.outputs lt unlocked (.inl rfl)
      (by simp [linked.dead dead])
      (linked.task.congr (fun released => by
        simpa [State.destruct, State.setLink, State.setRelease, State.note] using released)
        rfl rfl rfl) (.inr ⟨rfl, dead⟩)

end State.Linked

end MojoMedia.Audio.PendingQueues
