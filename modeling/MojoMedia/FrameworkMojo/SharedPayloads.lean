import MojoMedia.FrameworkMojo.ConnectionWires

set_option autoImplicit false

namespace MojoMedia.MojoConnection

open Runs FifoAllocator

section Steps

variable {connection next : MojoConnection}

theorem region_fits (owned : connection.Owned) {packet : SharedPacket}
    (supplies : connection.Supplies packet) : Fits packet := by
  obtain ⟨pts, endOfStream, size, payload⟩ := packet
  cases payload with
  | none =>
    obtain rfl : size = 0 := supplies
    exact ⟨by simp, fun offset none => by cases none⟩
  | some offset =>
    have draft : (size, offset) ∈ connection.drafts := supplies
    have held : (size, offset) ∈ connection.payloads.held :=
      owned.owners.symm.subset (by simp [draft])
    have positive : 0 < size := owned.positive _ held
    refine ⟨by simp [Nat.ne_of_gt positive], ?_⟩
    rintro _ ⟨⟩
    exact owned.inside held

theorem takeDraft_perm {packet : SharedPacket} (supplies : connection.Supplies packet) :
    connection.drafts.Perm (packet.region.toList ++ (connection.takeDraft packet).drafts) := by
  unfold Supplies at supplies
  unfold takeDraft
  cases payload : packet.region with
  | none => simp
  | some region =>
    rw [payload] at supplies
    simpa using List.perm_cons_erase supplies

theorem allocate_linked (owned : connection.Owned) (wired : connection.Wired) {size : Nat}
    (taken : connection.step (.allocate size) = some next) : next.Owned ∧ next.Wired := by
  simp only [step] at taken
  split_ifs at taken with refused
  rw [not_or] at refused
  obtain ⟨after, payloads, drafts, rfl⟩ :=
    allocate_owned owned (Nat.pos_of_ne_zero refused.2) refused.1 taken
  exact ⟨after, wired.of_same rfl rfl rfl rfl rfl rfl rfl id wired.accepted⟩

theorem discard_linked (owned : connection.Owned) (wired : connection.Wired) {size offset : Nat}
    (taken : connection.step (.discard size offset) = some next) : next.Owned ∧ next.Wired := by
  simp only [step] at taken
  split_ifs at taken with draft
  have releasing : Releasing { connection with
      drafts := connection.drafts.erase (size, offset) } [(size, offset)] :=
    ⟨owned.sound, owned.sized, owned.positive,
      owned.owners.trans ((List.perm_cons_erase draft).append_right _)⟩
  obtain ⟨after, payloads, rfl⟩ := releaseRegion_owned releasing taken
  exact ⟨after, wired.of_same rfl rfl rfl rfl rfl rfl rfl id wired.accepted⟩

theorem supplyPacket_linked (owned : connection.Owned) (wired : connection.Wired)
    {packet : SharedPacket} (taken : connection.step (.supplyPacket packet) = some next) :
    next.Owned ∧ next.Wired := by
  simp only [step] at taken
  split_ifs at taken with supplies
  have fits := region_fits owned supplies
  have split := takeDraft_perm supplies
  simp only [supplyPacket, move, Option.bind_eq_bind] at taken
  obtain ⟨supplied, moved, rest⟩ := Option.bind_eq_some_iff.mp taken
  obtain ⟨producer, stepped, rfl⟩ := Option.map_eq_some_iff.mp moved
  replace stepped : connection.producer.step (.supplyPacket packet) = some producer := stepped
  have waiting := MojoProducer.supplyPacket_waiting stepped
  obtain ⟨free, rfl⟩ := MojoProducer.supplyPacket_cases stepped
  obtain ⟨consumer, posted, unanswered, buffer⟩ :=
    connection.producer.supplyPacket_untouched packet
  have accepted (other : SharedPacket)
      (taken : (connection.producer.supplyPacket packet).accepted = some other) : Fits other := by
    rw [MojoProducer.supplyPacket_accepted] at taken
    split_ifs at taken
    · cases taken
      exact fits
    · cases free.symm.trans taken
  have wiredAfter : Wired { connection.takeDraft packet with
      producer := connection.producer.supplyPacket packet } :=
    wired.of_same consumer posted unanswered rfl rfl rfl rfl buffer.trans accepted
  split_ifs at rest with bound
  · cases rest
    refine ⟨owned.of_perm rfl buffer ?_, wiredAfter⟩
    rw [if_pos bound] at waiting
    rw [waiting]
    refine List.perm_iff_count.mpr fun region => ?_
    have counted := split.count_eq region
    have one : regions [packet] = packet.region.toList := by
      cases payload : packet.region <;> simp [regions, payload]
    simp only [regions_append, one, List.count_append] at counted ⊢
    simp only [takeDraft] at counted ⊢
    omega
  · rw [if_neg bound, List.nil_append] at waiting
    have releasing : Releasing { connection.takeDraft packet with
        producer := connection.producer.supplyPacket packet } packet.region.toList := by
      refine ⟨owned.sound, by rw [buffer]; exact owned.sized, owned.positive, ?_⟩
      rw [waiting, ← List.append_assoc]
      exact owned.owners.trans (split.append_right _)
    obtain ⟨after, payloads, rfl⟩ := releasePacket_owned releasing rest
    exact ⟨after, wiredAfter.of_same rfl rfl rfl rfl rfl rfl rfl id wiredAfter.accepted⟩

theorem push_linked (owned : connection.Owned) (wired : connection.Wired)
    (taken : connection.step .push = some next) : next.Owned ∧ next.Wired := by
  simp only [step, move, Option.map_map] at taken
  obtain ⟨producer, stepped, rfl⟩ := Option.map_eq_some_iff.mp taken
  have waiting := MojoProducer.push_waiting stepped
  obtain ⟨packet, accepted, rfl⟩ := MojoProducer.push_cases stepped
  have fields : (connection.producer.push packet).consumer = connection.producer.consumer ∧
      (connection.producer.push packet).accepted = none ∧
      (connection.producer.push packet).posted = connection.producer.posted ++
        [(packet, MojoProducer.createMediaPacket packet)] ∧
      (connection.producer.push packet).unanswered = connection.producer.unanswered ∧
      (connection.producer.push packet).buffer = connection.producer.buffer := by
    unfold MojoProducer.push
    dsimp only
    split_ifs <;> exact ⟨rfl, rfl, rfl, rfl, rfl⟩
  obtain ⟨consumer, none, posted, unanswered, buffer⟩ := fields
  refine ⟨owned.of_perm rfl buffer ?_, wired.push consumer accepted none posted unanswered buffer
    (by rw [accepted]; rfl) rfl rfl rfl⟩
  exact (regions_perm (waiting.append_right _)).append_left _

theorem send_linked (owned : connection.Owned) (wired : connection.Wired)
    (alive : next.producer.crashed = false) (taken : connection.step .sendPacket = some next) :
    next.Owned ∧ next.Wired := by
  simp only [step, move, Option.map_map] at taken
  obtain ⟨producer, stepped, rfl⟩ := Option.map_eq_some_iff.mp taken
  have waiting := MojoProducer.sendPacket_waiting stepped alive
  obtain ⟨packet, mediaPacket, rest, sentBefore, -, front, bound, rfl⟩ :=
    MojoProducer.sendPacket_cases stepped alive
  refine ⟨owned.of_perm rfl rfl ?_, wired.send bound rfl front rfl rfl rfl rfl rfl rfl rfl rfl⟩
  exact (regions_perm (waiting.append_right _)).append_left _

theorem answer_linked (owned : connection.Owned) (wired : connection.Wired)
    (taken : connection.step .answer = some next) : next.Owned ∧ next.Wired := by
  refine ⟨?_, wired.answer taken⟩
  simp only [step, answer] at taken
  split at taken
  next => cases taken
  next call rest answers =>
    simp only [move, Option.map_map] at taken
    obtain ⟨producer, stepped, rfl⟩ := Option.map_eq_some_iff.mp taken
    have waiting := MojoProducer.answer_waiting stepped
    obtain ⟨packet, -, -, rfl⟩ := MojoProducer.answer_cases stepped
    refine owned.of_perm rfl rfl ?_
    exact (regions_perm (waiting.append_right _)).append_left _

theorem detach_perm {producer : MojoProducer}
    (accepted : producer.accepted = connection.producer.accepted)
    (posted : producer.posted = connection.producer.posted) (unanswered : producer.unanswered = [])
    (tasks : producer.tasks.filterMap MojoProducer.answered? =
      connection.producer.tasks.filterMap MojoProducer.answered?) :
    (producer.waiting ++ (connection.lost ++ connection.producer.unanswered)).Perm
      (connection.producer.waiting ++ connection.lost) := by
  refine List.perm_iff_count.mpr fun packet => ?_
  simp only [MojoProducer.waiting, accepted, posted, unanswered, tasks, List.count_append,
    List.count_nil]
  omega

theorem connect_linked (owned : connection.Owned) (wired : connection.Wired)
    (taken : connection.step .connect = some next) : next.Owned ∧ next.Wired := by
  obtain ⟨ready, initialized, moved⟩ := Option.bind_eq_some_iff.mp taken
  obtain ⟨⟨payloads, rfl⟩, sound, held, size⟩ := initBuffer_owned owned initialized
  obtain ⟨producer, stepped, rfl⟩ := Option.map_eq_some_iff.mp moved
  replace stepped : connection.producer.step .connect = some producer := stepped
  obtain ⟨-, rfl⟩ := MojoProducer.connect_cases stepped
  have buffer : connection.producer.connect.buffer = some bufferSize := by
    rcases owned.sized with ⟨none, -⟩ | ⟨some, -⟩
    · simp [MojoProducer.connect, MojoProducer.initBuffer, none, bufferSize]
    · simp [MojoProducer.connect, MojoProducer.initBuffer, some]
  constructor
  · refine ⟨sound, .inr ⟨buffer, size⟩, ?_, ?_⟩
    · simp only at held
      exact fun region member => owned.positive region (held ▸ member)
    · simp only at held
      have lost : (connection.producer.connect.waiting ++
          (connection.lost ++ connection.producer.unanswered)).Perm
            (connection.producer.waiting ++ connection.lost) := detach_perm rfl rfl rfl rfl
      simp only [detach, held]
      exact owned.owners.trans ((regions_perm lost.symm).append_left _)
  · exact wired.detached (.inr ⟨rfl, buffer⟩) rfl rfl rfl rfl rfl rfl rfl

theorem disconnect_linked (owned : connection.Owned) (wired : connection.Wired)
    (taken : connection.step .disconnect = some next) : next.Owned ∧ next.Wired := by
  obtain ⟨producer, stepped, rfl⟩ := Option.map_eq_some_iff.mp taken
  obtain ⟨tasks, rfl⟩ := MojoProducer.disconnect_cases stepped
  have waiting : connection.producer.disconnect.waiting = connection.producer.waiting :=
    MojoProducer.waiting_of_same rfl rfl rfl (by rw [tasks]; rfl)
  exact ⟨owned.of_perm rfl rfl (by rw [waiting]),
    wired.of_same rfl rfl rfl rfl rfl rfl rfl id wired.accepted⟩

theorem flushConnection_linked (owned : connection.Owned) (wired : connection.Wired)
    (taken : connection.step .flushConnection = some next) : next.Owned ∧ next.Wired := by
  obtain ⟨producer, stepped, rfl⟩ := Option.map_eq_some_iff.mp taken
  obtain ⟨tasks, rfl⟩ := MojoProducer.flushConnection_cases stepped
  have waiting : connection.producer.flushConnection.waiting = connection.producer.waiting :=
    MojoProducer.waiting_of_same rfl rfl rfl (by rw [tasks]; rfl)
  exact ⟨owned.of_perm rfl rfl (by rw [waiting]),
    wired.of_same rfl rfl rfl rfl rfl rfl rfl id wired.accepted⟩

theorem primeConnection_linked (owned : connection.Owned) (wired : connection.Wired)
    (taken : connection.step .primeConnection = some next) : next.Owned ∧ next.Wired := by
  simp only [step] at taken
  split_ifs at taken with bound
  · obtain ⟨producer, stepped, rfl⟩ := Option.map_eq_some_iff.mp taken
    obtain ⟨tasks, rfl⟩ := MojoProducer.primeConnection_cases stepped
    simp only [MojoProducer.primeConnection, if_pos bound]
    have waiting : MojoProducer.waiting { connection.producer with
        maxPushesOutstanding := 3
        tasks :=
          [.signal (MojoProducer.windowDemand connection.producer.currentPushesOutstanding 3),
            .prime] } = connection.producer.waiting :=
      MojoProducer.waiting_of_same rfl rfl rfl (by rw [tasks]; rfl)
    exact ⟨owned.of_perm rfl rfl (by rw [waiting]),
      wired.of_same rfl rfl rfl rfl rfl rfl rfl id wired.accepted⟩
  · obtain ⟨ready, initialized, moved⟩ := Option.bind_eq_some_iff.mp taken
    obtain ⟨⟨payloads, rfl⟩, sound, held, size⟩ := initBuffer_owned owned initialized
    obtain ⟨producer, stepped, rfl⟩ := Option.map_eq_some_iff.mp moved
    replace stepped : connection.producer.step .primeConnection = some producer := stepped
    obtain ⟨tasks, rfl⟩ := MojoProducer.primeConnection_cases stepped
    simp only at held
    simp only [MojoProducer.primeConnection, if_neg bound]
    have buffer : connection.producer.initBuffer.buffer = some bufferSize := by
      rcases owned.sized with ⟨none, -⟩ | ⟨some, -⟩
      · simp [MojoProducer.initBuffer, none, bufferSize]
      · simp [MojoProducer.initBuffer, some]
    refine ⟨⟨sound, .inr ⟨buffer, size⟩, ?_, ?_⟩,
      wired.of_same rfl rfl rfl rfl rfl rfl rfl (fun _ => buffer) wired.accepted⟩
    · exact fun region member => owned.positive region (held ▸ member)
    · have waiting : MojoProducer.waiting { connection.producer.initBuffer with
          tasks := [.signal .neutral, .prime] } = connection.producer.waiting :=
        MojoProducer.waiting_of_same rfl rfl rfl (by rw [tasks]; rfl)
      simp only [held, waiting]
      exact owned.owners

theorem told_linked (owned : connection.Owned) (wired : connection.Wired)
    {producer : MojoProducer} (more : List ConsumerMessage) (quiet : sends more = [])
    (told : producer.consumer = connection.producer.consumer.map (· ++ more))
    (accepted : producer.accepted = connection.producer.accepted)
    (posted : producer.posted = connection.producer.posted)
    (unanswered : producer.unanswered = connection.producer.unanswered)
    (tasks : producer.tasks.filterMap MojoProducer.answered? =
      connection.producer.tasks.filterMap MojoProducer.answered?)
    (buffer : producer.buffer = connection.producer.buffer) :
    Owned { connection with producer } ∧ Wired { connection with producer } := by
  have waiting := MojoProducer.waiting_of_same accepted posted unanswered tasks
  refine ⟨owned.of_perm rfl buffer (by rw [waiting]), ?_⟩
  exact wired.keep more told quiet posted unanswered rfl rfl rfl rfl buffer.trans
    (accepted ▸ wired.accepted)

theorem answered_linked (owned : connection.Owned) (wired : connection.Wired)
    {packet : SharedPacket} {rest : List PushTask}
    (tasks : connection.producer.tasks = .answered packet :: rest)
    (taken : connection.proceed = some next) : next.Owned ∧ next.Wired := by
  simp only [proceed, tasks] at taken
  obtain ⟨answered, moved, released⟩ := Option.bind_eq_some_iff.mp taken
  obtain ⟨producer, stepped, rfl⟩ := Option.map_eq_some_iff.mp moved
  have proceeded := MojoProducer.proceed_cases stepped
  have fields : producer.accepted = connection.producer.accepted ∧
      producer.posted = connection.producer.posted ∧
      producer.unanswered = connection.producer.unanswered ∧ producer.tasks = rest ∧
      producer.consumer = connection.producer.consumer ∧
      producer.buffer = connection.producer.buffer := by
    simp only [MojoProducer.proceed, tasks] at proceeded
    split_ifs at proceeded <;> cases proceeded <;> exact ⟨rfl, rfl, rfl, rfl, rfl, rfl⟩
  obtain ⟨accepted, posted, unanswered, later, consumer, buffer⟩ := fields
  have waiting : (packet :: producer.waiting).Perm connection.producer.waiting := by
    refine List.perm_iff_count.mpr fun other => ?_
    simp only [MojoProducer.waiting, accepted, posted, unanswered, later, tasks,
      MojoProducer.answered?, List.filterMap_cons, List.count_cons, List.count_append]
    omega
  have releasing : Releasing { connection with producer } packet.region.toList := by
    refine ⟨owned.sound, by rw [buffer]; exact owned.sized, owned.positive, ?_⟩
    refine owned.owners.trans (List.perm_iff_count.mpr fun region => ?_)
    have counted := (regions_perm waiting).count_eq region
    have first : regions (packet :: producer.waiting) =
        packet.region.toList ++ regions producer.waiting := by
      cases payload : packet.region <;> simp [regions, payload]
    simp only [first, regions_append, List.count_append, List.nil_append] at counted ⊢
    omega
  obtain ⟨after, payloads, rfl⟩ := releasePacket_owned releasing released
  exact ⟨after, wired.of_same consumer posted unanswered rfl rfl rfl rfl buffer.trans
    (accepted ▸ wired.accepted)⟩

theorem reset_linked (owned : connection.Owned) (wired : connection.Wired) {rest : List PushTask}
    (tasks : connection.producer.tasks = .reset :: rest)
    (taken : connection.proceed = some next) : next.Owned ∧ next.Wired := by
  simp only [proceed, tasks] at taken
  obtain ⟨producer, stepped, rfl⟩ := Option.map_eq_some_iff.mp taken
  have proceeded : connection.producer.proceed = some producer :=
    MojoProducer.proceed_cases stepped
  simp only [MojoProducer.proceed, tasks, Option.some.injEq] at proceeded
  subst proceeded
  refine ⟨⟨owned.sound, owned.sized, owned.positive, ?_⟩,
    wired.detached (.inl rfl) rfl rfl rfl rfl rfl rfl rfl⟩
  refine owned.owners.trans ((regions_perm
    (List.Perm.symm (detach_perm ?_ ?_ ?_ ?_))).append_left _)
  · rfl
  · rfl
  · rfl
  · rw [tasks]
    rfl

theorem move_proceed_cases (taken : connection.move .proceed = some next) :
    ∃ producer, connection.producer.proceed = some producer ∧
      next = { connection with producer } := by
  obtain ⟨producer, stepped, rfl⟩ := Option.map_eq_some_iff.mp taken
  exact ⟨producer, MojoProducer.proceed_cases stepped, rfl⟩

theorem proceed_linked (owned : connection.Owned) (wired : connection.Wired)
    (taken : connection.proceed = some next) : next.Owned ∧ next.Wired := by
  cases tasks : connection.producer.tasks with
  | nil =>
    simp only [proceed, tasks] at taken
    obtain ⟨producer, proceeded, -⟩ := move_proceed_cases taken
    simp [MojoProducer.proceed, tasks] at proceeded
  | cons task rest =>
    cases task with
    | answered packet => exact answered_linked owned wired tasks taken
    | reset => exact reset_linked owned wired tasks taken
    | signal demand =>
      simp only [proceed, tasks] at taken
      obtain ⟨producer, proceeded, rfl⟩ := move_proceed_cases taken
      simp only [MojoProducer.proceed, tasks, Option.some.injEq] at proceeded
      subst proceeded
      exact told_linked owned wired [] rfl (by simp) rfl rfl rfl (by rw [tasks]; rfl) rfl
    | prime =>
      simp only [proceed, tasks] at taken
      obtain ⟨producer, proceeded, rfl⟩ := move_proceed_cases taken
      simp only [MojoProducer.proceed, tasks, Option.some.injEq] at proceeded
      subst proceeded
      exact told_linked owned wired [.prime] rfl rfl rfl rfl rfl (by rw [tasks]; rfl) rfl
    | flush =>
      simp only [proceed, tasks] at taken
      obtain ⟨producer, proceeded, rfl⟩ := move_proceed_cases taken
      simp only [MojoProducer.proceed, tasks, Option.some.injEq] at proceeded
      subst proceeded
      exact told_linked owned wired [.flush] rfl rfl rfl rfl rfl (by rw [tasks]; rfl) rfl

theorem consumer_linked (owned : connection.Owned) {consumer : MojoConsumer}
    (wired : Wired { connection with consumer }) :
    Owned { connection with consumer } ∧ Wired { connection with consumer } :=
  ⟨owned.of_perm rfl rfl (List.Perm.refl _), wired⟩

theorem move_alive {event : MojoProducer.Event} (taken : connection.move event = some next) :
    connection.producer.crashed = false := by
  obtain ⟨producer, stepped, -⟩ := Option.map_eq_some_iff.mp taken
  by_contra crashed
  simp [MojoProducer.step, crashed] at stepped

theorem step_linked {event : Event} (owned : connection.Owned) (wired : connection.Wired)
    (alive : next.producer.crashed = false) (taken : connection.step event = some next) :
    next.Owned ∧ next.Wired := by
  cases event with
  | allocate size => exact allocate_linked owned wired taken
  | discard size offset => exact discard_linked owned wired taken
  | supplyPacket packet => exact supplyPacket_linked owned wired taken
  | push => exact push_linked owned wired taken
  | connect => exact connect_linked owned wired taken
  | disconnect => exact disconnect_linked owned wired taken
  | primeConnection => exact primeConnection_linked owned wired taken
  | flushConnection => exact flushConnection_linked owned wired taken
  | proceed => exact proceed_linked owned wired taken
  | sendPacket => exact send_linked owned wired alive taken
  | answer => exact answer_linked owned wired taken
  | receive =>
    have after := wired.receive taken
    simp only [step, receive] at taken
    split_ifs at taken
    obtain ⟨message, -, rfl⟩ := Option.map_eq_some_iff.mp taken
    exact ⟨owned.of_perm rfl rfl (List.Perm.refl _), after⟩
  | release index =>
    obtain ⟨consumer, released, rfl⟩ := Option.map_eq_some_iff.mp taken
    exact consumer_linked owned (wired.release released)
  | runTask =>
    obtain ⟨consumer, run, rfl⟩ := Option.map_eq_some_iff.mp taken
    exact consumer_linked owned (wired.runTask run)

theorem releaseRegion_producer {region : Nat × Nat}
    (taken : connection.releaseRegion region = some next) :
    next.producer = connection.producer := by
  obtain ⟨payloads, -, rfl⟩ := Option.map_eq_some_iff.mp taken
  rfl

theorem initBuffer_producer (taken : connection.initBuffer = some next) :
    next.producer = connection.producer := by
  unfold initBuffer at taken
  split_ifs at taken
  · obtain ⟨payloads, -, rfl⟩ := Option.map_eq_some_iff.mp taken
    rfl
  · cases taken
    rfl

theorem step_alive {event : Event} (taken : connection.step event = some next)
    (alive : next.producer.crashed = false) : connection.producer.crashed = false := by
  cases event with
  | allocate size =>
    simp only [step, allocate, Option.bind_eq_bind] at taken
    split_ifs at taken
    obtain ⟨⟨offset, allocator⟩, -, rest⟩ := Option.bind_eq_some_iff.mp taken
    split_ifs at rest <;> cases rest <;> exact alive
  | discard size offset =>
    simp only [step] at taken
    split_ifs at taken
    rwa [releaseRegion_producer taken] at alive
  | supplyPacket packet =>
    simp only [step] at taken
    split_ifs at taken
    obtain ⟨supplied, moved, -⟩ := Option.bind_eq_some_iff.mp taken
    have before := move_alive moved
    exact before
  | push | sendPacket =>
    obtain ⟨after, moved, -⟩ := Option.map_eq_some_iff.mp taken
    exact move_alive moved
  | connect =>
    obtain ⟨ready, initialized, moved⟩ := Option.bind_eq_some_iff.mp taken
    have before := move_alive moved
    change ready.producer.crashed = false at before
    rwa [initBuffer_producer initialized] at before
  | disconnect | flushConnection => exact move_alive taken
  | primeConnection =>
    simp only [step] at taken
    split_ifs at taken
    · exact move_alive taken
    · obtain ⟨ready, initialized, moved⟩ := Option.bind_eq_some_iff.mp taken
      have before := move_alive moved
      rwa [initBuffer_producer initialized] at before
  | proceed =>
    simp only [step, proceed] at taken
    split at taken
    next =>
      obtain ⟨answered, moved, -⟩ := Option.bind_eq_some_iff.mp taken
      exact move_alive moved
    next =>
      have before := move_alive taken
      exact before
    next => exact move_alive taken
  | answer =>
    simp only [step, answer] at taken
    split at taken
    next => cases taken
    next =>
      obtain ⟨after, moved, -⟩ := Option.map_eq_some_iff.mp taken
      exact move_alive moved
  | receive =>
    simp only [step, receive] at taken
    split_ifs at taken
    obtain ⟨message, -, rfl⟩ := Option.map_eq_some_iff.mp taken
    exact alive
  | release index | runTask =>
    obtain ⟨consumer, -, rfl⟩ := Option.map_eq_some_iff.mp taken
    exact alive

end Steps

def Linked (connection : MojoConnection) : Prop :=
  connection.producer.crashed = false → connection.Owned ∧ connection.Wired

theorem start_linked : Linked {} := by
  intro _
  have none : (Client.start 0).held = [] := rfl
  refine ⟨⟨start_sound 0 (by decide), .inl ⟨rfl, none⟩, by simp [none], by simp [none]; rfl⟩, ?_⟩
  exact {
    accepted := by simp
    fits := by simp
    posted := by simp
    sent := ⟨[], rfl, rfl⟩
    opened := by simp
    cursor := Nat.zero_le _
    mapped := by simp
    supplied := rfl
    holds := by simp
    originals := rfl
    ordered := List.Sublist.refl _
    places := List.Perm.refl _
    fine := rfl }

theorem run_linked {events : List Event} {final : MojoConnection}
    (reached : run step {} events = some final) (alive : final.producer.crashed = false) :
    final.Owned ∧ final.Wired := by
  refine invariant_of_run step Linked ?_ {} final events start_linked reached alive
  intro connection event next linked taken alive
  obtain ⟨owned, wired⟩ := linked (step_alive taken alive)
  exact step_linked owned wired alive taken

theorem held_regions {connection : MojoConnection} (wired : connection.Wired) :
    (regions (connection.consumer.held.map Prod.snd)).Subperm
      (regions connection.producer.unanswered) := by
  let original (call : Nat) : Option (Nat × Nat) :=
    connection.pushed[call]?.bind SharedPacket.region
  have waited : regions connection.producer.unanswered = connection.calls.filterMap original := by
    have both := congrArg (List.filterMap fun found => found.bind SharedPacket.region)
      wired.originals
    simpa [regions, List.filterMap_map, Function.comp_def, original] using both.symm
  have held : regions (connection.consumer.held.map Prod.snd) =
      (connection.consumer.held.map Prod.fst).filterMap original := by
    simp only [regions, List.filterMap_map]
    refine List.filterMap_congr fun entry member => ?_
    simp [original, wired.holds entry member]
  rw [waited, held]
  refine List.Subperm.trans (List.Sublist.subperm ?_) (wired.places.filterMap original).symm.subperm
  simp only [List.filterMap_append]
  exact (List.sublist_append_left _ _).trans (List.sublist_append_right _ _)

-- The call of every packet that the producer waits for is in one place: its message has been sent
-- and not read, or it is with the consumer's graph, in a task, or in an answer on its way.
theorem payloads_stay_until_answered {events : List Event} {final : MojoConnection}
    (reached : run step {} events = some final) (alive : final.producer.crashed = false) :
    final.consumer.failed = false ∧ final.consumer.supplied <+: final.pushed ∧
      (∀ entry ∈ final.consumer.held, final.pushed[entry.1]? = some entry.2 ∧
        entry.2 ∈ final.producer.unanswered) ∧
      (final.drafts ++ regions (final.consumer.held.map Prod.snd ++ final.lost)).Pairwise Apart ∧
      final.calls.Nodup ∧
      final.calls.map (final.pushed[·]?) = final.producer.unanswered.map some ∧
      final.calls.Perm
        (List.range' final.consumer.supplied.length
            ((sends final.messages).length - final.consumer.supplied.length) ++
          (final.consumer.held.map Prod.fst ++
            (final.consumer.tasks ++ final.consumer.answers))) := by
  obtain ⟨owned, wired⟩ := run_linked reached alive
  refine ⟨wired.fine, ?_, ?_, ?_, wired.ordered.nodup List.nodup_range, wired.originals,
    wired.places⟩
  · rw [wired.supplied]
    exact List.take_prefix _ _
  · intro entry member
    have original := wired.holds entry member
    refine ⟨original, ?_⟩
    have waited : entry.1 ∈ final.calls := by
      refine wired.places.symm.subset ?_
      simp only [List.mem_append, List.mem_map]
      exact .inr (.inl ⟨entry, member, rfl⟩)
    have image : some entry.2 ∈ final.producer.unanswered.map some := by
      rw [← wired.originals, ← original]
      exact List.mem_map_of_mem waited
    simpa using image
  · have part : (final.drafts ++ regions (final.consumer.held.map Prod.snd ++ final.lost)).Subperm
        final.payloads.held := by
      have waits : (regions final.producer.unanswered).Sublist
          (regions final.producer.waiting) := by
        simp only [MojoProducer.waiting, regions_append]
        exact (List.sublist_append_left _ _).trans
          ((List.sublist_append_right _ _).trans (List.sublist_append_right _ _))
      have held := (held_regions wired).trans waits.subperm
      refine List.Subperm.trans ?_ owned.owners.symm.subperm
      rw [regions_append, List.nil_append, regions_append]
      exact (List.Subperm.refl _).append (held.append (List.Subperm.refl _))
    obtain ⟨same, perm, sublist⟩ := part
    exact perm.pairwise (owned.apart.sublist sublist) fun apart => apart.symm

def oneHeld : List Event :=
  [.connect, .primeConnection, .proceed, .proceed, .allocate 100,
    .supplyPacket { pts := 5, size := 100, payload := some 0 }, .push, .sendPacket,
    .allocate 60, .supplyPacket { pts := 6, size := 60, payload := some 100 }, .push, .sendPacket,
    .receive, .receive, .receive, .allocate 50]

theorem payloads_stay_until_answered_with_draft :
    ∃ final, run step {} oneHeld = some final ∧ final.drafts = [(50, 160)] ∧
      regions (final.consumer.held.map Prod.snd) = [(100, 0)] ∧
      (final.drafts ++ regions (final.consumer.held.map Prod.snd ++ final.lost)).Pairwise
        Apart ∧
      final.calls = [0, 1] ∧ final.calls.map (final.pushed[·]?) =
        final.producer.unanswered.map some ∧ final.calls.Perm ([1] ++ [0]) := by
  obtain ⟨final, reached, alive, drafts, held, calls, supplied, sent, placed⟩ :
      ∃ final, run step {} oneHeld = some final ∧
        final.producer.crashed = false ∧ final.drafts = [(50, 160)] ∧
        regions (final.consumer.held.map Prod.snd) = [(100, 0)] ∧ final.calls = [0, 1] ∧
        final.consumer.supplied.length = 1 ∧ (sends final.messages).length = 2 ∧
        final.consumer.held.map Prod.fst ++ (final.consumer.tasks ++ final.consumer.answers) =
          [0] := ⟨_, rfl, rfl, rfl, rfl, rfl, rfl, rfl, rfl⟩
  obtain ⟨-, -, -, apart, -, originals, places⟩ := payloads_stay_until_answered reached alive
  rw [supplied, sent, placed] at places
  exact ⟨final, reached, drafts, held, apart, calls, originals, places⟩

end MojoMedia.MojoConnection
