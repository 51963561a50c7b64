import MojoMedia.FrameworkMojo.MojoConsumer
import MojoMedia.Transport.FifoAllocatorRecovery
import Mathlib.Data.List.Perm.Subperm

set_option autoImplicit false

namespace MojoMedia

namespace MojoProducer

def answered? : PushTask → Option SharedPacket
  | .answered packet => some packet
  | .signal _ | .prime | .flush | .reset => none

def waiting (producer : MojoProducer) : List SharedPacket :=
  producer.accepted.toList ++ (producer.posted.map Prod.fst ++
    (producer.unanswered ++ producer.tasks.filterMap answered?))

variable {producer next : MojoProducer}

theorem idle_iff : producer.idle = true ↔ producer.tasks = [] := by
  simp [idle]

theorem connect_cases (taken : producer.step .connect = some next) :
    producer.tasks = [] ∧ next = producer.connect := by
  simp only [step] at taken
  split_ifs at taken with crashed idle
  cases taken
  exact ⟨idle_iff.mp idle, rfl⟩

theorem disconnect_cases (taken : producer.step .disconnect = some next) :
    producer.tasks = [] ∧ next = producer.disconnect := by
  simp only [step] at taken
  split_ifs at taken with crashed idle
  cases taken
  exact ⟨idle_iff.mp idle, rfl⟩

theorem primeConnection_cases (taken : producer.step .primeConnection = some next) :
    producer.tasks = [] ∧ next = producer.primeConnection := by
  simp only [step] at taken
  split_ifs at taken with crashed idle
  cases taken
  exact ⟨idle_iff.mp idle, rfl⟩

theorem flushConnection_cases (taken : producer.step .flushConnection = some next) :
    producer.tasks = [] ∧ next = producer.flushConnection := by
  simp only [step] at taken
  split_ifs at taken with crashed idle
  cases taken
  exact ⟨idle_iff.mp idle, rfl⟩

theorem proceed_cases (taken : producer.step .proceed = some next) :
    producer.proceed = some next := by
  simp only [step] at taken
  split_ifs at taken with crashed
  exact taken

theorem sendPacket_cases (taken : producer.step .sendPacket = some next)
    (alive : next.crashed = false) :
    ∃ packet mediaPacket rest messages, producer.tasks = [] ∧
      producer.posted = (packet, mediaPacket) :: rest ∧ producer.consumer = some messages ∧
      next = { producer with
        posted := rest
        consumer := some (messages ++ [.sendPacket mediaPacket])
        unanswered := producer.unanswered ++ [packet] } := by
  simp only [step] at taken
  split_ifs at taken with crashed idle
  split at taken
  next => cases taken
  next packet mediaPacket rest posted =>
    cases bound : producer.consumer with
    | none =>
      simp only [sendPacket, bound, Option.some.injEq] at taken
      subst taken
      cases alive
    | some messages =>
      simp only [sendPacket, bound, tell, Option.map_some, Option.some.injEq] at taken
      exact ⟨packet, mediaPacket, rest, messages, idle_iff.mp idle, posted, rfl, taken.symm⟩

theorem answer_cases {index : Nat} (taken : producer.step (.answer index) = some next) :
    ∃ packet, producer.tasks = [] ∧ producer.unanswered[index]? = some packet ∧
      next = { producer with unanswered := producer.unanswered.eraseIdx index }.answer packet := by
  simp only [step] at taken
  split_ifs at taken with crashed idle
  obtain ⟨packet, found, rfl⟩ := Option.map_eq_some_iff.mp taken
  exact ⟨packet, idle_iff.mp idle, found, rfl⟩

theorem supplyPacket_cases {packet : SharedPacket}
    (taken : producer.step (.supplyPacket packet) = some next) :
    producer.accepted = none ∧ next = producer.supplyPacket packet := by
  simp only [step] at taken
  split_ifs at taken with crashed enabled
  cases taken
  exact ⟨enabled.2, rfl⟩

theorem push_cases (taken : producer.step .push = some next) :
    ∃ packet, producer.accepted = some packet ∧ next = producer.push packet := by
  simp only [step] at taken
  split_ifs at taken with crashed
  obtain ⟨packet, accepted, rfl⟩ := Option.map_eq_some_iff.mp taken
  exact ⟨packet, accepted, rfl⟩

theorem waiting_of_same (accepted : next.accepted = producer.accepted)
    (posted : next.posted = producer.posted) (unanswered : next.unanswered = producer.unanswered)
    (tasks : next.tasks.filterMap answered? = producer.tasks.filterMap answered?) :
    next.waiting = producer.waiting := by
  rw [waiting, waiting, accepted, posted, unanswered, tasks]

theorem sendPacket_waiting (taken : producer.step .sendPacket = some next)
    (alive : next.crashed = false) : next.waiting.Perm producer.waiting := by
  obtain ⟨packet, mediaPacket, rest, messages, -, posted, -, rfl⟩ := sendPacket_cases taken alive
  refine List.perm_iff_count.mpr fun other => ?_
  simp only [waiting, posted, List.map_cons, List.count_append, List.count_cons, List.count_nil]
  omega

theorem answer_waiting {index : Nat} (taken : producer.step (.answer index) = some next) :
    next.waiting.Perm producer.waiting := by
  obtain ⟨packet, tasks, found, rfl⟩ := answer_cases taken
  obtain ⟨inside, rfl⟩ := List.getElem?_eq_some_iff.mp found
  have erased := List.getElem_cons_eraseIdx_perm inside
  refine List.perm_iff_count.mpr fun other => ?_
  have counted := erased.count_eq other
  simp only [waiting, answer, tasks, List.count_append, List.filterMap_cons, List.filterMap_nil,
    answered?, List.count_cons, List.count_nil] at counted ⊢
  omega

theorem push_waiting (taken : producer.step .push = some next) :
    next.waiting.Perm producer.waiting := by
  obtain ⟨packet, accepted, rfl⟩ := push_cases taken
  have same : (producer.push packet).waiting =
      producer.posted.map Prod.fst ++ [packet] ++ (producer.unanswered ++
        producer.tasks.filterMap answered?) := by
    unfold push
    split_ifs <;> simp [waiting]
  rw [same]
  refine List.perm_iff_count.mpr fun other => ?_
  simp only [waiting, accepted, Option.toList_some, List.count_append]
  omega

theorem supplyPacket_untouched (producer : MojoProducer) (packet : SharedPacket) :
    (producer.supplyPacket packet).consumer = producer.consumer ∧
      (producer.supplyPacket packet).posted = producer.posted ∧
      (producer.supplyPacket packet).unanswered = producer.unanswered ∧
      (producer.supplyPacket packet).buffer = producer.buffer := by
  unfold supplyPacket
  split_ifs <;> exact ⟨rfl, rfl, rfl, rfl⟩

theorem supplyPacket_accepted (producer : MojoProducer) (packet : SharedPacket) :
    (producer.supplyPacket packet).accepted =
      if producer.consumer.isSome then some packet else producer.accepted := by
  unfold supplyPacket
  split_ifs <;> rfl

theorem supplyPacket_waiting {packet : SharedPacket}
    (taken : producer.step (.supplyPacket packet) = some next) :
    next.waiting = (if producer.consumer.isSome then [packet] else []) ++ producer.waiting := by
  obtain ⟨accepted, rfl⟩ := supplyPacket_cases taken
  unfold supplyPacket
  by_cases bound : producer.consumer.isSome
  · simp [bound, waiting, accepted]
  · rw [if_neg bound, if_neg bound]
    split_ifs <;> simp [waiting, accepted, setState]

end MojoProducer

namespace MojoConnection

open Runs FifoAllocator

def bufferSize : Nat := 2048 * 1024

def regions (packets : List SharedPacket) : List (Nat × Nat) :=
  packets.filterMap SharedPacket.region

def Fits (packet : SharedPacket) : Prop :=
  (packet.size = 0 ↔ packet.payload = none) ∧
    ∀ offset, packet.payload = some offset → offset + packet.size ≤ bufferSize

structure Releasing (connection : MojoConnection) (released : List (Nat × Nat)) : Prop where
  sound : FifoAllocator.Sound connection.payloads
  sized : connection.producer.buffer = none ∧ connection.payloads.held = [] ∨
    connection.producer.buffer = some bufferSize ∧
      connection.payloads.allocator.size = bufferSize
  positive : ∀ region ∈ connection.payloads.held, 0 < region.1
  owners : connection.payloads.held.Perm (released ++
    (connection.drafts ++ regions (connection.producer.waiting ++ connection.lost)))

def Owned (connection : MojoConnection) : Prop := connection.Releasing []

section Regions

variable {connection next : MojoConnection}

theorem Owned.apart (owned : connection.Owned) : connection.payloads.held.Pairwise Apart := by
  obtain ⟨nodes, frees, wellFormed, held⟩ := owned.sound
  exact held.symm.pairwise (ledger_apart wellFormed.layout.tiles) fun apart => apart.symm

theorem Owned.inside (owned : connection.Owned) {region : Nat × Nat}
    (held : region ∈ connection.payloads.held) : region.2 + region.1 ≤ bufferSize := by
  obtain ⟨nodes, frees, wellFormed, perm⟩ := owned.sound
  have bound := ledger_inside wellFormed.layout.tiles region (perm.subset held)
  rcases owned.sized with ⟨-, none⟩ | ⟨-, size⟩
  · simp [none] at held
  · exact size ▸ bound

theorem Owned.of_perm (owned : connection.Owned) (payloads : next.payloads = connection.payloads)
    (buffer : next.producer.buffer = connection.producer.buffer)
    (handed : (next.drafts ++ regions (next.producer.waiting ++ next.lost)).Perm
      (connection.drafts ++ regions (connection.producer.waiting ++ connection.lost))) :
    next.Owned where
  sound := payloads ▸ owned.sound
  sized := by rw [payloads, buffer]; exact owned.sized
  positive := payloads ▸ owned.positive
  owners := payloads ▸ owned.owners.trans handed.symm

theorem regions_perm {left right : List SharedPacket} (same : left.Perm right) :
    (regions left).Perm (regions right) := same.filterMap _

@[simp] theorem regions_append (left right : List SharedPacket) :
    regions (left ++ right) = regions left ++ regions right := List.filterMap_append

theorem releaseRegion_owned {region : Nat × Nat} (releasing : connection.Releasing [region])
    (taken : connection.releaseRegion region = some next) :
    next.Owned ∧ ∃ payloads, next = { connection with payloads } := by
  have held : region ∈ connection.payloads.held := releasing.owners.symm.subset (by simp)
  obtain ⟨⟨nodes, frees, wellFormed, perm⟩, sized, positive, owners⟩ := releasing
  obtain ⟨allocator, nodes', frees', released, result, removed⟩ :=
    releaseRegion_wellFormed wellFormed region.1 region.2 (perm.subset held)
  simp only [releaseRegion, Client.step, released, Option.bind_eq_bind, Option.bind_some,
    Option.map_some, Option.some.injEq] at taken
  subst taken
  refine ⟨⟨⟨nodes', frees', result.wellFormed, ?_⟩, ?_, ?_, ?_⟩, _, rfl⟩
  · have erased := (perm.trans removed).erase (region.1, region.2)
    simpa using erased
  · rcases sized with ⟨-, none⟩ | ⟨buffer, size⟩
    · simp [none] at held
    · exact .inr ⟨buffer, result.sized.trans size⟩
  · intro other member
    exact positive other (List.mem_of_mem_erase member)
  · have erased := owners.erase region
    rwa [List.singleton_append, List.erase_cons_head] at erased

theorem releasePacket_owned {packet : SharedPacket}
    (releasing : connection.Releasing packet.region.toList)
    (taken : connection.releasePacket packet = some next) :
    next.Owned ∧ ∃ payloads, next = { connection with payloads } := by
  unfold releasePacket at taken
  cases payload : packet.region with
  | none =>
    simp only [payload, Option.toList_none] at releasing taken
    obtain rfl := Option.some.inj taken
    exact ⟨releasing, connection.payloads, rfl⟩
  | some region =>
    simp only [payload, Option.toList_some] at releasing taken
    exact releaseRegion_owned releasing taken

theorem allocate_owned (owned : connection.Owned) {size : Nat} (positive : 0 < size)
    (ready : connection.producer.buffer ≠ none) (taken : connection.allocate size = some next) :
    next.Owned ∧ ∃ payloads drafts, next = { connection with payloads, drafts } := by
  obtain ⟨nodes, frees, wellFormed, perm⟩ := owned.sound
  have sized : connection.producer.buffer = some bufferSize ∧
      connection.payloads.allocator.size = bufferSize :=
    owned.sized.resolve_left fun unbound => ready unbound.1
  rcases allocateRegion_wellFormed wellFormed size positive with
    ⟨missed, -⟩ | ⟨offset, allocator, nodes', frees', granted, -, result, bound, added⟩
  · simp only [allocate, missed, Option.bind_eq_bind, Option.bind_some, if_true,
      Option.some.injEq] at taken
    subst taken
    exact ⟨⟨⟨nodes, frees, wellFormed, perm⟩, .inr sized, owned.positive, owned.owners⟩, _, _, rfl⟩
  · simp only [allocate, granted, Option.bind_eq_bind, Option.bind_some,
      if_neg (Nat.ne_of_lt bound), Option.some.injEq] at taken
    subst taken
    refine ⟨⟨⟨nodes', frees', result.wellFormed, (perm.cons _).trans added.symm⟩,
      .inr ⟨sized.1, result.sized.trans sized.2⟩, ?_, owned.owners.cons _⟩, _, _, rfl⟩
    rintro region (_ | ⟨_, member⟩)
    · exact positive
    · exact owned.positive region member

theorem initBuffer_owned (owned : connection.Owned)
    (taken : connection.initBuffer = some next) :
    (∃ payloads, next = { connection with payloads }) ∧ FifoAllocator.Sound next.payloads ∧
      next.payloads.held = connection.payloads.held ∧
      next.payloads.allocator.size = bufferSize := by
  unfold initBuffer at taken
  split_ifs at taken with unset
  · obtain ⟨reset, none⟩ := reset_wellFormed connection.payloads.allocator (2048 * 1024)
      (by decide)
    simp only [Client.step, Option.map_some, Option.some.injEq] at taken
    subst taken
    have empty : connection.payloads.held = [] := by
      rcases owned.sized with ⟨-, empty⟩ | ⟨set, -⟩
      · exact empty
      · cases unset.symm.trans set
    exact ⟨⟨_, rfl⟩, ⟨_, _, reset, by rw [none]⟩, empty.symm, rfl⟩
  · cases taken
    have sized := owned.sized.resolve_left fun unbound => unset unbound.1
    exact ⟨⟨connection.payloads, rfl⟩, owned.sound, rfl, sized.2⟩

end Regions

end MojoConnection

end MojoMedia
