import MojoMedia.FrameworkMojo.PayloadOwners

set_option autoImplicit false

namespace MojoMedia.MojoConnection

open FifoAllocator

-- What the consumer has read of what was sent, and where the call of each packet is that the
-- producer waits for: in the pipe, with the graph, in a task, or on its way back.
structure Wired (connection : MojoConnection) : Prop where
  accepted : ∀ packet, connection.producer.accepted = some packet → Fits packet
  fits : ∀ packet ∈ connection.pushed, Fits packet
  posted : ∀ entry ∈ connection.producer.posted,
    entry.2 = MojoProducer.createMediaPacket entry.1
  sent : ∃ done, connection.pushed = done ++ connection.producer.posted.map Prod.fst ∧
    sends connection.messages = done.map MojoProducer.createMediaPacket
  opened : ∀ messages, connection.producer.consumer = some messages →
    messages.head? = some .setBuffer ∧ connection.producer.buffer = some bufferSize
  cursor : connection.read ≤ connection.messages.length
  mapped : 0 < connection.read → connection.consumer.buffer = some bufferSize
  supplied : connection.consumer.supplied =
    connection.pushed.take (sends (connection.messages.take connection.read)).length
  holds : ∀ entry ∈ connection.consumer.held, connection.pushed[entry.1]? = some entry.2
  originals : connection.calls.map (connection.pushed[·]?) =
    connection.producer.unanswered.map some
  ordered : connection.calls.Sublist (List.range (sends connection.messages).length)
  places : connection.calls.Perm
    (List.range' connection.consumer.supplied.length
        ((sends connection.messages).length - connection.consumer.supplied.length) ++
      (connection.consumer.held.map Prod.fst ++
        (connection.consumer.tasks ++ connection.consumer.answers)))
  fine : connection.consumer.failed = false

section Wires

variable {connection next : MojoConnection}

@[simp] theorem sends_append (left right : List ConsumerMessage) :
    sends (left ++ right) = sends left ++ sends right := List.filterMap_append

theorem Wired.keep (wired : connection.Wired) (more : List ConsumerMessage)
    (told : next.producer.consumer = connection.producer.consumer.map (· ++ more))
    (quiet : sends more = []) (posted : next.producer.posted = connection.producer.posted)
    (unanswered : next.producer.unanswered = connection.producer.unanswered)
    (pushed : next.pushed = connection.pushed) (calls : next.calls = connection.calls)
    (read : next.read = connection.read) (reader : next.consumer = connection.consumer)
    (buffer : connection.producer.buffer = some bufferSize →
      next.producer.buffer = some bufferSize)
    (accepted : ∀ packet, next.producer.accepted = some packet → Fits packet) : next.Wired := by
  have longer : ∃ after, sends after = [] ∧ next.messages = connection.messages ++ after := by
    rw [messages, messages, told]
    cases connection.producer.consumer with
    | none => exact ⟨[], rfl, rfl⟩
    | some before => exact ⟨more, quiet, rfl⟩
  obtain ⟨after, silent, messages⟩ := longer
  have sent : sends next.messages = sends connection.messages := by simp [messages, silent]
  have front : next.messages.take connection.read = connection.messages.take connection.read := by
    rw [messages, List.take_append_of_le_length wired.cursor]
  refine ⟨accepted, ?_, ?_, ?_, ?_, ?_, ?_, ?_, ?_, ?_, ?_, ?_, ?_⟩
  · exact pushed ▸ wired.fits
  · exact posted ▸ wired.posted
  · rw [pushed, posted, sent]
    exact wired.sent
  · intro messages bound
    rw [told] at bound
    obtain ⟨before, here, rfl⟩ := Option.map_eq_some_iff.mp bound
    obtain ⟨first, ready⟩ := wired.opened before here
    refine ⟨?_, buffer ready⟩
    rw [List.head?_append, first]
    rfl
  · rw [read, messages, List.length_append]
    exact Nat.le_add_right_of_le wired.cursor
  · rw [read, reader]
    exact wired.mapped
  · rw [reader, pushed, read, front]
    exact wired.supplied
  · rw [reader, pushed]
    exact wired.holds
  · rw [calls, pushed, unanswered]
    exact wired.originals
  · rw [calls, sent]
    exact wired.ordered
  · rw [calls, sent, reader]
    exact wired.places
  · rw [reader]
    exact wired.fine

theorem Wired.of_same (wired : connection.Wired)
    (consumer : next.producer.consumer = connection.producer.consumer)
    (posted : next.producer.posted = connection.producer.posted)
    (unanswered : next.producer.unanswered = connection.producer.unanswered)
    (pushed : next.pushed = connection.pushed) (calls : next.calls = connection.calls)
    (read : next.read = connection.read) (reader : next.consumer = connection.consumer)
    (buffer : connection.producer.buffer = some bufferSize →
      next.producer.buffer = some bufferSize)
    (accepted : ∀ packet, next.producer.accepted = some packet → Fits packet) : next.Wired :=
  wired.keep [] (by simp [consumer]) rfl posted unanswered pushed calls read reader buffer accepted

theorem Wired.detached (wired : connection.Wired)
    (fresh : next.producer.consumer = none ∨ next.producer.consumer = some [.setBuffer] ∧
      next.producer.buffer = some bufferSize)
    (accepted : next.producer.accepted = connection.producer.accepted)
    (posted : next.producer.posted = connection.producer.posted)
    (unanswered : next.producer.unanswered = [])
    (pushed : next.pushed = connection.producer.posted.map Prod.fst)
    (calls : next.calls = []) (read : next.read = 0) (reader : next.consumer = {}) :
    next.Wired := by
  have silent : sends next.messages = [] := by
    rcases fresh with none | ⟨new, -⟩ <;> simp [messages, *] <;> rfl
  have inside : ∀ packet ∈ connection.producer.posted.map Prod.fst,
      packet ∈ connection.pushed := by
    obtain ⟨done, pushed, -⟩ := wired.sent
    intro packet member
    rw [pushed]
    exact List.mem_append_right _ member
  constructor
  · exact accepted ▸ wired.accepted
  · intro packet member
    exact wired.fits packet (inside packet (pushed ▸ member))
  · exact posted ▸ wired.posted
  · exact ⟨[], by rw [pushed, posted]; rfl, silent⟩
  · intro messages bound
    rcases fresh with none | ⟨new, ready⟩
    · cases none.symm.trans bound
    · cases new.symm.trans bound
      exact ⟨rfl, ready⟩
  · simp [read]
  · simp [read]
  · simp [read, reader, sends]
  · simp [reader]
  · simp [calls, unanswered]
  · simp [calls]
  · simp [calls, silent, reader]
  · simp [reader]

theorem Wired.push (wired : connection.Wired)
    (consumer : next.producer.consumer = connection.producer.consumer) {packet : SharedPacket}
    (accepted : connection.producer.accepted = some packet)
    (none : next.producer.accepted = none)
    (posted : next.producer.posted = connection.producer.posted ++
      [(packet, MojoProducer.createMediaPacket packet)])
    (unanswered : next.producer.unanswered = connection.producer.unanswered)
    (buffer : next.producer.buffer = connection.producer.buffer)
    (pushed : next.pushed = connection.pushed ++ [packet])
    (calls : next.calls = connection.calls) (read : next.read = connection.read)
    (reader : next.consumer = connection.consumer) : next.Wired := by
  have messages : next.messages = connection.messages := by rw [messages, messages, consumer]
  obtain ⟨done, before, sent⟩ := wired.sent
  have length : (sends connection.messages).length ≤ connection.pushed.length := by
    simp [sent, before]
  have earlier {index : Nat} (inside : index < connection.pushed.length) :
      next.pushed[index]? = connection.pushed[index]? := by
    rw [pushed, List.getElem?_append_left inside]
  have inside {found : SharedPacket} {index : Nat}
      (at_index : connection.pushed[index]? = some found) : index < connection.pushed.length :=
    (List.getElem?_eq_some_iff.mp at_index).1
  constructor
  · simp [none]
  · intro other member
    rw [pushed] at member
    rcases List.mem_append.mp member with old | new
    · exact wired.fits other old
    · rw [List.mem_singleton.mp new]
      exact wired.accepted packet accepted
  · intro entry member
    rw [posted] at member
    rcases List.mem_append.mp member with old | new
    · exact wired.posted entry old
    · rw [List.mem_singleton.mp new]
  · refine ⟨done, ?_, by rw [messages, sent]⟩
    rw [pushed, before, posted]
    simp
  · rw [consumer, buffer]
    exact wired.opened
  · rw [read, messages]
    exact wired.cursor
  · rw [read, reader]
    exact wired.mapped
  · rw [reader, messages, read, pushed, wired.supplied, List.take_append_of_le_length]
    have part := (List.take_sublist connection.read connection.messages).filterMap sent?
    exact part.length_le.trans length
  · intro entry member
    have old := wired.holds entry (reader ▸ member)
    rw [earlier (inside old), old]
  · rw [calls, unanswered, ← wired.originals]
    refine List.map_congr_left fun call member => earlier ?_
    have bound := List.mem_range.mp (wired.ordered.subset member)
    exact Nat.lt_of_lt_of_le bound length
  · rw [calls, messages]
    exact wired.ordered
  · rw [calls, messages, reader]
    exact wired.places
  · rw [reader]
    exact wired.fine

theorem Wired.send (wired : connection.Wired) {sentBefore : List ConsumerMessage}
    (bound : connection.producer.consumer = some sentBefore) {packet : SharedPacket}
    {mediaPacket : Mojo.MediaPacket} {rest : List (SharedPacket × Mojo.MediaPacket)}
    (consumer : next.producer.consumer = some (sentBefore ++ [.sendPacket mediaPacket]))
    (front : connection.producer.posted = (packet, mediaPacket) :: rest)
    (posted : next.producer.posted = rest)
    (unanswered : next.producer.unanswered = connection.producer.unanswered ++ [packet])
    (accepted : next.producer.accepted = connection.producer.accepted)
    (buffer : next.producer.buffer = connection.producer.buffer)
    (pushed : next.pushed = connection.pushed)
    (calls : next.calls = connection.calls ++ [(sends connection.messages).length])
    (read : next.read = connection.read) (reader : next.consumer = connection.consumer) :
    next.Wired := by
  have messages : next.messages = connection.messages ++ [.sendPacket mediaPacket] := by
    simp [MojoConnection.messages, consumer, bound]
  have sent : sends next.messages = sends connection.messages ++ [mediaPacket] := by
    rw [messages, sends_append]
    rfl
  obtain ⟨done, before, already⟩ := wired.sent
  rw [front, List.map_cons] at before
  have count : (sends connection.messages).length = done.length := by simp [already]
  have here : connection.pushed[(sends connection.messages).length]? = some packet := by
    rw [before, count, List.getElem?_append_right (Nat.le_refl _), Nat.sub_self]
    rfl
  have pair : mediaPacket = MojoProducer.createMediaPacket packet :=
    wired.posted (packet, mediaPacket) (by simp [front])
  have read_front :
      next.messages.take connection.read = connection.messages.take connection.read := by
    rw [messages, List.take_append_of_le_length wired.cursor]
  have behind : connection.consumer.supplied.length ≤ (sends connection.messages).length := by
    have part := (List.take_sublist connection.read connection.messages).filterMap sent?
    rw [wired.supplied, List.length_take]
    exact (Nat.min_le_left _ _).trans part.length_le
  constructor
  · exact accepted ▸ wired.accepted
  · exact pushed ▸ wired.fits
  · intro entry member
    exact wired.posted entry (front ▸ List.mem_cons_of_mem _ (posted ▸ member))
  · refine ⟨done ++ [packet], ?_, ?_⟩
    · simp [pushed, posted, before]
    · simp [sent, already, pair]
  · intro messages after
    obtain ⟨first, ready⟩ := wired.opened _ bound
    rw [consumer] at after
    cases after
    exact ⟨by rw [List.head?_append, first]; rfl, buffer.trans ready⟩
  · rw [read, messages, List.length_append]
    exact Nat.le_add_right_of_le wired.cursor
  · rw [read, reader]
    exact wired.mapped
  · rw [reader, read, read_front, pushed]
    exact wired.supplied
  · rw [reader, pushed]
    exact wired.holds
  · simp [calls, pushed, unanswered, wired.originals, here]
  · rw [calls, sent, List.length_append, List.length_singleton, List.range_succ]
    exact wired.ordered.append (List.Sublist.refl _)
  · have more : List.range' connection.consumer.supplied.length
        ((sends connection.messages).length + 1 - connection.consumer.supplied.length) =
        List.range' connection.consumer.supplied.length
          ((sends connection.messages).length - connection.consumer.supplied.length) ++
          [(sends connection.messages).length] := by
      rw [Nat.succ_sub behind, List.range'_concat]
      congr 2
      omega
    rw [calls, sent, reader, List.length_append, List.length_singleton, more]
    refine List.perm_iff_count.mpr fun call => ?_
    have counted := wired.places.count_eq call
    simp only [List.count_append] at counted ⊢
    omega
  · rw [reader]
    exact wired.fine

theorem createPacket_eq {packet : SharedPacket} (fits : Fits packet) :
    MojoConsumer.createPacket (some bufferSize) (MojoProducer.createMediaPacket packet) =
      some packet := by
  obtain ⟨pts, endOfStream, size, payload⟩ := packet
  obtain ⟨empty, inside⟩ := fits
  cases payload with
  | none =>
    obtain rfl : size = 0 := empty.mpr rfl
    rfl
  | some offset =>
    have positive : size ≠ 0 := fun zero => by cases empty.mp zero
    have bound : offset + size ≤ bufferSize := inside offset rfl
    have within : offset < bufferSize := by omega
    have notNull : offset ≠ kNullOffset := by
      simp only [bufferSize] at within
      simp only [kNullOffset]
      omega
    simp [MojoConsumer.createPacket, MojoProducer.createMediaPacket, MojoConsumer.ptrFromOffset,
      offsetFromPtr, positive, notNull, within]

theorem Wired.receive_other (wired : connection.Wired) {message : ConsumerMessage}
    (found : connection.messages[connection.read]? = some message) (silent : sent? message = none)
    (mapped : (connection.consumer.receive connection.producer.buffer message).buffer =
      some bufferSize)
    (supplied : (connection.consumer.receive connection.producer.buffer message).supplied =
      connection.consumer.supplied)
    (held : (connection.consumer.receive connection.producer.buffer message).held =
      connection.consumer.held)
    (tasks : (connection.consumer.receive connection.producer.buffer message).tasks =
      connection.consumer.tasks)
    (answers : (connection.consumer.receive connection.producer.buffer message).answers =
      connection.consumer.answers)
    (failed : (connection.consumer.receive connection.producer.buffer message).failed =
      connection.consumer.failed) :
    Wired { connection with
      read := connection.read + 1
      consumer := connection.consumer.receive connection.producer.buffer message } := by
  obtain ⟨inside, here⟩ := List.getElem?_eq_some_iff.mp found
  refine ⟨wired.accepted, wired.fits, wired.posted, wired.sent, wired.opened, inside,
    fun _ => mapped, ?_, ?_, wired.originals, wired.ordered, ?_, ?_⟩
  · have advanced : sends (connection.messages.take (connection.read + 1)) =
        sends (connection.messages.take connection.read) := by
      rw [List.take_succ_eq_append_getElem inside, here, sends_append]
      simp [sends, silent]
    simp only [messages] at advanced ⊢
    rw [supplied, advanced]
    exact wired.supplied
  · rw [held]
    exact wired.holds
  · rw [supplied, held, tasks, answers]
    exact wired.places
  · rw [failed]
    exact wired.fine

theorem Wired.receive_packet (wired : connection.Wired) {mediaPacket : Mojo.MediaPacket}
    (found : connection.messages[connection.read]? = some (.sendPacket mediaPacket))
    (mapped : connection.consumer.buffer = some bufferSize) :
    Wired { connection with
      read := connection.read + 1
      consumer := connection.consumer.sendPacket mediaPacket } := by
  obtain ⟨inside, here⟩ := List.getElem?_eq_some_iff.mp found
  obtain ⟨done, before, sent⟩ := wired.sent
  have split : sends connection.messages = sends (connection.messages.take connection.read) ++
      mediaPacket :: sends (connection.messages.drop (connection.read + 1)) := by
    conv_lhs => rw [← List.take_append_drop connection.read connection.messages,
      List.drop_eq_getElem_cons inside, here, sends_append]
    rfl
  have advanced : sends (connection.messages.take (connection.read + 1)) =
      sends (connection.messages.take connection.read) ++ [mediaPacket] := by
    rw [List.take_succ_eq_append_getElem inside, here, sends_append]
    rfl
  -- The packet that was pushed last of those that the message is about.
  have count : connection.consumer.supplied.length =
      (sends (connection.messages.take connection.read)).length := by
    have bound : (sends (connection.messages.take connection.read)).length ≤
        connection.pushed.length := by
      have lengths := congrArg List.length sent
      rw [split] at lengths
      simp only [List.length_append, List.length_cons, List.length_map] at lengths
      rw [before, List.length_append]
      omega
    rw [wired.supplied, List.length_take, Nat.min_eq_left bound]
  obtain ⟨packet, original, rfl⟩ : ∃ packet,
      connection.pushed[connection.consumer.supplied.length]? = some packet ∧
        mediaPacket = MojoProducer.createMediaPacket packet := by
    have image : (done.map MojoProducer.createMediaPacket)[connection.consumer.supplied.length]? =
        some mediaPacket := by
      rw [← sent, split, count, List.getElem?_append_right (Nat.le_refl _), Nat.sub_self]
      rfl
    rw [List.getElem?_map, Option.map_eq_some_iff] at image
    obtain ⟨packet, at_index, rfl⟩ := image
    refine ⟨packet, ?_, rfl⟩
    rw [before, List.getElem?_append_left (List.getElem?_eq_some_iff.mp at_index).1, at_index]
  have fits := wired.fits packet (List.mem_of_getElem? original)
  have created := createPacket_eq fits
  rw [← mapped] at created
  simp only [MojoConsumer.sendPacket, created]
  refine ⟨wired.accepted, wired.fits, wired.posted, wired.sent, wired.opened, inside,
    fun _ => mapped, ?_, ?_, wired.originals, wired.ordered, ?_, wired.fine⟩
  · simp only [messages] at advanced count ⊢
    rw [advanced, List.length_append, List.length_singleton, ← count, List.take_add_one, original]
    have front := wired.supplied
    simp only [messages] at front
    rw [← count] at front
    rw [← front]
    rfl
  · intro entry member
    rcases List.mem_append.mp member with old | new
    · exact wired.holds entry old
    · rw [List.mem_singleton.mp new]
      exact original
  · have more : List.range' connection.consumer.supplied.length
        ((sends connection.messages).length - connection.consumer.supplied.length) =
        connection.consumer.supplied.length :: List.range' (connection.consumer.supplied.length + 1)
          ((sends connection.messages).length - (connection.consumer.supplied.length + 1)) := by
      rw [← List.range'_succ]
      congr 1
      rw [split, List.length_append, List.length_cons]
      omega
    refine List.perm_iff_count.mpr fun call => ?_
    have counted := wired.places.count_eq call
    rw [more] at counted
    simp only [messages] at counted
    simp only [messages, List.length_append, List.length_singleton, List.map_append, List.map_cons,
      List.map_nil, List.count_append, List.count_cons, List.count_nil] at counted ⊢
    omega

theorem Wired.receive (wired : connection.Wired)
    (taken : connection.receive = some next) : next.Wired := by
  unfold MojoConnection.receive at taken
  rw [if_neg (by simp [wired.fine])] at taken
  obtain ⟨message, found, rfl⟩ := Option.map_eq_some_iff.mp taken
  obtain ⟨sentBefore, bound⟩ : ∃ sentBefore, connection.producer.consumer = some sentBefore := by
    cases bound : connection.producer.consumer with
    | none => simp [messages, bound] at found
    | some sentBefore => exact ⟨sentBefore, rfl⟩
  obtain ⟨first, ready⟩ := wired.opened sentBefore bound
  -- Only the first message can come before the buffer is mapped.
  have mapped (other : message ≠ .setBuffer) : connection.consumer.buffer = some bufferSize := by
    apply wired.mapped
    rw [Nat.pos_iff_ne_zero]
    intro zero
    rw [zero, messages, bound, Option.getD_some, ← List.head?_eq_getElem?, first] at found
    exact other (Option.some.inj found).symm
  cases message with
  | setBuffer => exact wired.receive_other found rfl ready rfl rfl rfl rfl rfl
  | prime =>
    have here : connection.consumer.buffer = some bufferSize := mapped nofun
    exact wired.receive_other found rfl here rfl rfl rfl rfl rfl
  | flush =>
    have here : connection.consumer.buffer = some bufferSize := mapped nofun
    exact wired.receive_other found rfl here rfl rfl rfl rfl rfl
  | sendPacket mediaPacket =>
    have here : connection.consumer.buffer = some bufferSize := mapped nofun
    exact wired.receive_packet found here

theorem Wired.release (wired : connection.Wired) {index : Nat} {consumer : MojoConsumer}
    (taken : connection.consumer.release index = some consumer) :
    Wired { connection with consumer } := by
  obtain ⟨⟨callback, packet⟩, found, rfl⟩ := Option.map_eq_some_iff.mp taken
  obtain ⟨inside, here⟩ := List.getElem?_eq_some_iff.mp found
  refine ⟨wired.accepted, wired.fits, wired.posted, wired.sent, wired.opened, wired.cursor,
    wired.mapped, wired.supplied, ?_, wired.originals, wired.ordered, ?_, wired.fine⟩
  · intro entry member
    exact wired.holds entry (List.mem_of_mem_eraseIdx member)
  · have erased := (List.getElem_cons_eraseIdx_perm inside).map Prod.fst
    rw [here, List.map_cons] at erased
    refine List.perm_iff_count.mpr fun call => ?_
    have counted := wired.places.count_eq call
    have removed := erased.count_eq call
    simp only [messages, List.count_append, List.count_cons, List.count_nil] at counted removed ⊢
    omega

theorem Wired.runTask (wired : connection.Wired) {consumer : MojoConsumer}
    (taken : connection.consumer.runTask = some consumer) : Wired { connection with consumer } := by
  unfold MojoConsumer.runTask at taken
  split at taken
  next => cases taken
  next callback rest tasks =>
    cases taken
    refine ⟨wired.accepted, wired.fits, wired.posted, wired.sent, wired.opened, wired.cursor,
      wired.mapped, wired.supplied, wired.holds, wired.originals, wired.ordered, ?_, wired.fine⟩
    refine List.perm_iff_count.mpr fun call => ?_
    have counted := wired.places.count_eq call
    rw [tasks] at counted
    simp only [messages, List.count_append, List.count_cons, List.count_nil] at counted ⊢
    omega

theorem Wired.answer (wired : connection.Wired) (taken : connection.answer = some next) :
    next.Wired := by
  unfold MojoConnection.answer at taken
  split at taken
  next => cases taken
  next call rest answers =>
    simp only [move, Option.map_map] at taken
    obtain ⟨producer, moved, rfl⟩ := Option.map_eq_some_iff.mp taken
    obtain ⟨packet, -, found, rfl⟩ := MojoProducer.answer_cases moved
    have waited : call ∈ connection.calls := wired.places.symm.subset (by simp [answers])
    have bound := List.idxOf_lt_length_of_mem waited
    have erased := List.getElem_cons_eraseIdx_perm bound
    rw [List.getElem_idxOf bound] at erased
    refine ⟨wired.accepted, wired.fits, wired.posted, wired.sent, wired.opened, wired.cursor,
      wired.mapped, wired.supplied, wired.holds, ?_, ?_, ?_, wired.fine⟩
    · have both := congrArg (List.eraseIdx · (connection.calls.idxOf call)) wired.originals
      simp only [List.eraseIdx_map] at both
      exact both
    · exact (List.eraseIdx_sublist _ _).trans wired.ordered
    · refine List.perm_iff_count.mpr fun other => ?_
      have counted := wired.places.count_eq other
      have removed := erased.count_eq other
      rw [answers] at counted
      simp only [messages, Function.comp_apply, MojoProducer.answer, List.count_append,
        List.count_cons] at counted removed ⊢
      omega

end Wires

end MojoMedia.MojoConnection
