import MojoMedia.Common.MediaPipeBase
import MojoMedia.Transport.AudioConnection
import MojoMedia.Transport.FramedPackets

set_option autoImplicit false

namespace MojoMedia

namespace Audio

theorem countFrames_whole {frameSize : UInt32}
    (payload : List MediaPacketRegion) (index : Nat) (count : UInt32)
    (whole : ∀ region ∈ payload, frameSize.toNat ∣ region.length.toNat)
    (few : count.toNat + (payload.map (MediaPacketRegion.frames frameSize)).sum ≤
      kMaxFrames.toNat) :
    ∃ out total, countFrames frameSize index count payload = .ok (out, total) := by
  induction payload generalizing index count with
  | nil => exact ⟨[], count, rfl⟩
  | cons region rest ih =>
    rw [List.map_cons, List.sum_cons] at few
    have limit : kMaxFrames.toNat = 2 ^ 20 - 1 := rfl
    have counted := @frameCount_toNat frameSize count region
    rw [Nat.mod_eq_of_lt (by omega)] at counted
    have divisible : ¬ (1 < frameSize ∧ region.length % frameSize.toUInt64 ≠ 0) := by
      rintro ⟨-, remainder⟩
      apply remainder
      rw [← UInt64.toNat_inj, UInt64.toNat_mod, UInt32.toNat_toUInt64]
      exact Nat.mod_eq_zero_of_dvd (whole region List.mem_cons_self)
    have small : ¬ kMaxFrames < count + (region.length / frameSize.toUInt64).toUInt32 := by
      rw [UInt32.not_lt, UInt32.le_iff_toNat_le, counted]
      omega
    obtain ⟨out, total, later⟩ := ih (index + 1)
      (count + (region.length / frameSize.toUInt64).toUInt32)
      (fun other member => whole other (List.mem_cons_of_mem region member))
      (by omega)
    rw [countFrames, if_neg divisible]
    simp only [if_neg small, later]
    exact ⟨_, total, rfl⟩

theorem AudioPipe.sendPacket_whole {pipe : AudioPipe} {owner : PipeOwner} {packet : MediaPacket}
    {size : UInt64} (mapped : pipe.buffer = some size)
    (inside : ∀ pointer ∈ packet.regionPtrs, Common.Inside size pointer)
    (whole : ∀ region ∈ packet.regions, owner.bytesPerFrame.toNat ∣ region.length.toNat)
    (few : (packet.regions.map (MediaPacketRegion.frames owner.bytesPerFrame)).sum ≤
      kMaxFrames.toNat)
    (timed : packet.pts = kNoTimestamp ∨
      (scaling owner.frameToMediaRatio).doForwardTransform packet.pts ≠ none) :
    ∃ ref next total, pipe.sendPacket owner packet = (.ok ref, next) ∧
      next.buffer = pipe.buffer ∧ next.bound = pipe.bound ∧
      countFrames owner.bytesPerFrame 0 0 packet.regions = .ok (ref.regions, total) := by
  have checked := (Common.checkRegions_ok_iff size 0 packet.regionPtrs).mpr inside
  obtain ⟨out, total, counted⟩ := countFrames_whole packet.regions 0 0 whole
    (by simpa using few)
  have started : ∃ start, pipe.startPts owner packet.pts = some start := by
    unfold AudioPipe.startPts
    split
    next explicit => exact Option.ne_none_iff_exists'.mp (timed.resolve_left explicit)
    next => exact ⟨_, rfl⟩
  obtain ⟨start, started⟩ := started
  let endPts := start + Int64.ofNat (total.toNat * 2 ^ Mixers.ptsFractionalBits)
  refine ⟨{ regions := out, startPts := start, endPts }, { pipe with nextPts := some endPts },
    total, ?_, rfl, rfl, counted⟩
  simp only [AudioPipe.sendPacket, AudioPipe.accept, mapped, checked,
    AudioPipe.onPacketReceived, counted, started, bind, Except.bind]
  rfl

end Audio

namespace AudioConnection

open CircularBuffer

def Message.sent : Message → Option (Nat × CircularBuffer.MediaPacket)
  | .sendPacket seqNum packet _ => some (seqNum, packet)
  | .flush => none

def Reply.seqNum : Reply → Option Nat
  | .sendPacket seqNum _ => some seqNum
  | .flush => none

def HeldPacket.sent (held : HeldPacket) : Nat × CircularBuffer.MediaPacket :=
  (held.seqNum, held.packet)

def Timed (owner : Audio.PipeOwner) (pts : Int64) : Prop :=
  pts = Audio.kNoTimestamp ∨
    (Audio.scaling owner.frameToMediaRatio).doForwardTransform pts ≠ none

instance (owner : Audio.PipeOwner) (pts : Int64) : Decidable (Timed owner pts) :=
  inferInstanceAs (Decidable (_ ∨ _))

def Fits (owner : Audio.PipeOwner) (connection : AudioConnection) : Event → Prop
  | .create size noWrap =>
    Orderly connection.client (.create size noWrap) ∧ owner.bytesPerFrame.toNat ∣ size
  | .send pts _ => Timed owner pts
  | .flush => Orderly connection.client .flush
  | .reply =>
    connection.replies.head? = some .flush → Orderly connection.client .acknowledgeFlush
  | _ => True

instance (owner : Audio.PipeOwner) (connection : AudioConnection) :
    (event : Event) → Decidable (Fits owner connection event)
  | .create size noWrap =>
    inferInstanceAs (Decidable (Orderly connection.client (.create size noWrap) ∧
      owner.bytesPerFrame.toNat ∣ size))
  | .send pts _ => inferInstanceAs (Decidable (Timed owner pts))
  | .flush => inferInstanceAs (Decidable (Orderly connection.client .flush))
  | .reply =>
    inferInstanceAs (Decidable (connection.replies.head? = some .flush →
      Orderly connection.client .acknowledgeFlush))
  | .cancel | .setWatermarks _ _ | .setSignalCallback _ | .signalTask | .deliver | .release _
  | .connectionError => inferInstanceAs (Decidable True)

-- Each packet without an answer is at one place: behind a reply, at the server or behind a
-- message, in the order in which they were sent.
def Ordered (connection : AudioConnection) : Prop :=
  ∃ done, connection.client.outstanding = done ++ connection.held.map HeldPacket.sent ++
      connection.messages.filterMap Message.sent ∧
    done.map Prod.fst = connection.replies.filterMap Reply.seqNum

def HeldPacket.Counted (owner : Audio.PipeOwner) (held : HeldPacket) : Prop :=
  ∃ total, Audio.countFrames owner.bytesPerFrame 0 0
    (held.packet.regions.map CircularBuffer.MediaPacketRegion.encode) =
      .ok (held.ref.regions, total)

structure Sound (owner : Audio.PipeOwner) (bufferSize slack : Nat)
    (connection : AudioConnection) : Prop where
  client : Framed owner.bytesPerFrame.toNat bufferSize slack connection.client
  bound : connection.pipe.bound = true
  mapped : connection.pipe.buffer = some (.ofNat bufferSize)
  timed : ∀ seqNum packet pts, .sendPacket seqNum packet pts ∈ connection.messages →
    Timed owner pts
  counted : ∀ packet ∈ connection.held, packet.Counted owner
  ordered : connection.Ordered
  flushes : connection.messages.count .flush + connection.replies.count .flush =
    connection.client.flushes

section Steps

variable {owner : Audio.PipeOwner} {bufferSize slack : Nat} {connection next : AudioConnection}

theorem start_sound (rd wr flushGeneration seqNumGen : Nat) (rdIn : rd < bufferSize)
    (wrIn : wr < bufferSize) (large : bufferSize ≤ 2 ^ 63)
    (framed : owner.bytesPerFrame.toNat ∣ bufferSize) (first : owner.bytesPerFrame.toNat ∣ wr) :
    Sound owner bufferSize (Ring.distance bufferSize rd wr)
      (start bufferSize rd wr flushGeneration seqNumGen) := by
  constructor
  case client =>
    refine ⟨CircularBuffer.start_sound _ _ _ _ _ rdIn wrIn large, ?_, ?_⟩
    · exact run_inBuffer bufferSize bufferSize rd wr flushGeneration seqNumGen (by omega)
        (by omega) (.inl rfl) rdIn wrIn [] _ rfl
    · refine ⟨⟨framed, first⟩, ?_, ?_⟩
      · simp [start, Session.start]
      · simp [start, Session.start]
  case bound => rfl
  case mapped => rfl
  case timed => simp [start]
  case counted => simp [start]
  case ordered => exact ⟨[], rfl, rfl⟩
  case flushes => rfl

theorem alone_sound (sound : Sound owner bufferSize slack connection)
    (event : CircularBuffer.Event) (own : event.Own) (orderly : Orderly connection.client event)
    (whole : ∀ size noWrap, event = .create size noWrap → owner.bytesPerFrame.toNat ∣ size)
    (taken : connection.alone event = some next) : Sound owner bufferSize slack next := by
  obtain ⟨client, moved, rfl⟩ := Option.map_eq_some_iff.mp taken
  obtain ⟨outstanding, flushes⟩ := Session.step_own own moved
  refine ⟨sound.client.step event orderly whole moved, sound.bound, sound.mapped, sound.timed,
    sound.counted, ?_, sound.flushes.trans flushes.symm⟩
  obtain ⟨done, placed, answered⟩ := sound.ordered
  exact ⟨done, outstanding.trans placed, answered⟩

theorem send_sound (sound : Sound owner bufferSize slack connection) (pts : Int64)
    (cbk : Option Nat) (timed : Timed owner pts)
    (taken : connection.send pts cbk = some next) : Sound owner bufferSize slack next := by
  unfold send at taken
  split at taken
  next => cases taken
  next packet rest created =>
    obtain ⟨client, moved, rfl⟩ := Option.map_eq_some_iff.mp taken
    have stepped := moved
    simp only [Session.step, created, Option.some.injEq] at stepped
    refine ⟨sound.client.step (.send cbk) trivial (by simp) moved, sound.bound, sound.mapped,
      ?_, sound.counted, ?_, ?_⟩
    · intro seqNum media time member
      rcases List.mem_append.mp member with old | new
      · exact sound.timed seqNum media time old
      · obtain ⟨message, -, same⟩ := List.mem_map.mp new
        cases same
        exact timed
    · obtain ⟨done, placed, answered⟩ := sound.ordered
      refine ⟨done, ?_, answered⟩
      rw [← stepped, List.filterMap_append, List.filterMap_map, ← List.append_assoc, ← placed]
      exact congrArg _ (List.filterMap_some).symm
    · rw [← stepped, List.count_append, ← sound.flushes]
      have none : ((sends (connection.client.adapter.sendMediaPacket packet cbk).messages).map
          fun message => Message.sendPacket message.1 message.2 pts).count .flush = 0 :=
        List.count_eq_zero.mpr (by simp)
      rw [none, Nat.add_zero]

theorem flush_sound (sound : Sound owner bufferSize slack connection)
    (orderly : Orderly connection.client .flush) (taken : connection.flush = some next) :
    Sound owner bufferSize slack next := by
  unfold flush at taken
  obtain ⟨client, moved, rfl⟩ := Option.map_eq_some_iff.mp taken
  have stepped := moved
  simp only [Session.step, Option.some.injEq] at stepped
  refine ⟨sound.client.step .flush orderly (by simp) moved, sound.bound, sound.mapped, ?_,
    sound.counted, ?_, ?_⟩
  · intro seqNum media time member
    rcases List.mem_append.mp member with old | new
    · exact sound.timed seqNum media time old
    · simp at new
  · obtain ⟨done, placed, answered⟩ := sound.ordered
    refine ⟨done, ?_, answered⟩
    rw [← stepped, List.filterMap_append, placed]
    simp [Message.sent]
  · rw [← stepped, List.count_append, ← sound.flushes, List.map_const', List.count_replicate_self]
    exact Nat.add_right_comm _ _ _

theorem encode_exact {packet : CircularBuffer.MediaPacket} {before after : Nat}
    (large : bufferSize ≤ 2 ^ 63) (placed : Placed bufferSize packet before after) :
    ∀ region ∈ packet.regions,
      region.encode.offset.toNat = region.offset ∧ region.encode.length.toNat = region.length := by
  intro region member
  have inside := placed.inside large region member
  simp only [CircularBuffer.MediaPacketRegion.encode, UInt64.toNat_ofNat']
  exact ⟨Nat.mod_eq_of_lt (by omega), Nat.mod_eq_of_lt (by omega)⟩

theorem encode_inside {packet : CircularBuffer.MediaPacket} {before after : Nat} (pts : Int64)
    (large : bufferSize ≤ 2 ^ 63) (placed : Placed bufferSize packet before after) :
    ∀ pointer ∈ (packet.encode pts).regionPtrs,
      Common.Inside (.ofNat bufferSize) pointer := by
  have inRange : ∀ region ∈ packet.regions,
      region.encode.offset.toNat + region.encode.length.toNat ≤
        (UInt64.ofNat bufferSize).toNat := by
    intro region member
    obtain ⟨offset, length⟩ := encode_exact large placed region member
    rw [offset, length, UInt64.toNat_ofNat', Nat.mod_eq_of_lt (by omega)]
    exact placed.inside large region member
  intro pointer member
  rcases List.mem_cons.mp member with rfl | extra
  · exact ⟨_, rfl, inRange packet.payload List.mem_cons_self⟩
  · obtain ⟨region, inExtra, rfl⟩ := List.mem_map.mp extra
    exact ⟨_, rfl, inRange region (List.mem_cons_of_mem _ inExtra)⟩

theorem encode_regions (packet : CircularBuffer.MediaPacket) (pts : Int64) :
    (packet.encode pts).regions =
      packet.regions.map CircularBuffer.MediaPacketRegion.encode := by
  have all (regions : List CircularBuffer.MediaPacketRegion) :
      (regions.map fun region => some region.encode).reduceOption =
        regions.map CircularBuffer.MediaPacketRegion.encode := by
    simp [List.reduceOption, List.filterMap_map]
  exact all packet.regions

theorem encode_frames {packet : CircularBuffer.MediaPacket} {before after : Nat}
    (large : bufferSize ≤ 2 ^ 63)
    (frames : bufferSize ≤ Audio.kMaxFrames.toNat * owner.bytesPerFrame.toNat)
    (placed : Placed bufferSize packet before after) :
    ((packet.regions.map CircularBuffer.MediaPacketRegion.encode).map
      (Audio.MediaPacketRegion.frames owner.bytesPerFrame)).sum ≤ Audio.kMaxFrames.toNat := by
  have exact := encode_exact large placed
  refine Nat.le_trans ?_ (Nat.div_le_of_le_mul (frames.trans_eq (Nat.mul_comm _ _)))
  obtain ⟨offset, size, small, inside, ⟨-, rfl⟩ | ⟨wraps, rfl⟩⟩ := placed.pieces large
  · simp only [CircularBuffer.MediaPacket.regions, List.forall_mem_cons] at exact
    simp only [CircularBuffer.MediaPacket.regions, List.map_cons, List.map_nil, List.sum_cons,
      List.sum_nil, Nat.add_zero, Audio.MediaPacketRegion.frames, exact.1.2]
    exact Nat.div_le_div_right (Nat.le_of_lt small)
  · simp only [CircularBuffer.MediaPacket.regions, List.forall_mem_cons] at exact
    simp only [CircularBuffer.MediaPacket.regions, List.map_cons, List.map_nil, List.sum_cons,
      List.sum_nil, Nat.add_zero, Audio.MediaPacketRegion.frames, exact.1.2, exact.2.1.2]
    refine Nat.div_add_div_le_add_div.trans (Nat.div_le_div_right ?_)
    omega

theorem encode_whole {frameSize : Nat} {packet : CircularBuffer.MediaPacket}
    {before after : Nat} (large : bufferSize ≤ 2 ^ 63)
    (placed : Placed bufferSize packet before after) (whole : packet.Whole frameSize) :
    ∀ region ∈ packet.regions.map CircularBuffer.MediaPacketRegion.encode,
      frameSize ∣ region.length.toNat := by
  intro encoded member
  obtain ⟨region, original, rfl⟩ := List.mem_map.mp member
  rw [(encode_exact large placed region original).2]
  exact whole region original

theorem receive_packet {pipe : Audio.AudioPipe} {packet : CircularBuffer.MediaPacket}
    {before after : Nat} (pts : Int64) (mapped : pipe.buffer = some (.ofNat bufferSize))
    (large : bufferSize ≤ 2 ^ 63)
    (frames : bufferSize ≤ Audio.kMaxFrames.toNat * owner.bytesPerFrame.toNat)
    (placed : Placed bufferSize packet before after)
    (whole : packet.Whole owner.bytesPerFrame.toNat) (timed : Timed owner pts) :
    ∃ ref next total, pipe.sendPacket owner (packet.encode pts) = (.ok ref, next) ∧
      next.buffer = pipe.buffer ∧ next.bound = pipe.bound ∧
      Audio.countFrames owner.bytesPerFrame 0 0
        (packet.regions.map CircularBuffer.MediaPacketRegion.encode) =
          .ok (ref.regions, total) := by
  have wholeRegions := encode_whole large placed whole
  have few := encode_frames large frames placed
  rw [← encode_regions packet pts] at wholeRegions few ⊢
  exact Audio.AudioPipe.sendPacket_whole mapped (encode_inside pts large placed) wholeRegions few
    timed

theorem deliver_sound (sound : Sound owner bufferSize slack connection)
    (frames : bufferSize ≤ Audio.kMaxFrames.toNat * owner.bytesPerFrame.toNat)
    (taken : connection.deliver owner = some next) : Sound owner bufferSize slack next := by
  unfold deliver at taken
  split at taken
  next => cases taken
  next message rest waiting =>
    rw [if_pos sound.bound] at taken
    obtain rfl := Option.some.inj taken
    obtain ⟨done, placed, answered⟩ := sound.ordered
    have timed := sound.timed
    have flushes := sound.flushes
    rw [waiting] at placed timed flushes
    have later := fun seqNum packet pts member =>
      timed seqNum packet pts (List.mem_cons_of_mem message member)
    cases message with
    | flush =>
      rw [List.count_cons_self] at flushes
      refine ⟨sound.client, sound.bound, sound.mapped, later, sound.counted,
        ⟨done, placed, ?_⟩, ?_⟩
      · simpa [receive, Reply.seqNum, List.filterMap_cons] using answered
      · simp only [receive, List.count_append, List.count_singleton_self]
        omega
    | sendPacket seqNum packet pts =>
      have sized := sound.client.inside.adapter.size
      have large := sound.client.sound.large
      have sent : (seqNum, packet) ∈ connection.client.outstanding := by
        rw [placed]
        simp [Message.sent]
      obtain ⟨before, after, inBuffer⟩ := current_placed sound.client.sound
        (List.mem_append_left _ (List.mem_map_of_mem (f := Prod.snd) sent))
      rw [sized] at inBuffer large
      obtain ⟨ref, pipe, total, accepted, buffer, bound, counted⟩ := receive_packet pts
        sound.mapped large frames inBuffer (sound.client.aligned.outstanding _ sent)
        (timed seqNum packet pts List.mem_cons_self)
      simp only [receive, accepted]
      refine ⟨sound.client, bound.trans sound.bound, buffer.trans sound.mapped, later, ?_,
        ⟨done, ?_, answered⟩, ?_⟩
      · intro held member
        rcases List.mem_append.mp member with old | new
        · exact sound.counted held old
        · obtain rfl := List.mem_singleton.mp new
          exact ⟨total, counted⟩
      · rw [placed]
        simp [Message.sent, HeldPacket.sent]
      · simpa using flushes

theorem release_sound (sound : Sound owner bufferSize slack connection) (result : SendResult)
    (taken : connection.release result = some next) : Sound owner bufferSize slack next := by
  unfold release at taken
  split at taken
  next => cases taken
  next packet rest waiting =>
    rw [if_pos sound.bound] at taken
    obtain rfl := Option.some.inj taken
    obtain ⟨done, placed, answered⟩ := sound.ordered
    have counted := sound.counted
    rw [waiting] at placed counted
    refine ⟨sound.client, sound.bound, sound.mapped, sound.timed,
      fun held member => counted held (List.mem_cons_of_mem packet member),
      ⟨done ++ [packet.sent], ?_, ?_⟩, ?_⟩
    · simpa using placed
    · simp [answered, HeldPacket.sent, Reply.seqNum]
    · simpa [List.count_append] using sound.flushes

theorem reply_sound (sound : Sound owner bufferSize slack connection)
    (orderly : connection.replies.head? = some .flush →
      Orderly connection.client .acknowledgeFlush)
    (taken : connection.reply = some next) : Sound owner bufferSize slack next := by
  obtain ⟨done, placed, answered⟩ := sound.ordered
  have flushes := sound.flushes
  unfold reply at taken
  split at taken
  next seqNum result rest bound waiting =>
    obtain rfl := Option.some.inj taken
    rw [waiting] at answered flushes
    obtain ⟨sent, earlier, rfl⟩ : ∃ sent earlier, done = sent :: earlier := by
      cases done with
      | nil => simp [Reply.seqNum] at answered
      | cons sent earlier => exact ⟨sent, earlier, rfl⟩
    obtain ⟨number, media⟩ := sent
    simp only [List.map_cons, List.filterMap_cons, Reply.seqNum, List.cons.injEq] at answered
    obtain ⟨rfl, answered⟩ := answered
    simp only [List.cons_append] at placed
    refine ⟨sound.client.step (.answer result) trivial (by simp) ?_, sound.bound, sound.mapped,
      sound.timed, sound.counted, ⟨earlier, ?_, answered⟩, ?_⟩
    · simp [Session.step, bound, placed]
    · simp [placed]
    · simpa using flushes
  next rest bound waiting =>
    obtain ⟨adapter, handled, rfl⟩ := Option.map_eq_some_iff.mp taken
    have acknowledged := orderly (by simp [waiting])
    rw [waiting] at answered flushes
    rw [List.count_cons_self] at flushes
    refine ⟨sound.client.step .acknowledgeFlush acknowledged (by simp) ?_, sound.bound,
      sound.mapped, sound.timed, sound.counted, ⟨done, placed, answered⟩, ?_⟩
    · rw [Session.step, if_pos ⟨bound, by omega⟩, handled]
      rfl
    · simp only
      omega
  next => cases taken

theorem step_sound
    (frames : bufferSize ≤ Audio.kMaxFrames.toNat * owner.bytesPerFrame.toNat)
    (connection : AudioConnection) (event : Event) (next : AudioConnection)
    (sound : Sound owner bufferSize slack connection) (fits : Fits owner connection event)
    (taken : connection.step owner event = some next) : Sound owner bufferSize slack next := by
  cases event with
  | create size noWrap =>
    refine alone_sound sound (.create size noWrap) trivial fits.1 ?_ taken
    rintro _ _ ⟨⟩
    exact fits.2
  | send pts cbk => exact send_sound sound pts cbk fits taken
  | flush => exact flush_sound sound fits taken
  | cancel => exact alone_sound sound .cancel trivial trivial (by simp) taken
  | setWatermarks hiWaterMark loWaterMark =>
    exact alone_sound sound (.setWatermarks hiWaterMark loWaterMark) trivial trivial (by simp)
      taken
  | setSignalCallback cbk =>
    exact alone_sound sound (.setSignalCallback cbk) trivial trivial (by simp) taken
  | signalTask => exact alone_sound sound .signalTask trivial trivial (by simp) taken
  | deliver => exact deliver_sound sound frames taken
  | release result => exact release_sound sound result taken
  | reply => exact reply_sound sound fits taken
  | connectionError =>
    have bound := sound.client.sound.pipeBound
    simp [step, connectionError, bound, sound.bound] at taken

end Steps

end AudioConnection

namespace Audio

theorem countFrames_exact {frameSize : UInt32} (framed : frameSize ≠ 0) {index : Nat}
    {count total : UInt32} {region : MediaPacketRegion} {rest : List MediaPacketRegion}
    {out : List AudioRegion} (few : count.toNat + region.frames frameSize < 2 ^ 32)
    (accepted : countFrames frameSize index count (region :: rest) = .ok (out, total)) :
    ∃ next tail last, next.toNat = count.toNat + region.frames frameSize ∧
      next.toNat * frameSize.toNat = count.toNat * frameSize.toNat + region.length.toNat ∧
      countFrames frameSize (index + 1) next rest = .ok (tail, total) ∧ out = last :: tail ∧
      ∀ byte, last.Denotes frameSize byte ↔ region.offset.toNat ≤ byte ∧
        byte < region.offset.toNat + (count.toNat * frameSize.toNat + region.length.toNat) := by
  obtain ⟨next, tail, counted, divides, small, later, rfl⟩ := countFrames_cons framed accepted
  rw [Nat.mod_eq_of_lt few] at counted
  have bytes : next.toNat * frameSize.toNat =
      count.toNat * frameSize.toNat + region.length.toNat := by
    rw [counted, Nat.add_mul, MediaPacketRegion.frames, Nat.div_mul_cancel divides]
  refine ⟨next, tail, _, counted, bytes, later, rfl, fun byte => ?_⟩
  simp only [AudioRegion.Denotes]
  rw [shifted_toNat next small, Nat.mul_div_cancel _ (by decide), bytes]

end Audio

def CircularBuffer.MediaPacket.Holds (packet : CircularBuffer.MediaPacket) (byte : Nat) : Prop :=
  ∃ region ∈ packet.regions, region.Holds byte

namespace AudioConnection

open CircularBuffer Runs

def HeldPacket.Reads (owner : Audio.PipeOwner) (held : HeldPacket) (byte : Nat) : Prop :=
  ∃ region ∈ held.ref.regions, region.Denotes owner.bytesPerFrame byte

theorem reads_exactly_iff {owner : Audio.PipeOwner} {bufferSize before after : Nat}
    {held : HeldPacket} (large : bufferSize ≤ 2 ^ 63)
    (frames : bufferSize ≤ Audio.kMaxFrames.toNat * owner.bytesPerFrame.toNat)
    (placed : Placed bufferSize held.packet before after) (counted : held.Counted owner) :
    (∀ byte, held.Reads owner byte ↔ held.packet.Holds byte) ↔
      held.packet.extraPayload = [] := by
  have limit : Audio.kMaxFrames.toNat = 2 ^ 20 - 1 := rfl
  have few := encode_frames large frames placed
  have encoded := encode_exact large placed
  obtain ⟨total, counted⟩ := counted
  obtain ⟨offset, size, small, inside, ⟨fits, same⟩ | ⟨wraps, same⟩⟩ := placed.pieces large
  · rw [same] at counted few encoded ⊢
    simp only [MediaPacket.regions, List.map_cons, List.map_nil, List.sum_cons,
      List.sum_nil, List.forall_mem_cons] at counted few encoded
    obtain ⟨start, length⟩ := encoded.1
    obtain ⟨next, tail, last, -, -, later, out, reads⟩ := Audio.countFrames_exact owner.framed
      (by simp only [UInt32.toNat_zero]; omega) counted
    obtain ⟨rfl, -⟩ := Prod.mk.inj (Except.ok.inj later)
    simp only [iff_true]
    intro byte
    simp only [HeldPacket.Reads, out, MediaPacket.Holds, MediaPacket.regions,
      List.mem_singleton, exists_eq_left, reads, start, length, UInt32.toNat_zero,
      Nat.zero_mul, Nat.zero_add, MediaPacketRegion.Holds]
  · rw [same] at counted few encoded ⊢
    simp only [MediaPacket.regions, List.map_cons, List.map_nil, List.sum_cons,
      List.sum_nil, List.forall_mem_cons] at counted few encoded
    obtain ⟨⟨-, head⟩, ⟨start, length⟩, -⟩ := encoded
    obtain ⟨next, tail, first, frames, bytes, later, out, -⟩ := Audio.countFrames_exact owner.framed
      (by simp only [UInt32.toNat_zero]; omega) counted
    rw [UInt32.toNat_zero, Nat.zero_add] at frames
    rw [UInt32.toNat_zero, Nat.zero_mul, Nat.zero_add, head] at bytes
    obtain ⟨whole, others, last, -, -, done, rfl, reads⟩ := Audio.countFrames_exact owner.framed
      (by omega) later
    simp only [reduceCtorEq, iff_false]
    intro exact
    -- The first byte behind the second region is counted for the first one.
    have read : held.Reads owner (size - (bufferSize - offset)) := by
      refine ⟨last, by simp [out], (reads _).mpr ?_⟩
      rw [start, length, bytes]
      omega
    obtain ⟨region, member, lower, upper⟩ := (exact _).mp read
    simp only [MediaPacket.regions, List.mem_cons, List.not_mem_nil, or_false] at member
    rcases member with rfl | rfl
    · simp only at lower
      omega
    · simp only at upper
      omega

theorem held_current {owner : Audio.PipeOwner} {bufferSize slack : Nat} {connection : AudioConnection}
    (sound : Sound owner bufferSize slack connection) {held : HeldPacket}
    (member : held ∈ connection.held) : held.packet ∈ connection.client.current := by
  obtain ⟨done, placed, -⟩ := sound.ordered
  refine List.mem_append_left _ (List.mem_map.mpr ⟨held.sent, ?_, rfl⟩)
  rw [placed]
  exact List.mem_append_left _ (List.mem_append_right _ (List.mem_map_of_mem member))

theorem mixer_reads_own_bytes (owner : Audio.PipeOwner)
    (bufferSize rd wr flushGeneration seqNumGen : Nat) (rdIn : rd < bufferSize)
    (wrIn : wr < bufferSize) (whole : owner.bytesPerFrame.toNat ∣ bufferSize)
    (first : owner.bytesPerFrame.toNat ∣ wr)
    (frames : bufferSize ≤ Audio.kMaxFrames.toNat * owner.bytesPerFrame.toNat)
    (events : List Event) (final : AudioConnection)
    (fits : Meets (step owner) (Fits owner) (start bufferSize rd wr flushGeneration seqNumGen)
      events)
    (reached : run (step owner) (start bufferSize rd wr flushGeneration seqNumGen) events =
      some final) :
    final.pipe.bound = true ∧ final.client.adapter.faulted = false ∧ final.Ordered ∧
    final.client.current.Pairwise MediaPacket.Apart ∧
    ∀ held ∈ final.held, held.packet ∈ final.client.current ∧
      ((∀ byte, held.Reads owner byte ↔ held.packet.Holds byte) ↔
        held.packet.extraPayload = []) := by
  have large : bufferSize ≤ 2 ^ 63 := by
    have limit : Audio.kMaxFrames.toNat = 2 ^ 20 - 1 := rfl
    have frameSize := owner.bytesPerFrame.toNat_lt
    rw [limit] at frames
    omega
  have sound : Sound owner bufferSize (Ring.distance bufferSize rd wr) final :=
    invariant_of_step (step owner) (Fits owner) (Sound owner bufferSize _) (step_sound frames) _
      final events (start_sound rd wr flushGeneration seqNumGen rdIn wrIn large whole first)
      fits reached
  refine ⟨sound.bound, sound.client.sound.running, sound.ordered,
    current_apart sound.client.sound, fun held member => ?_⟩
  have current := held_current sound member
  obtain ⟨before, after, placed⟩ := current_placed sound.client.sound current
  rw [sound.client.inside.adapter.size] at placed
  exact ⟨current, reads_exactly_iff large frames placed (sound.counted held member)⟩

theorem mixer_reads_own_bytes_wrapping :
    ∃ final, run (step ⟨4, ⟨4096, 1⟩, by decide⟩) (start 16 4 4 0 0)
        [.create 4 false, .send 0 none, .deliver, .release .consumed, .reply, .create 12 false,
          .send Audio.kNoTimestamp none, .deliver] = some final ∧
      final.held.map HeldPacket.sent = [(1, ⟨⟨8, 8⟩, [⟨0, 4⟩]⟩)] ∧
      ∀ held ∈ final.held,
        ¬ ∀ byte, held.Reads ⟨4, ⟨4096, 1⟩, by decide⟩ byte ↔ held.packet.Holds byte := by
  refine ⟨_, rfl, rfl, fun held member exact => ?_⟩
  obtain ⟨-, -, -, -, reads⟩ := mixer_reads_own_bytes ⟨4, ⟨4096, 1⟩, by decide⟩ 16 4 4 0 0
    (by decide) (by decide) (by decide) (by decide) (by decide)
    [.create 4 false, .send 0 none, .deliver, .release .consumed, .reply, .create 12 false,
      .send Audio.kNoTimestamp none, .deliver] _ (by decide) rfl
  have unwrapped := (reads held member).2.mp exact
  obtain rfl := List.mem_singleton.mp member
  cases unwrapped

end AudioConnection

end MojoMedia
