import MojoMedia.Common.LinearTransformExact
import MojoMedia.FrameworkFfmpeg.TransformProgress
import MojoMedia.Shared.Histories
import MojoMedia.Shared.Runs

set_option autoImplicit false

namespace MojoMedia

open MachineInt Runs Histories Framework

namespace FfmpegDecoder

def flush (decoder : FfmpegDecoder) : FfmpegDecoder :=
  { decoder with nextPts := Packet.kUnknownPts }

def ptsLeft (decoder : FfmpegDecoder) (input : Packet) (newInput : Bool) : Int :=
  if newInput then input.pts else decoder.avPacket.pts

def startPts (decoder : FfmpegDecoder) (packetPts : Int) : Int :=
  if decoder.nextPts = Packet.kUnknownPts then
    if packetPts = avNoptsValue then 0 else packetPts
  else decoder.nextPts

def Ends (decoder : FfmpegDecoder) (input : Packet) (newInput : Bool) (decoding : Decoding) :
    Prop :=
  input.endOfStream = true ∧ (decoding.inputBytesUsed < 0 ∨
    decoding.frame = none ∧ decoding.inputBytesUsed = decoder.sizeLeft input newInput)

inductive Outcome (start : Int) (ends : Prop) (decoding : Decoding) : Option Packet → Int → Prop
  | framed (frame : AvFrame) (packet : Packet) (used : 0 ≤ decoding.inputBytesUsed)
      (decoded : decoding.frame = some frame) (going : packet.endOfStream = false)
      (given : packet.pts = if frame.pts = avNoptsValue then start else frame.pts) :
      Outcome start ends decoding (some packet)
        (if frame.pts = avNoptsValue then start + frame.nbSamples else frame.pts)
  | ended (last : ends) :
      Outcome start ends decoding (some (FfmpegDemux.createEndOfStream start)) start
  | silent (going : ¬ ends) (unframed : decoding.inputBytesUsed < 0 ∨ decoding.frame = none) :
      Outcome start ends decoding none start

variable {decoder after : FfmpegDecoder} {input : Packet} {newInput : Bool} {decoding : Decoding}
  {granted nullWritten : Bool} {output : Option Packet} {result : TransformResult}

theorem useInput_cases
    (returns : decoder.useInput input decoding output nullWritten = some (after, result)) :
    after.codec = decoder.codec ∧ after.nextPts = decoder.nextPts ∧
      after.avPacket.pts = decoder.avPacket.pts ∧
      ((result.output = some (FfmpegDemux.createEndOfStream decoder.nextPts) ∧
          input.endOfStream = true ∧ decoding.frame = none ∧
          decoding.inputBytesUsed = decoder.avPacket.size) ∨
        result.output = output ∧ ¬ (input.endOfStream = true ∧ decoding.frame = none ∧
          decoding.inputBytesUsed = decoder.avPacket.size)) := by
  have left : (decoder.useBytes decoding.inputBytesUsed).avPacket.size =
      decoder.avPacket.size - decoding.inputBytesUsed := rfl
  simp only [useInput, left] at returns
  split at returns
  · cases returns
  split at returns
  next again =>
    obtain ⟨rfl, rfl⟩ := Prod.mk.inj (Option.some.inj returns)
    refine ⟨rfl, rfl, rfl, .inr ⟨rfl, ?_⟩⟩
    rintro ⟨-, unframed, all⟩
    rcases again with some | ⟨-, framed⟩
    · omega
    · rw [unframed] at framed
      cases framed
  next finished =>
    obtain ⟨all, drained⟩ := not_or.mp finished
    obtain ⟨rfl, rfl⟩ := Prod.mk.inj (Option.some.inj returns)
    refine ⟨rfl, rfl, rfl, ?_⟩
    by_cases last : input.endOfStream = true
    · have unframed : decoding.frame = none := by simpa [last] using drained
      exact .inl ⟨if_pos last, last, unframed, by omega⟩
    · exact .inr ⟨if_neg last, fun ended => last ended.1⟩

theorem createOutputPacket_audio {codec : AudioCodec} {frame : AvFrame} {packet : Packet}
    {interleaved : Bool} (audio : decoder.codec = .audio codec)
    (created : decoder.createOutputPacket frame granted = some (after, packet, interleaved)) :
    after.codec = .audio codec ∧ packet.endOfStream = false ∧
      packet.pts = (if frame.pts = avNoptsValue then decoder.nextPts else frame.pts) ∧
      after.nextPts =
        (if frame.pts = avNoptsValue then decoder.nextPts + frame.nbSamples else frame.pts) := by
  simp only [createOutputPacket, audio] at created
  split at created
  · split at created
    · cases created
    · cases created
      exact ⟨rfl, rfl, by split <;> rfl, by split <;> rfl⟩
  · cases created
    exact ⟨rfl, rfl, by split <;> rfl, by split <;> rfl⟩

theorem decode_audio {codec : AudioCodec} (audio : decoder.codec = .audio codec) :
    decoder.decode.nextPts = decoder.startPts decoder.avPacket.pts := by
  simp only [decode, audio, startPts]
  split <;> rfl

theorem transformPacket_audio {codec : AudioCodec} (audio : decoder.codec = .audio codec)
    (returns : decoder.transformPacket input newInput decoding granted = some (after, result)) :
    after.codec = .audio codec ∧ after.avPacket.pts = decoder.ptsLeft input newInput ∧
      Outcome (decoder.startPts (decoder.ptsLeft input newInput))
        (decoder.Ends input newInput decoding) decoding result.output after.nextPts := by
  obtain ⟨prepared, isPrepared, kind, kept, left, pts⟩ := exists_prepared decoder input newInput
  rw [audio] at kind
  rw [← ptsLeft] at pts
  have start : prepared.decode.nextPts = decoder.startPts (decoder.ptsLeft input newInput) := by
    rw [decode_audio kind, pts, startPts, startPts, kept]
  obtain ⟨decodedCodec, decodedRest⟩ := decode_frame prepared
  rw [kind] at decodedCodec
  simp only [transformPacket, isPrepared] at returns
  split at returns
  next failed =>
    obtain ⟨rfl, rfl⟩ := Prod.mk.inj (Option.some.inj returns)
    refine ⟨decodedCodec, (congrArg InputRest.pts decodedRest).trans pts, ?_⟩
    simp only [start]
    by_cases last : input.endOfStream = true
    · rw [if_pos last]
      exact .ended ⟨last, .inl failed⟩
    · rw [if_neg last]
      exact .silent (fun ended => last ended.1) (.inl failed)
  next used =>
    rw [Int.not_lt] at used
    split at returns
    next frame decoded =>
      split at returns
      next created packet interleaved creates =>
        obtain ⟨codec', going, given, next⟩ := createOutputPacket_audio decodedCodec creates
        have rest := createOutputPacket_avPacket creates
        obtain ⟨sameCodec, samePts, sameRest, outcome⟩ := useInput_cases returns
        refine ⟨sameCodec.trans codec', ?_, ?_⟩
        · rw [sameRest, rest, decodedRest, pts]
        · rcases outcome with ⟨-, -, unframed, -⟩ | ⟨isOutput, -⟩
          · rw [unframed] at decoded
            cases decoded
          · rw [isOutput, samePts, next, start]
            exact .framed frame packet used decoded going (start ▸ given)
      next => cases returns
    next unframed =>
      obtain ⟨sameCodec, samePts, sameRest, outcome⟩ := useInput_cases returns
      refine ⟨sameCodec.trans decodedCodec, ?_, ?_⟩
      · rw [sameRest, decodedRest, pts]
      · rw [decodedRest, left] at outcome
        rw [samePts, start]
        rcases outcome with ⟨isEnd, last, -, all⟩ | ⟨isOutput, going⟩
        · rw [isEnd, start]
          exact .ended ⟨last, .inr ⟨unframed, all⟩⟩
        · rw [isOutput]
          refine .silent ?_ (.inr unframed)
          rintro ⟨last, failed | ⟨-, all⟩⟩
          · omega
          · exact going ⟨last, unframed, all⟩

end FfmpegDecoder

namespace AudioTimestamps

structure Call where
  input : Packet
  newInput : Bool
  decoding : Decoding
  granted : Bool
  inputPts : inS64 input.pts
  framePts : ∀ frame ∈ decoding.frame, inS64 frame.pts

inductive Event where
  | transform (call : Call)
  | flush

inductive Moment where
  | flushed
  | decoded (packetPts : Int)
  | framed (frame : AvFrame) (given : Int)
  | ended (given : Int)
  deriving Repr, DecidableEq

def outputs (decoding : Decoding) : Option Packet → List Moment
  | none => []
  | some packet =>
    if packet.endOfStream = true then [.ended packet.pts]
    else decoding.frame.toList.map fun frame => .framed frame packet.pts

structure Session where
  decoder : FfmpegDecoder
  trace : List Moment := []
  deriving Repr, DecidableEq

def start (codec : AudioCodec) : Session := { decoder := { codec := .audio codec } }

def Session.decodes (session : Session) (call : Call) : List Moment :=
  session.trace ++ [.decoded (session.decoder.ptsLeft call.input call.newInput)]

def step (session : Session) : Event → Option Session
  | .flush => some { decoder := session.decoder.flush, trace := session.trace ++ [.flushed] }
  | .transform call =>
    (session.decoder.transformPacket call.input call.newInput call.decoding call.granted).map
      fun outcome =>
        { decoder := outcome.1
          trace := session.decodes call ++ outputs call.decoding outcome.2.output }

inductive Latest where
  | nothing
  | decoded (pts : Int)
  | framed (frame : AvFrame) (given : Int)
  deriving Repr, DecidableEq

def Latest.after : Latest → Moment → Latest
  | _, .flushed => .nothing
  | .nothing, .decoded packetPts => .decoded (if packetPts = avNoptsValue then 0 else packetPts)
  | latest, .decoded _ => latest
  | _, .framed frame given => .framed frame given
  | latest, .ended _ => latest

def latest (history : List Moment) : Latest := history.foldl Latest.after .nothing

def Latest.next : Latest → Option Int
  | .nothing => none
  | .decoded pts => some pts
  | .framed frame given => some (given + frame.nbSamples)

def Right (before : List Moment) : Moment → Prop
  | .flushed | .decoded _ => True
  | .framed frame given =>
    if frame.pts = avNoptsValue then
      (latest before).next = some given ∧ given + frame.nbSamples < 2 ^ 63
    else given = frame.pts
  | .ended given => (latest before).next = some given

def Latest.Counted : Latest → Prop
  | .nothing | .decoded _ => True
  | .framed frame _ => frame.pts = avNoptsValue ∨ frame.nbSamples = 0

def Unstamped (decoding : Decoding) (frame : AvFrame) : Prop :=
  0 ≤ decoding.inputBytesUsed ∧ decoding.frame = some frame ∧ frame.pts = avNoptsValue

def Latest.Tells (latest : Latest) (ends : Prop) (decoding : Decoding) : Prop :=
  (∀ frame, Unstamped decoding frame → latest.Counted ∧
    ∀ next ∈ latest.next, next + frame.nbSamples < 2 ^ 63) ∧ (ends → latest.Counted)

def Told (session : Session) : Event → Prop
  | .flush => True
  | .transform call =>
    (latest (session.decodes call)).Tells
      (session.decoder.Ends call.input call.newInput call.decoding) call.decoding

def Latest.kept : Latest → Int
  | .nothing => Packet.kUnknownPts
  | .decoded pts => pts
  | .framed frame given => if frame.pts = avNoptsValue then given + frame.nbSamples else given

structure Inv (codec : AudioCodec) (session : Session) : Prop where
  audio : session.decoder.codec = .audio codec
  nextPts : session.decoder.nextPts = (latest session.trace).kept
  known : latest session.trace ≠ .nothing → Packet.kUnknownPts < (latest session.trace).kept
  packetPts : inS64 session.decoder.avPacket.pts

theorem latest_concat (history : List Moment) (moment : Moment) :
    latest (history ++ [moment]) = (latest history).after moment := by
  simp [latest]

theorem kept_eq_next {latest : Latest} (decoded : latest ≠ .nothing) :
    latest.next = some latest.kept ↔ latest.Counted := by
  cases latest with
  | nothing => exact absurd rfl decoded
  | decoded pts => simp [Latest.next, Latest.kept, Latest.Counted]
  | framed frame given =>
    simp only [Latest.next, Latest.kept, Latest.Counted, Option.some.injEq]
    split <;> omega

theorem always_concat (history : List Moment) (moment : Moment) :
    Always Right (history ++ [moment]) ↔ Always Right history ∧ Right history moment :=
  ⟨fun always => ⟨always.front, always history moment [] rfl⟩,
    fun ⟨always, now⟩ => always.concat now⟩

variable {codec : AudioCodec} {session : Session} {call : Call}

theorem Inv.ptsLeft (inv : Inv codec session) (call : Call) :
    inS64 (session.decoder.ptsLeft call.input call.newInput) := by
  rw [FfmpegDecoder.ptsLeft]
  split
  · exact call.inputPts
  · exact inv.packetPts

theorem Inv.decodes (inv : Inv codec session) (call : Call) :
    latest (session.decodes call) ≠ .nothing ∧
      (latest (session.decodes call)).kept =
        session.decoder.startPts (session.decoder.ptsLeft call.input call.newInput) ∧
      Packet.kUnknownPts < (latest (session.decodes call)).kept := by
  have inside := inv.ptsLeft call
  rw [Session.decodes, latest_concat, FfmpegDecoder.startPts, inv.nextPts]
  generalize session.decoder.ptsLeft call.input call.newInput = packetPts at inside ⊢
  have known := inv.known
  cases last : latest session.trace with
  | nothing =>
    refine ⟨by simp [Latest.after], by simp [Latest.after, Latest.kept], ?_⟩
    by_cases unknown : packetPts = avNoptsValue
    · simp [Latest.after, Latest.kept, Packet.kUnknownPts, unknown]
    · simp only [Latest.after, Latest.kept, if_neg unknown]
      exact lt_of_le_of_ne inside.1 (Ne.symm unknown)
  | decoded pts =>
    have above := known (by simp [last])
    rw [last] at above
    exact ⟨by simp [Latest.after], (if_neg (ne_of_gt above)).symm, above⟩
  | framed frame given =>
    have above := known (by simp [last])
    rw [last] at above
    exact ⟨by simp [Latest.after], (if_neg (ne_of_gt above)).symm, above⟩

theorem outcome_kept {history : List Moment} {ends : Prop} {decoding : Decoding}
    {output : Option Packet} {nextPts : Int}
    (outcome : FfmpegDecoder.Outcome (latest history).kept ends decoding output nextPts) :
    (latest (history ++ outputs decoding output)).kept = nextPts := by
  cases outcome with
  | framed frame packet used decoded going given =>
    have last : latest (history ++ outputs decoding (some packet)) =
        .framed frame packet.pts := by
      simp [outputs, going, decoded, latest_concat, Latest.after]
    rw [last, Latest.kept, given]
    split <;> rfl
  | ended last =>
    simp only [outputs, FfmpegDemux.createEndOfStream, if_true, latest_concat]
    cases latest history <;> rfl
  | silent going unframed => rw [outputs, List.append_nil]

theorem outcome_known {start : Int} {ends : Prop} {decoding : Decoding} {output : Option Packet}
    {nextPts : Int} (outcome : FfmpegDecoder.Outcome start ends decoding output nextPts)
    (above : Packet.kUnknownPts < start) (framePts : ∀ frame ∈ decoding.frame, inS64 frame.pts) :
    Packet.kUnknownPts < nextPts := by
  cases outcome with
  | framed frame packet used decoded going given =>
    by_cases unknown : frame.pts = avNoptsValue
    · rw [if_pos unknown]
      omega
    · rw [if_neg unknown]
      exact lt_of_le_of_ne (framePts frame decoded).1 (Ne.symm unknown)
  | ended last => exact above
  | silent going unframed => exact above

theorem outcome_right {history : List Moment} {ends : Prop} {decoding : Decoding}
    {output : Option Packet} {nextPts : Int} (decodes : latest history ≠ .nothing)
    (ended : ends → decoding.inputBytesUsed < 0 ∨ decoding.frame = none)
    (outcome : FfmpegDecoder.Outcome (latest history).kept ends decoding output nextPts) :
    Always Right (history ++ outputs decoding output) ↔
      Always Right history ∧ (latest history).Tells ends decoding := by
  have counted := kept_eq_next decodes
  have unstamped (unframed : decoding.inputBytesUsed < 0 ∨ decoding.frame = none)
      (frame : AvFrame) : ¬ Unstamped decoding frame := by
    rintro ⟨used, decoded, -⟩
    rcases unframed with failed | unframed
    · omega
    · rw [unframed] at decoded
      cases decoded
  cases outcome with
  | framed frame packet used decoded going given =>
    have goes : ¬ ends := by
      intro last
      rcases ended last with failed | unframed
      · omega
      · rw [unframed] at decoded
        cases decoded
    have only (other : AvFrame) : Unstamped decoding other ↔
        frame = other ∧ frame.pts = avNoptsValue := by
      simp only [Unstamped, used, decoded, Option.some.injEq, true_and]
      exact and_congr_right fun same => by rw [same]
    have added : outputs decoding (some packet) = [.framed frame packet.pts] := by
      simp [outputs, going, decoded]
    rw [added, always_concat, Right, given]
    refine and_congr_right fun _ => ?_
    simp only [Latest.Tells, only, goes, false_implies, and_true]
    by_cases unknown : frame.pts = avNoptsValue
    · simp only [unknown, if_true, and_true, forall_eq', counted]
      refine and_congr_right fun fits => ?_
      rw [counted.mpr fits]
      simp
    · simp [unknown]
  | ended last =>
    have added : outputs decoding (some (FfmpegDemux.createEndOfStream (latest history).kept)) =
        [.ended (latest history).kept] := rfl
    rw [added, always_concat, Right, counted]
    simp [Latest.Tells, unstamped (ended last), last]
  | silent going unframed =>
    rw [outputs, List.append_nil]
    simp [Latest.Tells, unstamped unframed, going]

theorem Inv.outcome (inv : Inv codec session) {after : FfmpegDecoder} {result : TransformResult}
    (returns : session.decoder.transformPacket call.input call.newInput call.decoding call.granted =
      some (after, result)) :
    after.codec = .audio codec ∧ inS64 after.avPacket.pts ∧
      FfmpegDecoder.Outcome (latest (session.decodes call)).kept
        (session.decoder.Ends call.input call.newInput call.decoding) call.decoding result.output
        after.nextPts := by
  obtain ⟨audio, rest, outcome⟩ := FfmpegDecoder.transformPacket_audio inv.audio returns
  rw [(inv.decodes call).2.1]
  exact ⟨audio, rest ▸ inv.ptsLeft call, outcome⟩

theorem Inv.step {event : Event} {next : Session} (inv : Inv codec session)
    (taken : step session event = some next) : Inv codec next := by
  cases event with
  | flush =>
    obtain rfl := Option.some.inj taken
    have flushed : latest (session.trace ++ [.flushed]) = .nothing := latest_concat _ _
    refine ⟨inv.audio, ?_, fun decoded => absurd flushed decoded, inv.packetPts⟩
    rw [flushed]
    rfl
  | transform call =>
    obtain ⟨⟨after, result⟩, returns, rfl⟩ := Option.map_eq_some_iff.mp taken
    obtain ⟨audio, packetPts, outcome⟩ := inv.outcome returns
    have kept := outcome_kept outcome
    refine ⟨audio, kept.symm, fun _ => ?_, packetPts⟩
    rw [kept]
    exact outcome_known outcome (inv.decodes call).2.2 call.framePts

theorem Inv.right_iff {event : Event} {next : Session} (inv : Inv codec session)
    (taken : AudioTimestamps.step session event = some next) :
    Always Right next.trace ↔ Always Right session.trace ∧ Told session event := by
  cases event with
  | flush =>
    obtain rfl := Option.some.inj taken
    exact always_concat session.trace .flushed
  | transform call =>
    obtain ⟨⟨after, result⟩, returns, rfl⟩ := Option.map_eq_some_iff.mp taken
    obtain ⟨-, -, outcome⟩ := inv.outcome returns
    have before : Always Right (session.decodes call) ↔ Always Right session.trace :=
      (always_concat _ _).trans (and_iff_left trivial)
    rw [Told, ← before]
    refine outcome_right (inv.decodes call).1 ?_ outcome
    exact fun ended => ended.2.imp_right And.left

theorem start_inv (codec : AudioCodec) : Inv codec (start codec) := by
  refine ⟨rfl, rfl, fun decoded => absurd rfl decoded, ?_⟩
  simp [start, inS64]

-- The timestamps are right exactly if none is supplied after a frame whose samples are not
-- counted, and none goes beyond 64 bits.
theorem timestamps_right_iff (codec : AudioCodec) (events : List Event) (final : Session)
    (reached : run step (start codec) events = some final) :
    Always Right final.trace ↔ Meets step Told (start codec) events := by
  have good := good_iff_of_step step Told (Inv codec) (fun session => Always Right session.trace)
    (fun _ _ _ inv taken => inv.step taken) (fun _ _ _ inv taken => inv.right_iff taken)
    (start codec) final events (start_inv codec) reached
  rw [good, and_iff_right]
  exact always_nil Right

def oneSample (pts : Int) : AvFrame :=
  { pts
    nbSamples := 1
    reorderedOpaque := 0
    context := { size := 4, buffer := some [0, 0, 0, 0] } }

def decodes (packetPts framePts : Int) (inside : inS64 packetPts ∧ inS64 framePts) : Event :=
  .transform
    { input := { pts := packetPts, endOfStream := false, payload := [0] }
      newInput := true
      decoding := { inputBytesUsed := 1, frame := some (oneSample framePts) }
      granted := true
      inputPts := inside.1
      framePts := by
        intro frame decoded
        obtain rfl := Option.some.inj decoded
        exact inside.2 }

def drains (packetPts : Int) (inside : inS64 packetPts) : Event :=
  .transform
    { input := { pts := packetPts, endOfStream := true, payload := [] }
      newInput := true
      decoding := { inputBytesUsed := 0 }
      granted := true
      inputPts := inside
      framePts := by simp }

theorem signed16_sized : SampleFormat.signed16 ≠ .any := by decide

theorem stereo_ne_zero : (2 : UInt32) ≠ 0 := by decide

def interleavedStereo : AudioCodec where
  type :=
    { sampleFormat := .signed16, channels := 2, framesPerSecond := 48000, sized := signed16_sized }
  planar := false
  channels := stereo_ne_zero

theorem unstamped_frames_right :
    ∃ final, run step (start interleavedStereo)
        [decodes 100 avNoptsValue (by decide), decodes 7 avNoptsValue (by decide),
          drains 8 (by decide)] = some final ∧
      final.trace = [.decoded 100, .framed (oneSample avNoptsValue) 100, .decoded 7,
        .framed (oneSample avNoptsValue) 101, .decoded 8, .ended 102] ∧
      (Always Right final.trace ↔ Meets step Told (start interleavedStereo)
        [decodes 100 avNoptsValue (by decide), decodes 7 avNoptsValue (by decide),
          drains 8 (by decide)]) :=
  ⟨_, rfl, by decide, timestamps_right_iff _ _ _ rfl⟩

theorem stamped_frame_skipped :
    ∃ final, run step (start interleavedStereo)
        [decodes 100 100 (by decide), decodes 101 avNoptsValue (by decide),
          drains 102 (by decide)] = some final ∧
      final.trace = [.decoded 100, .framed (oneSample 100) 100, .decoded 101,
        .framed (oneSample avNoptsValue) 100, .decoded 102, .ended 101] ∧
      ¬ Always Right final.trace := by
  refine ⟨_, rfl, by decide, fun always => ?_⟩
  have given := always [.decoded 100, .framed (oneSample 100) 100, .decoded 101]
    (.framed (oneSample avNoptsValue) 100) [.decoded 102, .ended 101] (by decide)
  have same : some (101 : Int) = some 100 := given.1
  simp at same

end AudioTimestamps

end MojoMedia
