import MojoMedia.FrameworkFfmpeg.TransformProgress

set_option autoImplicit false

-- What a subclass does is left open, `Decode` included.
namespace MojoMedia

open MachineInt Framework

structure DecodeResult (Members Frame : Type) where
  members : Members
  inputBytesUsed : Int
  frame : Option Frame

-- The virtual functions of a subclass. `Members` are its members, and what ffmpeg keeps for it.
structure DecoderClass (Members Frame : Type) where
  decode : Members → InputRest → DecodeResult Members Frame
  createOutputPacket : Members → Frame → Members × Packet
  createOutputEndOfStreamPacket : Members → Packet

structure FfmpegDecoderBase (Members : Type) where
  members : Members
  avPacket : InputRest := { }

-- `found` is what `UnprepareInputPacket` asserts not to be so: there is an output already.
structure BaseResult where
  done : Bool
  output : Option Packet
  found : Bool := false
  deriving Repr, DecidableEq

namespace InputRest

def ofPacket (input : Packet) : InputRest :=
  { data := input.payload
    size := s32 input.size
    pts := input.pts }

def use (rest : InputRest) (used : Int) : InputRest :=
  { rest with
    data := rest.data.drop used.toNat
    size := rest.size - used }

end InputRest

def DecoderClass.output {Members Frame : Type} (subclass : DecoderClass Members Frame)
    (decoded : DecodeResult Members Frame) : Members × Option Packet :=
  match decoded.frame with
  | some frame =>
    let (members, packet) := subclass.createOutputPacket decoded.members frame
    (members, some packet)
  | none => (decoded.members, none)

namespace FfmpegDecoderBase

variable {Members Frame : Type}

def prepareInputPacket (base : FfmpegDecoderBase Members) (input : Packet) :
    FfmpegDecoderBase Members :=
  { base with avPacket := .ofPacket input }

def unprepareInputPacket (subclass : DecoderClass Members Frame)
    (base : FfmpegDecoderBase Members) (input : Packet) (output : Option Packet) :
    FfmpegDecoderBase Members × BaseResult :=
  ({ base with avPacket := { base.avPacket with data := [], size := 0 } },
    { done := true
      output :=
        if input.endOfStream then some (subclass.createOutputEndOfStreamPacket base.members)
        else output
      found := input.endOfStream && output.isSome })

def prepared (base : FfmpegDecoderBase Members) (input : Packet) (newInput : Bool) :
    FfmpegDecoderBase Members :=
  if newInput then base.prepareInputPacket input else base

def transformPacket (subclass : DecoderClass Members Frame) (base : FfmpegDecoderBase Members)
    (input : Packet) (newInput : Bool) : Option (FfmpegDecoderBase Members × BaseResult) :=
  let prepared := base.prepared input newInput
  let decoded := subclass.decode prepared.members prepared.avPacket
  if decoded.inputBytesUsed < 0 then
    some (unprepareInputPacket subclass { prepared with members := decoded.members } input none)
  else
    let (members, output) := subclass.output decoded
    if prepared.avPacket.size < decoded.inputBytesUsed then none
    else
      let used := { members, avPacket := prepared.avPacket.use decoded.inputBytesUsed }
      if used.avPacket.size ≠ 0 ∨ input.endOfStream ∧ decoded.frame.isSome then
        some (used, { done := false, output })
      else some (unprepareInputPacket subclass used input output)

variable {subclass : DecoderClass Members Frame} {base after : FfmpegDecoderBase Members}
  {input : Packet} {newInput : Bool} {result : BaseResult}

@[simp] theorem prepared_members : (base.prepared input newInput).members = base.members := by
  rw [prepared]
  split <;> rfl

def decodes (subclass : DecoderClass Members Frame) (base : FfmpegDecoderBase Members)
    (input : Packet) (newInput : Bool) : DecodeResult Members Frame :=
  subclass.decode base.members (base.prepared input newInput).avPacket

inductive Outcome (subclass : DecoderClass Members Frame) (input : Packet) (rest : InputRest)
    (decoded : DecodeResult Members Frame) : FfmpegDecoderBase Members → BaseResult → Prop
  | failed (after : FfmpegDecoderBase Members) (result : BaseResult)
      (failed : decoded.inputBytesUsed < 0) (done : result.done = true) :
      Outcome subclass input rest decoded after result
  | again (used : 0 ≤ decoded.inputBytesUsed) (within : decoded.inputBytesUsed ≤ rest.size)
      (more : decoded.inputBytesUsed ≠ rest.size ∨
        input.endOfStream = true ∧ decoded.frame.isSome) :
      Outcome subclass input rest decoded
        { members := (subclass.output decoded).1, avPacket := rest.use decoded.inputBytesUsed }
        { done := false, output := (subclass.output decoded).2 }
  | finished (avPacket : InputRest) (used : 0 ≤ decoded.inputBytesUsed)
      (all : decoded.inputBytesUsed = rest.size)
      (silent : input.endOfStream = true → decoded.frame = none) :
      Outcome subclass input rest decoded
        { members := (subclass.output decoded).1, avPacket }
        { done := true
          output :=
            if input.endOfStream then
              some (subclass.createOutputEndOfStreamPacket (subclass.output decoded).1)
            else (subclass.output decoded).2 }

theorem output_isSome (subclass : DecoderClass Members Frame)
    (decoded : DecodeResult Members Frame) :
    (subclass.output decoded).2.isSome = decoded.frame.isSome := by
  rw [DecoderClass.output]
  cases decoded.frame <;> rfl

theorem transformPacket_outcome
    (returns : base.transformPacket subclass input newInput = some (after, result)) :
    result.found = false ∧ Outcome subclass input (base.prepared input newInput).avPacket
      (base.decodes subclass input newInput) after result := by
  simp only [transformPacket, prepared_members, decodes] at returns ⊢
  generalize (base.prepared input newInput).avPacket = rest at returns ⊢
  generalize subclass.decode base.members rest = decoded at returns ⊢
  have same := output_isSome subclass decoded
  split at returns
  next failed =>
    obtain ⟨rfl, rfl⟩ := Prod.mk.inj (Option.some.inj returns)
    exact ⟨Bool.and_false _, .failed _ _ failed rfl⟩
  next used =>
    rw [Int.not_lt] at used
    split at returns
    · cases returns
    next inside =>
      rw [Int.not_lt] at inside
      have left : (rest.use decoded.inputBytesUsed).size = 0 ↔
          decoded.inputBytesUsed = rest.size := by
        simp only [InputRest.use]
        omega
      simp only [ne_eq, left] at returns
      split at returns
      next more =>
        obtain ⟨rfl, rfl⟩ := Prod.mk.inj (Option.some.inj returns)
        exact ⟨rfl, .again used inside more⟩
      next finished =>
        obtain ⟨rfl, rfl⟩ := Prod.mk.inj (Option.some.inj returns)
        obtain ⟨all, drained⟩ := not_or.mp finished
        have silent : input.endOfStream = true → decoded.frame = none := by
          intro last
          simpa [last] using drained
        have unfound : (input.endOfStream && (subclass.output decoded).2.isSome) = false := by
          cases last : input.endOfStream with
          | false => rfl
          | true =>
            rw [Bool.true_and, same, silent last]
            rfl
        refine ⟨unfound, ?_⟩
        simp only [unfound]
        exact .finished _ used (not_not.mp all) silent

theorem transformPacket_returns (used : 0 ≤ (base.decodes subclass input newInput).inputBytesUsed)
    (within : (base.decodes subclass input newInput).inputBytesUsed ≤
      (base.prepared input newInput).avPacket.size) :
    ∃ outcome, base.transformPacket subclass input newInput = some outcome := by
  rw [decodes] at used within
  simp only [transformPacket, prepared_members, Int.not_lt.mpr used, Int.not_lt.mpr within,
    if_false]
  split
  · exact ⟨_, rfl⟩
  · exact ⟨_, rfl⟩

section Subclasses

variable {Context : Type} (decodes : Context → InputRest → Context × Decoding × Bool)
  (creates : FfmpegDecoder → AvFrame → Bool → FfmpegDecoder × Packet)

def ffmpegDecoders : DecoderClass (Context × FfmpegDecoder) (AvFrame × Bool) where
  decode members rest :=
    let (context, decoding, granted) := decodes members.1 rest
    { members := (context, { members.2 with avPacket := rest }.decode)
      inputBytesUsed := decoding.inputBytesUsed
      frame := decoding.frame.map fun frame => (frame, granted) }
  createOutputPacket members frame :=
    let (created, packet) := creates members.2 frame.1 frame.2
    ((members.1, created), packet)
  createOutputEndOfStreamPacket members := FfmpegDemux.createEndOfStream members.2.nextPts

def decoder (base : FfmpegDecoderBase (Context × FfmpegDecoder)) : FfmpegDecoder :=
  { base.members.2 with avPacket := base.avPacket }

theorem decoder_prepared (base : FfmpegDecoderBase (Context × FfmpegDecoder)) (input : Packet)
    (newInput : Bool) : (base.prepared input newInput).decoder =
      if newInput then base.decoder.prepareInputPacket input else base.decoder := by
  cases newInput <;> rfl

theorem useInput_decoder {started after : FfmpegDecoder} {input : Packet} {decoding : Decoding}
    {output : Option Packet} {written : Bool} {result : TransformResult} (context : Context)
    (returns : started.useInput input decoding output written = some (after, result))
    {framed : Bool} (same : framed = decoding.frame.isSome) :
    ∃ next final, (if started.avPacket.size < decoding.inputBytesUsed then none
      else if (started.avPacket.use decoding.inputBytesUsed).size ≠ 0 ∨
          input.endOfStream ∧ framed then
        some (({ members := (context, started)
                 avPacket := started.avPacket.use decoding.inputBytesUsed } :
            FfmpegDecoderBase (Context × FfmpegDecoder)),
          ({ done := false, output } : BaseResult))
      else
        some (unprepareInputPacket (ffmpegDecoders decodes creates)
          { members := (context, started)
            avPacket := started.avPacket.use decoding.inputBytesUsed } input output)) =
        some (next, final) ∧
      next.decoder = after ∧ final.done = result.done ∧ final.output = result.output := by
  subst same
  have left : (started.useBytes decoding.inputBytesUsed).avPacket =
      started.avPacket.use decoding.inputBytesUsed := rfl
  simp only [FfmpegDecoder.useInput, left] at returns
  split at returns
  · cases returns
  next inside =>
    rw [if_neg inside]
    split at returns
    next more =>
      obtain ⟨rfl, rfl⟩ := Prod.mk.inj (Option.some.inj returns)
      rw [if_pos more]
      exact ⟨_, _, rfl, rfl, rfl, rfl⟩
    next finished =>
      obtain ⟨rfl, rfl⟩ := Prod.mk.inj (Option.some.inj returns)
      rw [if_neg finished]
      exact ⟨_, _, rfl, rfl, rfl, rfl⟩

theorem transformPacket_decoder {base : FfmpegDecoderBase (Context × FfmpegDecoder)}
    {input : Packet} {newInput : Bool} {after : FfmpegDecoder} {result : TransformResult}
    {context : Context} {decoding : Decoding} {granted : Bool}
    (agrees : ∀ decoder frame granted after packet written,
      FfmpegDecoder.createOutputPacket decoder frame granted = some (after, packet, written) →
        creates decoder frame granted = (after, packet))
    (decoded : decodes base.members.1 (base.prepared input newInput).avPacket =
      (context, decoding, granted))
    (returns : base.decoder.transformPacket input newInput decoding granted =
      some (after, result)) :
    ∃ next output, base.transformPacket (ffmpegDecoders decodes creates) input newInput =
        some (next, output) ∧
      next.decoder = after ∧ output.done = result.done ∧ output.output = result.output := by
  have members : (base.prepared input newInput).decoder =
      { base.members.2 with avPacket := (base.prepared input newInput).avPacket } := by
    rw [decoder, prepared_members]
  have left := (FfmpegDecoder.decode_frame (base.prepared input newInput).decoder).2
  simp only [FfmpegDecoder.transformPacket, ← decoder_prepared] at returns
  simp only [transformPacket, prepared_members, ffmpegDecoders, decoded, ← members,
    DecoderClass.output]
  have rest : (base.prepared input newInput).decoder.avPacket =
      (base.prepared input newInput).avPacket := rfl
  rw [rest] at left
  generalize (base.prepared input newInput).avPacket = rest at left ⊢
  generalize (base.prepared input newInput).decoder.decode = started at left returns ⊢
  split at returns
  next failed =>
    obtain ⟨rfl, rfl⟩ := Prod.mk.inj (Option.some.inj returns)
    rw [if_pos failed]
    exact ⟨_, _, rfl, by rw [left]; rfl, rfl, rfl⟩
  next used =>
    rw [if_neg used]
    split at returns
    next frame framed =>
      split at returns
      next created packet written creating =>
        have kept := FfmpegDecoder.createOutputPacket_avPacket creating
        rw [left] at kept
        rw [← kept]
        simp only [framed, Option.map_some, agrees _ _ _ _ _ _ creating]
        exact useInput_decoder decodes creates context returns (by rw [framed]; rfl)
      next => cases returns
    next unframed =>
      rw [← left]
      simp only [unframed, Option.map_none]
      exact useInput_decoder decodes creates context returns (by rw [unframed]; rfl)

end Subclasses

end FfmpegDecoderBase

end MojoMedia
