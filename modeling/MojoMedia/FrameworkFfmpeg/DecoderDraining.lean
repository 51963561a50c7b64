import Mathlib.Algebra.GroupWithZero.Nat
import Mathlib.Data.List.Forall2
import Mathlib.Logic.Relation
import MojoMedia.FrameworkFfmpeg.FfmpegDecoderBase

set_option autoImplicit false

namespace MojoMedia.DecoderDraining

open MachineInt Framework

variable {Members Frame : Type}

def Whole (rest : InputRest) : Prop := rest.size = rest.data.length

-- A decoder that never fails. `buffered` are the frames that it gives out on empty input.
structure WorkingDecoder (Members Frame : Type) extends DecoderClass Members Frame where
  buffered : Members → List Frame
  used : ∀ members rest, Whole rest →
    0 ≤ (decode members rest).inputBytesUsed ∧ (decode members rest).inputBytesUsed ≤ rest.size
  drained : ∀ members rest, rest.data = [] → rest.size = 0 →
    (decode members rest).frame = (buffered members).head? ∧
      buffered (decode members rest).members = (buffered members).tail
  kept : ∀ members frame, buffered (createOutputPacket members frame).1 = buffered members
  going : ∀ members frame, (createOutputPacket members frame).2.endOfStream = false
  ends : ∀ members, (createOutputEndOfStreamPacket members).endOfStream = true

def EndsOnce : List Packet → Prop
  | [] => False
  | [last] => last.endOfStream = true
  | input :: later => input.endOfStream = false ∧ EndsOnce later

-- `consumed` are the bytes that the decoder has used, and `decoded` the frames it has decoded.
structure Session (Members Frame : Type) where
  base : FfmpegDecoderBase Members
  inputs : List Packet
  inputPacketIsNew : Bool := true
  outputs : List Packet := []
  consumed : List UInt8 := []
  decoded : List Frame := []
  found : Bool := false

def start (members : Members) (inputs : List Packet) : Session Members Frame :=
  { base := { members }, inputs }

namespace Session

def rest (session : Session Members Frame) (input : Packet) : InputRest :=
  (session.base.prepared input session.inputPacketIsNew).avPacket

def decodes (subclass : DecoderClass Members Frame) (session : Session Members Frame)
    (input : Packet) : DecodeResult Members Frame :=
  session.base.decodes subclass input session.inputPacketIsNew

def updated (subclass : DecoderClass Members Frame) (session : Session Members Frame)
    (input : Packet) (later : List Packet) (after : FfmpegDecoderBase Members)
    (result : BaseResult) : Session Members Frame :=
  let decoded := session.decodes subclass input
  { base := after
    inputs := if result.done then later else input :: later
    inputPacketIsNew := result.done
    outputs := session.outputs ++ result.output.toList
    consumed := session.consumed ++ (session.rest input).data.take decoded.inputBytesUsed.toNat
    decoded := session.decoded ++ decoded.frame.toList
    found := session.found || result.found }

end Session

def step (subclass : DecoderClass Members Frame) (session : Session Members Frame) :
    Option (Session Members Frame) :=
  match session.inputs with
  | [] => none
  | input :: later =>
    (session.base.transformPacket subclass input session.inputPacketIsNew).map fun outcome =>
      session.updated subclass input later outcome.1 outcome.2

def Reaches (subclass : DecoderClass Members Frame) :
    Session Members Frame → Session Members Frame → Prop :=
  Relation.ReflTransGen fun before after => step subclass before = some after

def Made (subclass : DecoderClass Members Frame) : List Frame → List Packet → Prop :=
  List.Forall₂ fun frame packet =>
    ∃ members, packet = (subclass.createOutputPacket members frame).2

structure Drained (decoder : WorkingDecoder Members Frame) (inputs : List Packet)
    (final : Session Members Frame) : Prop where
  finished : final.inputs = []
  consumed : final.consumed = inputs.flatMap (·.payload)
  empty : decoder.buffered final.base.members = []
  outputs : ∃ packets last, final.outputs = packets ++ [last] ∧ last.endOfStream = true ∧
    (∀ packet ∈ packets, packet.endOfStream = false) ∧
    Made decoder.toDecoderClass final.decoded packets

-- The decoder uses up the rest of a packet and then the packets after it. If the call that uses
-- up the last of them decodes no frame, then there are no frames left.
inductive GetsThrough (decoder : WorkingDecoder Members Frame) :
    List Packet → Members → InputRest → Prop
  | more {later : List Packet} {members : Members} {rest : InputRest}
      (part : (decoder.decode members rest).inputBytesUsed ≠ rest.size)
      (through : GetsThrough decoder later (decoder.output (decoder.decode members rest)).1
        (rest.use (decoder.decode members rest).inputBytesUsed)) :
      GetsThrough decoder later members rest
  | next {input : Packet} {later : List Packet} {members : Members} {rest : InputRest}
      (all : (decoder.decode members rest).inputBytesUsed = rest.size)
      (through : GetsThrough decoder later (decoder.output (decoder.decode members rest)).1
        (.ofPacket input)) :
      GetsThrough decoder (input :: later) members rest
  | last {members : Members} {rest : InputRest}
      (all : (decoder.decode members rest).inputBytesUsed = rest.size)
      (empty : (decoder.decode members rest).frame = none →
        decoder.buffered (decoder.output (decoder.decode members rest)).1 = []) :
      GetsThrough decoder [] members rest

def GetsThroughAll (decoder : WorkingDecoder Members Frame) (members : Members) :
    List Packet → Prop
  | [] => False
  | input :: later => GetsThrough decoder later members (.ofPacket input)

section Step

variable {subclass : DecoderClass Members Frame} {session next final : Session Members Frame}

theorem step_cases (taken : step subclass session = some next) :
    ∃ input later after result, session.inputs = input :: later ∧ result.found = false ∧
      FfmpegDecoderBase.Outcome subclass input (session.rest input)
        (session.decodes subclass input) after result ∧
      next = session.updated subclass input later after result := by
  rw [step] at taken
  split at taken
  · cases taken
  next input later inputs =>
    obtain ⟨⟨after, result⟩, returns, rfl⟩ := Option.map_eq_some_iff.mp taken
    obtain ⟨unfound, outcome⟩ := FfmpegDecoderBase.transformPacket_outcome returns
    exact ⟨input, later, after, result, inputs, unfound, outcome, rfl⟩

theorem step_returns {input : Packet} {later : List Packet}
    (inputs : session.inputs = input :: later)
    (used : 0 ≤ (session.decodes subclass input).inputBytesUsed)
    (within : (session.decodes subclass input).inputBytesUsed ≤ (session.rest input).size) :
    ∃ next, step subclass session = some next := by
  obtain ⟨outcome, returns⟩ := FfmpegDecoderBase.transformPacket_returns used within
  rw [step, inputs]
  exact ⟨_, congrArg (Option.map _) returns⟩

theorem Reaches.found (reaches : Reaches subclass session final) (unfound : session.found = false) :
    final.found = false := by
  induction reaches with
  | refl => exact unfound
  | tail _ taken ih =>
    obtain ⟨input, later, after, result, -, unfound, -, rfl⟩ := step_cases taken
    simp only [Session.updated, ih, unfound, Bool.or_self]

end Step

def covered (input : Packet) : Nat := (s32 input.size).toNat

theorem covered_le (input : Packet) : covered input ≤ input.size := by
  obtain ⟨turns, same⟩ := s32_congr input.size
  have upper := s32_lt input.size
  rw [covered]
  omega

theorem size_lt_of_covered {input : Packet} (all : covered input = input.size) :
    input.size < 2 ^ 31 := by
  have upper := s32_lt input.size
  rw [covered] at all
  omega

theorem covered_sum_le (inputs : List Packet) :
    (inputs.map covered).sum ≤ (inputs.flatMap (·.payload)).length := by
  induction inputs with
  | nil => exact Nat.le_refl _
  | cons input later ih =>
    have first := covered_le input
    rw [Packet.size] at first
    simp only [List.map_cons, List.sum_cons, List.flatMap_cons, List.length_append]
    omega

theorem short_of_covered (inputs : List Packet)
    (all : (inputs.flatMap (·.payload)).length ≤ (inputs.map covered).sum) :
    ∀ input ∈ inputs, input.size < 2 ^ 31 := by
  induction inputs with
  | nil => exact List.forall_mem_nil _
  | cons input later ih =>
    have first := covered_le input
    have others := covered_sum_le later
    have same : input.size = input.payload.length := rfl
    simp only [List.map_cons, List.sum_cons, List.flatMap_cons, List.length_append] at all
    exact List.forall_mem_cons.mpr
      ⟨size_lt_of_covered (by omega), ih (by omega)⟩

theorem rest_new {session : Session Members Frame} (isNew : session.inputPacketIsNew = true)
    (input : Packet) : session.rest input = .ofPacket input := by
  simp only [Session.rest, FfmpegDecoderBase.prepared, isNew, if_true]
  rfl

def Session.bound (session : Session Members Frame) : Nat :=
  match session.inputs with
  | [] => 0
  | input :: later => (session.rest input).size.toNat + (later.map covered).sum

theorem bound_new {session : Session Members Frame} (isNew : session.inputPacketIsNew = true) :
    session.bound = (session.inputs.map covered).sum := by
  rw [Session.bound]
  cases session.inputs with
  | nil => rfl
  | cons input later =>
    simp only [rest_new isNew, List.map_cons, List.sum_cons, covered, InputRest.ofPacket]

section Step

variable {subclass : DecoderClass Members Frame} {session next final : Session Members Frame}

theorem bound_again (input : Packet) (later : List Packet) (members : Members)
    (avPacket : InputRest) (output : Option Packet) :
    (session.updated subclass input later { members, avPacket } { done := false, output }).bound =
      avPacket.size.toNat + (later.map covered).sum := rfl

theorem step_bound (taken : step subclass session = some next) :
    next.consumed.length + next.bound ≤ session.consumed.length + session.bound := by
  obtain ⟨input, later, after, result, inputs, -, outcome, rfl⟩ := step_cases taken
  have before : session.bound = (session.rest input).size.toNat + (later.map covered).sum := by
    rw [Session.bound, inputs]
  have taken := List.length_take_le (session.decodes subclass input).inputBytesUsed.toNat
    (session.rest input).data
  have consumed : (session.updated subclass input later after result).consumed.length ≤
      session.consumed.length + (session.decodes subclass input).inputBytesUsed.toNat := by
    simp only [Session.updated, List.length_append]
    omega
  have finished (done : result.done = true) :
      (session.updated subclass input later after result).bound = (later.map covered).sum := by
    rw [bound_new done]
    simp only [Session.updated, done, if_true]
  cases outcome with
  | failed _ _ failed done =>
    rw [before, finished done]
    omega
  | again used within more =>
    have left : ((session.rest input).use
        (session.decodes subclass input).inputBytesUsed).size =
        (session.rest input).size - (session.decodes subclass input).inputBytesUsed := rfl
    rw [before, bound_again]
    omega
  | finished avPacket used all silent =>
    rw [before, finished rfl]
    omega

theorem Reaches.bound (reaches : Reaches subclass session final) :
    final.consumed.length + final.bound ≤ session.consumed.length + session.bound := by
  induction reaches with
  | refl => exact Nat.le_refl _
  | tail _ taken ih => exact Nat.le_trans (step_bound taken) ih

end Step

def Session.left (session : Session Members Frame) : List UInt8 :=
  match session.inputs with
  | [] => []
  | input :: later => (session.rest input).data ++ later.flatMap (·.payload)

structure Inv (decoder : WorkingDecoder Members Frame) (total : List UInt8)
    (session : Session Members Frame) : Prop where
  ending : session.inputs = [] ∨ EndsOnce session.inputs
  short : ∀ input ∈ session.inputs, input.size < 2 ^ 31
  whole : ∀ input ∈ session.inputs.head?, Whole (session.rest input)
  bytes : session.consumed ++ session.left = total
  made : session.inputs ≠ [] → Made decoder.toDecoderClass session.decoded session.outputs
  ended : session.inputs = [] → ∃ packets members,
    session.outputs = packets ++ [decoder.createOutputEndOfStreamPacket members] ∧
      Made decoder.toDecoderClass session.decoded packets

theorem endsOnce_cons (input : Packet) (later : List Packet) : EndsOnce (input :: later) ↔
    (input.endOfStream = true ∧ later = []) ∨ (input.endOfStream = false ∧ EndsOnce later) := by
  cases later with
  | nil => simp [EndsOnce]
  | cons next later => simp [EndsOnce]

theorem whole_ofPacket {input : Packet} (short : input.size < 2 ^ 31) :
    Whole (.ofPacket input) := by
  rw [Packet.size] at short
  have same : s32 input.payload.length = input.payload.length :=
    s32_of_lt _ (by omega) (by omega)
  simp only [Whole, InputRest.ofPacket, Packet.size, same]

theorem Whole.use {rest : InputRest} (whole : Whole rest) {used : Int} (positive : 0 ≤ used)
    (within : used ≤ rest.size) : Whole (rest.use used) := by
  simp only [Whole, InputRest.use, List.length_drop] at whole ⊢
  omega

theorem left_new {session : Session Members Frame} (isNew : session.inputPacketIsNew = true) :
    session.left = session.inputs.flatMap (·.payload) := by
  rw [Session.left]
  cases session.inputs with
  | nil => rfl
  | cons input later => simp only [rest_new isNew, List.flatMap_cons, InputRest.ofPacket]

section Decoder

variable {decoder : WorkingDecoder Members Frame} {session next final : Session Members Frame}
  {total : List UInt8}

theorem Made.output {frames : List Frame} {packets : List Packet}
    (made : Made decoder.toDecoderClass frames packets) (decoded : DecodeResult Members Frame) :
    Made decoder.toDecoderClass (frames ++ decoded.frame.toList)
      (packets ++ (decoder.output decoded).2.toList) := by
  rw [DecoderClass.output]
  cases decoded.frame with
  | none => simpa using made
  | some frame => exact List.rel_append made (.cons ⟨decoded.members, rfl⟩ .nil)

theorem Made.going {frames : List Frame} {packets : List Packet}
    (made : Made decoder.toDecoderClass frames packets) :
    ∀ packet ∈ packets, packet.endOfStream = false := by
  induction made with
  | nil => exact List.forall_mem_nil _
  | cons first _ ih =>
    obtain ⟨members, rfl⟩ := first
    exact List.forall_mem_cons.mpr ⟨decoder.going members _, ih⟩

theorem Inv.used (inv : Inv decoder total session) {input : Packet} {later : List Packet}
    (inputs : session.inputs = input :: later) :
    0 ≤ (session.decodes decoder.toDecoderClass input).inputBytesUsed ∧
      (session.decodes decoder.toDecoderClass input).inputBytesUsed ≤ (session.rest input).size :=
  decoder.used _ _ (inv.whole input (by rw [inputs]; rfl))

theorem Inv.ending_cons (inv : Inv decoder total session) {input : Packet} {later : List Packet}
    (inputs : session.inputs = input :: later) :
    (input.endOfStream = true ∧ later = []) ∨ (input.endOfStream = false ∧ EndsOnce later) := by
  rw [← endsOnce_cons, ← inputs]
  exact inv.ending.resolve_left (by simp [inputs])

theorem Inv.bytes_cons (inv : Inv decoder total session) {input : Packet} {later : List Packet}
    (inputs : session.inputs = input :: later) :
    session.consumed ++ ((session.rest input).data ++ later.flatMap (·.payload)) = total := by
  have bytes := inv.bytes
  rw [Session.left, inputs] at bytes
  exact bytes

theorem Inv.again (inv : Inv decoder total session) {input : Packet} {later : List Packet}
    (inputs : session.inputs = input :: later) :
    Inv decoder total (session.updated decoder.toDecoderClass input later
      { members := (decoder.output (session.decodes decoder.toDecoderClass input)).1
        avPacket := (session.rest input).use
          (session.decodes decoder.toDecoderClass input).inputBytesUsed }
      { done := false
        output := (decoder.output (session.decodes decoder.toDecoderClass input)).2 }) := by
  have ending := (endsOnce_cons input later).mpr (inv.ending_cons inputs)
  have short := inv.short
  rw [inputs] at short
  have made := inv.made (by simp [inputs])
  refine ⟨.inr ending, short, ?_, ?_, fun _ => made.output _, fun none => ?_⟩
  · intro other same
    obtain rfl : input = other := Option.some.inj same
    have whole : Whole (session.rest input) := inv.whole input (by rw [inputs]; rfl)
    exact whole.use (inv.used inputs).1 (inv.used inputs).2
  · rw [← inv.bytes_cons inputs]
    simp only [Session.left, Session.updated, Session.rest, FfmpegDecoderBase.prepared,
      InputRest.use, List.append_assoc, Bool.false_eq_true, if_false]
    rw [← List.append_assoc (List.take _ _), List.take_append_drop]
  · simp [Session.updated] at none

theorem Inv.finished (inv : Inv decoder total session) {input : Packet} {later : List Packet}
    (inputs : session.inputs = input :: later) (after : FfmpegDecoderBase Members)
    {result : BaseResult} (done : result.done = true)
    (output : result.output =
      if input.endOfStream then
        some (decoder.createOutputEndOfStreamPacket
          (decoder.output (session.decodes decoder.toDecoderClass input)).1)
      else (decoder.output (session.decodes decoder.toDecoderClass input)).2)
    (all : (session.decodes decoder.toDecoderClass input).inputBytesUsed =
      (session.rest input).size)
    (silent : input.endOfStream = true →
      (session.decodes decoder.toDecoderClass input).frame = none) :
    Inv decoder total (session.updated decoder.toDecoderClass input later after result) := by
  have ending := inv.ending_cons inputs
  have short := inv.short
  rw [inputs] at short
  have made := inv.made (by simp [inputs])
  have isNew : (session.updated decoder.toDecoderClass input later after
      result).inputPacketIsNew = true := done
  have left : (session.updated decoder.toDecoderClass input later after result).inputs = later :=
    if_pos done
  refine ⟨?_, ?_, ?_, ?_, ?_, ?_⟩
  · rw [left]
    exact ending.imp And.right And.right
  · rw [left]
    exact fun other member => short other (.tail _ member)
  · rw [left]
    intro other first
    rw [rest_new isNew]
    exact whole_ofPacket (short other (.tail _ (List.mem_of_mem_head? first)))
  · have whole : Whole (session.rest input) := inv.whole input (by rw [inputs]; rfl)
    have taken : (session.rest input).data.take
        (session.decodes decoder.toDecoderClass input).inputBytesUsed.toNat =
        (session.rest input).data := by
      apply List.take_of_length_le
      rw [Whole] at whole
      omega
    rw [left_new isNew, left, ← inv.bytes_cons inputs]
    simp only [Session.updated, taken, List.append_assoc]
  · rw [left]
    intro some
    obtain ⟨going, -⟩ := ending.resolve_left fun last => some last.2
    simp only [Session.updated, output, going, Bool.false_eq_true, if_false]
    exact made.output _
  · rw [left]
    rintro rfl
    have last : input.endOfStream = true := ending.elim And.left fun going => going.2.elim
    refine ⟨session.outputs, (decoder.output (session.decodes decoder.toDecoderClass input)).1,
      ?_, ?_⟩
    · simp only [Session.updated, output, last, if_true, Option.toList_some]
    · simp only [Session.updated, silent last, Option.toList_none, List.append_nil]
      exact made

theorem Inv.step (inv : Inv decoder total session)
    (taken : step decoder.toDecoderClass session = some next) : Inv decoder total next := by
  obtain ⟨input, later, after, result, inputs, -, outcome, rfl⟩ := step_cases taken
  have used := inv.used inputs
  cases outcome with
  | failed _ _ failed _ => omega
  | again _ _ _ => exact inv.again inputs
  | finished avPacket _ all silent => exact inv.finished inputs _ rfl rfl all silent

def Ahead (decoder : WorkingDecoder Members Frame) (session : Session Members Frame) : Prop :=
  match session.inputs with
  | [] => decoder.buffered session.base.members = []
  | input :: later => GetsThrough decoder later session.base.members (session.rest input)

theorem Ahead.back (inv : Inv decoder total session)
    (taken : DecoderDraining.step decoder.toDecoderClass session = some next)
    (ahead : Ahead decoder next) : Ahead decoder session := by
  obtain ⟨input, later, after, result, inputs, -, outcome, rfl⟩ := step_cases taken
  have ending := inv.ending_cons inputs
  have lawful := inv.used inputs
  rw [Ahead, inputs]
  cases outcome with
  | failed _ _ failed _ => omega
  | again used within more =>
    by_cases all : (session.decodes decoder.toDecoderClass input).inputBytesUsed =
        (session.rest input).size
    · obtain ⟨last, framed⟩ := more.resolve_left (not_not.mpr all)
      have alone : later = [] := by
        rcases ending with ⟨-, alone⟩ | ⟨going, -⟩
        · exact alone
        · rw [last] at going
          cases going
      subst alone
      refine .last all fun unframed => ?_
      have none : (session.decodes decoder.toDecoderClass input).frame = none := unframed
      rw [none] at framed
      cases framed
    · exact .more all ahead
  | finished avPacket used all silent =>
    cases later with
    | nil => exact .last all fun _ => ahead
    | cons other later => exact .next all ahead

theorem Reaches.ahead (reaches : Reaches decoder.toDecoderClass session final)
    (inv : Inv decoder total session) (ahead : Ahead decoder final) : Ahead decoder session := by
  induction reaches using Relation.ReflTransGen.head_induction_on with
  | refl => exact ahead
  | head taken _ ih => exact .back inv taken (ih (inv.step taken))

theorem Reaches.inv (reaches : Reaches decoder.toDecoderClass session final)
    (inv : Inv decoder total session) : Inv decoder total final := by
  induction reaches with
  | refl => exact inv
  | tail _ taken ih => exact ih.step taken

theorem output_buffered (decoder : WorkingDecoder Members Frame)
    (decoded : DecodeResult Members Frame) :
    decoder.buffered (decoder.output decoded).1 = decoder.buffered decoded.members := by
  rw [DecoderClass.output]
  cases decoded.frame with
  | none => rfl
  | some frame => exact decoder.kept decoded.members frame

theorem Inv.moves (inv : Inv decoder total session) {input : Packet} {later : List Packet}
    (inputs : session.inputs = input :: later) :
    ∃ next, DecoderDraining.step decoder.toDecoderClass session = some next ∧
      next.base.members =
        (decoder.output (session.decodes decoder.toDecoderClass input)).1 ∧
      (if (session.decodes decoder.toDecoderClass input).inputBytesUsed ≠
            (session.rest input).size ∨
          input.endOfStream = true ∧ (session.decodes decoder.toDecoderClass input).frame.isSome
        then next.inputs = input :: later ∧ next.rest input = (session.rest input).use
          (session.decodes decoder.toDecoderClass input).inputBytesUsed
        else next.inputs = later ∧ next.inputPacketIsNew = true) := by
  obtain ⟨used, within⟩ := inv.used inputs
  obtain ⟨next, taken⟩ := step_returns inputs used within
  refine ⟨next, taken, ?_⟩
  obtain ⟨other, others, after, result, same, -, outcome, rfl⟩ := step_cases taken
  obtain ⟨rfl, rfl⟩ := List.cons.inj (inputs.symm.trans same)
  cases outcome with
  | failed _ _ failed _ => omega
  | again _ _ more =>
    rw [if_pos more]
    exact ⟨rfl, rfl, rfl⟩
  | finished avPacket _ all silent =>
    have finished : ¬ ((session.decodes decoder.toDecoderClass input).inputBytesUsed ≠
        (session.rest input).size ∨ input.endOfStream = true ∧
          (session.decodes decoder.toDecoderClass input).frame.isSome) := by
      rintro (part | ⟨last, framed⟩)
      · exact part all
      · rw [silent last] at framed
        cases framed
    rw [if_neg finished]
    exact ⟨rfl, rfl, rfl⟩

theorem drains {input : Packet} (last : input.endOfStream = true) (frames : List Frame)
    (session : Session Members Frame) (inv : Inv decoder total session)
    (inputs : session.inputs = [input]) (data : (session.rest input).data = [])
    (size : (session.rest input).size = 0)
    (buffered : decoder.buffered session.base.members = frames) :
    ∃ final, Reaches decoder.toDecoderClass session final ∧ final.inputs = [] ∧
      decoder.buffered final.base.members = [] := by
  induction frames generalizing session with
  | nil =>
    obtain ⟨decoded, left⟩ := decoder.drained session.base.members (session.rest input) data size
    obtain ⟨used, within⟩ := inv.used inputs
    obtain ⟨next, taken, members, moved⟩ := inv.moves inputs
    have unframed : (session.decodes decoder.toDecoderClass input).frame = none := by
      rw [buffered] at decoded
      exact decoded
    rw [if_neg (by rw [unframed]; simp; omega)] at moved
    refine ⟨next, .single taken, moved.1, ?_⟩
    rw [members, output_buffered]
    rw [buffered] at left
    exact left
  | cons frame frames ih =>
    obtain ⟨decoded, left⟩ := decoder.drained session.base.members (session.rest input) data size
    obtain ⟨next, taken, members, moved⟩ := inv.moves inputs
    obtain ⟨used, within⟩ := inv.used inputs
    have framed : (session.decodes decoder.toDecoderClass input).frame = some frame := by
      rw [buffered] at decoded
      exact decoded
    rw [if_pos (.inr ⟨last, by rw [framed]; rfl⟩)] at moved
    have remains : decoder.buffered next.base.members = frames := by
      rw [members, output_buffered]
      rw [buffered] at left
      exact left
    obtain ⟨final, reaches, finished⟩ := ih next (inv.step taken) moved.1
      (by rw [moved.2, InputRest.use, data, List.drop_nil])
      (by rw [moved.2]; simp only [InputRest.use]; omega) remains
    exact ⟨final, .head taken reaches, finished⟩

theorem GetsThrough.finishes {later : List Packet} {members : Members} {rest : InputRest}
    (through : GetsThrough decoder later members rest) :
    ∀ (session : Session Members Frame) (input : Packet), Inv decoder total session →
      session.inputs = input :: later → session.base.members = members →
      session.rest input = rest →
      ∃ final, Reaches decoder.toDecoderClass session final ∧ final.inputs = [] ∧
        decoder.buffered final.base.members = [] := by
  induction through with
  | more part _ ih =>
    rintro session input inv inputs rfl rfl
    obtain ⟨next, taken, members, moved⟩ := inv.moves inputs
    rw [if_pos (.inl part)] at moved
    obtain ⟨final, reaches, finished⟩ := ih next input (inv.step taken) moved.1 members moved.2
    exact ⟨final, .head taken reaches, finished⟩
  | @next other later _ _ all _ ih =>
    rintro session input inv inputs rfl rfl
    obtain ⟨next, taken, members, moved⟩ := inv.moves inputs
    have ending := inv.ending_cons inputs
    have going : input.endOfStream = false := by
      rcases ending with ⟨-, none⟩ | ⟨going, -⟩
      · cases none
      · exact going
    rw [if_neg (by rw [going, not_or]; exact ⟨not_not.mpr all, by simp⟩)] at moved
    obtain ⟨final, reaches, finished⟩ :=
      ih next other (inv.step taken) moved.1 members (rest_new moved.2 other)
    exact ⟨final, .head taken reaches, finished⟩
  | last all empty =>
    rintro session input inv inputs rfl rfl
    obtain ⟨used, -⟩ := inv.used inputs
    obtain ⟨next, taken, members, moved⟩ := inv.moves inputs
    have last : input.endOfStream = true :=
      (inv.ending_cons inputs).elim And.left fun going => going.2.elim
    have whole : Whole (session.rest input) := inv.whole input (by rw [inputs]; rfl)
    cases decoded : (session.decodes decoder.toDecoderClass input).frame with
    | none =>
      rw [if_neg (by rw [not_or, decoded]; exact ⟨not_not.mpr all, by simp⟩)] at moved
      refine ⟨next, .single taken, moved.1, ?_⟩
      rw [members]
      exact empty decoded
    | some frame =>
      rw [if_pos (.inr ⟨last, by rw [decoded]; rfl⟩)] at moved
      have used : (session.decodes decoder.toDecoderClass input).inputBytesUsed =
          (session.rest input).size := all
      rw [used] at moved
      obtain ⟨final, reaches, finished⟩ := drains last _ next (inv.step taken) moved.1
        (by
          rw [Whole] at whole
          rw [moved.2, InputRest.use]
          apply List.drop_of_length_le
          omega)
        (by rw [moved.2]; exact Int.sub_self _) rfl
      exact ⟨final, .head taken reaches, finished⟩

theorem start_inv (decoder : WorkingDecoder Members Frame) (members : Members)
    {inputs : List Packet} (ending : EndsOnce inputs)
    (short : ∀ input ∈ inputs, input.size < 2 ^ 31) :
    Inv decoder (inputs.flatMap (·.payload)) (start members inputs) := by
  refine ⟨.inr ending, short, ?_, ?_, fun _ => .nil, ?_⟩
  · intro input first
    rw [rest_new rfl]
    exact whole_ofPacket (short input (List.mem_of_mem_head? first))
  · exact left_new rfl
  · rintro (rfl : inputs = [])
    cases ending

theorem Inv.drained {inputs : List Packet}
    (inv : Inv decoder (inputs.flatMap (·.payload)) final) (finished : final.inputs = [])
    (empty : decoder.buffered final.base.members = []) : Drained decoder inputs final := by
  obtain ⟨packets, members, outputs, made⟩ := inv.ended finished
  have bytes := inv.bytes
  rw [Session.left, finished, List.append_nil] at bytes
  exact ⟨finished, bytes, empty, packets, _, outputs, decoder.ends members, made.going, made⟩

end Decoder

-- A stream is drained exactly if no packet is larger than an `int` can say and the decoder gets
-- through the packets, the last of which leaves it a frame to give out or none at all.
theorem drains_iff (decoder : WorkingDecoder Members Frame) (members : Members)
    (inputs : List Packet) (ending : EndsOnce inputs) :
    ((∃ final, Reaches decoder.toDecoderClass (start members inputs) final ∧
        Drained decoder inputs final) ∧
      ∀ state, Reaches decoder.toDecoderClass (start members inputs) state →
        state.found = false) ↔
    (∀ input ∈ inputs, input.size < 2 ^ 31) ∧ GetsThroughAll decoder members inputs := by
  constructor
  · rintro ⟨⟨final, reaches, drained⟩, -⟩
    have short : ∀ input ∈ inputs, input.size < 2 ^ 31 := by
      have bound := reaches.bound
      have all : (start members inputs : Session Members Frame).bound =
          (inputs.map covered).sum := bound_new rfl
      have none : (start members inputs : Session Members Frame).consumed.length = 0 := rfl
      rw [drained.consumed, all, none] at bound
      exact short_of_covered inputs (by omega)
    have ahead : Ahead decoder final := by
      rw [Ahead, drained.finished]
      exact drained.empty
    have began := reaches.ahead (start_inv decoder members ending short) ahead
    refine ⟨short, ?_⟩
    cases inputs with
    | nil => cases ending
    | cons input later =>
      have whole : (start members (input :: later) : Session Members Frame).rest input =
          .ofPacket input := rest_new rfl input
      have through : GetsThrough decoder later members
          ((start members (input :: later) : Session Members Frame).rest input) := began
      rw [whole] at through
      exact through
  · rintro ⟨short, through⟩
    have inv := start_inv decoder members ending short
    refine ⟨?_, fun state reaches => reaches.found rfl⟩
    cases inputs with
    | nil => cases ending
    | cons input later =>
      obtain ⟨final, reaches, finished, empty⟩ :=
        GetsThrough.finishes through _ input inv rfl rfl (rest_new rfl input)
      exact ⟨final, reaches, (reaches.inv inv).drained finished empty⟩

theorem getsThrough_empty (decoder : WorkingDecoder Members Frame) (members : Members)
    {rest : InputRest} (data : rest.data = []) (size : rest.size = 0) :
    GetsThrough decoder [] members rest := by
  obtain ⟨decoded, left⟩ := decoder.drained members rest data size
  have whole : Whole rest := by simp [Whole, data, size]
  have used := decoder.used members rest whole
  refine .last (by omega) fun unframed => ?_
  rw [unframed] at decoded
  have empty := List.head?_eq_none_iff.mp decoded.symm
  rw [output_buffered, left, empty]
  rfl

def delayingClass : DecoderClass (List UInt8) UInt8 where
  decode members rest :=
    match rest.data with
    | [] => { members := members.tail, inputBytesUsed := 0, frame := members.head? }
    | byte :: _ =>
      { members := members.tail ++ [byte], inputBytesUsed := 1, frame := members.head? }
  createOutputPacket members frame :=
    (members, { pts := 0, endOfStream := false, payload := [frame] })
  createOutputEndOfStreamPacket _ := { pts := 0, endOfStream := true, payload := [] }

theorem delayingClass_used (members : List UInt8) (rest : InputRest) (whole : Whole rest) :
    0 ≤ (delayingClass.decode members rest).inputBytesUsed ∧
      (delayingClass.decode members rest).inputBytesUsed ≤ rest.size := by
  rw [Whole] at whole
  simp only [delayingClass]
  cases data : rest.data with
  | nil =>
    rw [data, List.length_nil] at whole
    simp only
    omega
  | cons byte later =>
    rw [data, List.length_cons] at whole
    simp only
    omega

theorem delayingClass_drained (members : List UInt8) (rest : InputRest) (data : rest.data = []) :
    (delayingClass.decode members rest).frame = members.head? ∧
      (delayingClass.decode members rest).members = members.tail := by
  simp [delayingClass, data]

def delaying : WorkingDecoder (List UInt8) UInt8 where
  toDecoderClass := delayingClass
  buffered members := members
  used := delayingClass_used
  drained members rest data _ := delayingClass_drained members rest data
  kept _ _ := rfl
  going _ _ := rfl
  ends _ := rfl

def twoBytes : List Packet :=
  [{ pts := 0, endOfStream := false, payload := [1, 2] },
    { pts := 0, endOfStream := true, payload := [] }]

theorem twoBytes_drained :
    ∃ final, Reaches delaying.toDecoderClass (start [] twoBytes) final ∧
      Drained delaying twoBytes final := by
  have through : GetsThroughAll delaying [] twoBytes :=
    .more (by decide) (.next (by decide) (getsThrough_empty delaying _ rfl rfl))
  exact ((drains_iff delaying [] twoBytes ⟨rfl, rfl⟩).mpr ⟨by decide, through⟩).1

def lastByte : List Packet := [{ pts := 0, endOfStream := true, payload := [1] }]

theorem lastByte_not_drained :
    EndsOnce lastByte ∧ ¬ ∃ final, Reaches delaying.toDecoderClass (start [] lastByte) final ∧
      Drained delaying lastByte final := by
  have ending : EndsOnce lastByte := rfl
  refine ⟨ending, ?_⟩
  rintro ⟨final, reaches, drained⟩
  have inv := start_inv delaying [] ending (by decide)
  have ahead : Ahead delaying final := by
    rw [Ahead, drained.finished]
    exact drained.empty
  have through : GetsThrough delaying [] [] (.ofPacket ⟨0, true, [1]⟩) := reaches.ahead inv ahead
  cases through with
  | more part _ => exact part rfl
  | last _ empty => exact absurd (empty rfl) (by decide)

end MojoMedia.DecoderDraining
