import MojoMedia.Audio.ProcessMix

set_option autoImplicit false

namespace MojoMedia.Mixers

open MachineInt

def MixState.over (base : Nat → Int) (state : MixState) : MixState :=
  { state with mixBuf := fun index => s32 (base index + state.mixBuf index) }

namespace MixArgs

variable {config : Config} {args : MixArgs config}

def alone (args : MixArgs config) : MixArgs config := { args with accumulate := false }

def Fresh (args : MixArgs config) (state : MixState) : Prop :=
  ∀ index, args.dst + state.dstOffset * config.dst.count ≤ index → state.mixBuf index = 0

def Adds (args : MixArgs config) (stage bare : MixState → MixState) : Prop :=
  ∀ base state, args.Fresh state →
    stage (state.over base) = (bare state).over base ∧ args.Fresh (bare state)

theorem Adds.refl : args.Adds (fun state => state) (fun state => state) :=
  fun _ _ fresh => ⟨rfl, fresh⟩

def AddsCall (args : MixArgs config) (call bare : MixState → Bool × MixState) : Prop :=
  ∀ base state, args.Fresh state →
    call (state.over base) = ((bare state).1, (bare state).2.over base) ∧
      args.Fresh (bare state).2

theorem Adds.call {stage bare : MixState → MixState} (adds : args.Adds stage bare)
    (flag : MixState → Bool) (same : ∀ base state, flag (MixState.over base state) = flag state) :
    args.AddsCall (fun state => (flag (stage state), stage state))
      (fun state => (flag (bare state), bare state)) := by
  intro base state fresh
  obtain ⟨moved, after⟩ := adds base state fresh
  simp only [moved, same, true_and]
  exact after

def saveIfPassed (args : MixArgs config) (state : MixState) : MixState :=
  if args.send ≤ state.fracSrcOffset then { state with sampler := args.saveLast state.sampler }
  else state

def mixStages (args : MixArgs config) : MixState → MixState :=
  args.saveIfPassed ∘ args.sampleFinal ∘
    fun state => if args.scaler = .muted then args.skipMuted state else args.mixBody state

theorem mix_eq (state : MixState) :
    args.mix state = (decide (args.send ≤ (args.mixStages state).fracSrcOffset ∧
      (args.mixStages state).dstOffset < args.dstFrames), args.mixStages state) := by
  simp only [mix, mixStages, saveIfPassed, Function.comp_apply]
  generalize args.sampleFinal (if args.scaler = .muted then args.skipMuted state
    else args.mixBody state) = produced
  by_cases passed : args.send ≤ produced.fracSrcOffset
  · simp [passed]
  · simp [passed]

end MixArgs

end MojoMedia.Mixers

namespace MojoMedia.Audio

open MachineInt Mixers

section Packets

variable {config : Config}

def Pass.over (base : Nat → Int) (pass : Pass) : Pass :=
  { pass with mixBuf := fun index => s32 (base index + pass.mixBuf index) }

def Pass.Fresh (channels : Nat) (pass : Pass) : Prop :=
  ∀ index, pass.framesProduced * channels ≤ index → pass.mixBuf index = 0

end Packets

variable {dst : Channels}

def MixTrack.written (track : MixTrack dst) (job : CurMixJob) : Nat → Int :=
  (track.mix job false silence).mixBuf

end MojoMedia.Audio
