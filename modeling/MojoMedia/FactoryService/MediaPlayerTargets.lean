import MojoMedia.FactoryService.MediaPlayer

set_option autoImplicit false

namespace MojoMedia.MediaPlayer

open Runs

def Settled (player : MediaPlayer) : Prop :=
  player.state = .playing → player.targetState ≠ .paused ∧ player.targetPosition = kNotSeeking

instance (player : MediaPlayer) : Decidable player.Settled :=
  inferInstanceAs (Decidable (_ → _))

def Overlooked (player : MediaPlayer) : Prop :=
  player.state = .waitingForSinksToPlay ∧ player.allSinksAre .playingOrEnded ∧
    (player.targetState = .paused ∨ player.targetPosition ≠ kNotSeeking)

instance (player : MediaPlayer) : Decidable player.Overlooked :=
  inferInstanceAs (Decidable (_ ∧ _))

theorem not_overlooked_again {player next : MediaPlayer}
    (pass : player.updatePass = .again next) : ¬ next.Overlooked := by
  rintro ⟨state, -, target⟩
  unfold updatePass at pass
  split at pass
  next =>
    split_ifs at pass with seeking playing flushed
    · cases pass
      simp at state
    · cases pass
      rcases target with paused | sought
      · cases playing.symm.trans paused
      · exact seeking sought
  next => split_ifs at pass
  next => split_ifs at pass <;> cases pass <;> cases state
  next => split_ifs at pass <;> cases pass <;> cases state
  next => cases pass

theorem settled_done {player final : MediaPlayer} (looked : ¬ player.Overlooked)
    (pass : player.updatePass = .done final) : final.Settled := by
  intro playing
  unfold updatePass at pass
  split at pass
  next state =>
    split_ifs at pass <;> cases pass
    · cases playing
    · cases state.symm.trans playing
  next state =>
    split_ifs at pass with sinks
    · have targets : final.targetState = player.targetState ∧
          final.targetPosition = player.targetPosition := by
        cases pass
        split_ifs <;> exact ⟨rfl, rfl⟩
      rw [targets.1, targets.2]
      exact ⟨fun paused => looked ⟨state, sinks, .inl paused⟩,
        not_not.mp fun sought => looked ⟨state, sinks, .inr sought⟩⟩
    · cases pass
      cases state.symm.trans playing
  next state =>
    split_ifs at pass with target ended
    cases pass
    exact ⟨fun paused => target (.inr paused), not_not.mp fun sought => target (.inl sought)⟩
  next state =>
    split_ifs at pass
    cases pass
    cases state.symm.trans playing
  next state =>
    cases pass
    cases state.symm.trans playing

theorem update_settled_iff (player : MediaPlayer) :
    player.update.Settled ↔ ¬ player.Overlooked := by
  constructor
  · rintro settled ⟨state, sinks, target⟩
    obtain ⟨final, pass, playing, targets⟩ : ∃ final, player.updatePass = .done final ∧
        final.state = .playing ∧ final.targetState = player.targetState ∧
          final.targetPosition = player.targetPosition := by
      simp only [updatePass, state, sinks, if_true]
      refine ⟨_, rfl, ?_⟩
      split_ifs <;> exact ⟨rfl, rfl, rfl⟩
    rw [update_of_done pass] at settled
    have honoured := settled playing
    rw [targets.1, targets.2] at honoured
    rcases target with paused | sought
    · exact honoured.1 paused
    · exact sought honoured.2
  · intro looked
    apply update_keeps (fun player => ¬ player.Overlooked) Settled _ _ player looked
    · intro before next _ pass
      exact not_overlooked_again pass
    · intro before final looked pass
      exact settled_done looked pass

def Heeds (player : MediaPlayer) (event : Event) : Prop :=
  ∀ delivered ∈ player.deliver event, delivered.2 = true → ¬ delivered.1.Overlooked

instance (player : MediaPlayer) (event : Event) : Decidable (Heeds player event) :=
  inferInstanceAs (Decidable (∀ delivered ∈ player.deliver event, _))

theorem deliver_quiet {player next : MediaPlayer} {event : Event}
    (delivered : player.deliver event = some (next, false)) :
    next.state = .waiting ∨ (next.state = player.state ∧
      next.targetState = player.targetState ∧ next.targetPosition = player.targetPosition) := by
  cases event with
  | describe enabled =>
    simp only [deliver] at delivered
    split at delivered
    next => cases delivered
    next =>
      cases delivered
      exact .inr ⟨rfl, rfl, rfl⟩
  | connected index =>
    simp only [deliver] at delivered
    split at delivered
    next stream found =>
      split at delivered
      next =>
        cases delivered
        exact .inr ⟨rfl, rfl, rfl⟩
      next => cases delivered
    next => cases delivered
  | joined =>
    simp only [deliver] at delivered
    split at delivered <;> cases delivered
  | play => cases delivered
  | pause => cases delivered
  | seek position => cases delivered
  | sinkStatus index status =>
    simp only [deliver] at delivered
    split at delivered
    next stream found =>
      split_ifs at delivered
      cases status with
      | none =>
        cases delivered
        exact .inr ⟨rfl, rfl, rfl⟩
      | some state =>
        simp only at delivered
        split_ifs at delivered <;> cases delivered
        exact .inr ⟨rfl, rfl, rfl⟩
    next => cases delivered
  | answer index =>
    simp only [deliver] at delivered
    split at delivered
    next call found =>
      cases call with
      | flush =>
        cases delivered
        exact .inl rfl
      | seek position => cases delivered
      | prime => cases delivered
    next => cases delivered

theorem step_settled (player : MediaPlayer) (event : Event) (next : MediaPlayer)
    (settled : player.Settled) (heeds : Heeds player event)
    (taken : player.step event = some next) : next.Settled := by
  obtain ⟨⟨changed, updates⟩, delivered, rfl⟩ := Option.map_eq_some_iff.mp taken
  cases updates with
  | true =>
    have looked := heeds _ (Option.mem_def.mpr delivered) rfl
    exact (update_settled_iff changed).mpr looked
  | false =>
    intro playing
    rcases deliver_quiet delivered with waiting | ⟨state, target, position⟩
    · cases waiting.symm.trans playing
    · have honoured := settled (state.symm.trans playing)
      exact ⟨fun paused => honoured.1 (target.symm.trans paused), position.trans honoured.2⟩

-- The loop ends after four passes at most, and a player that plays has been asked neither to
-- pause nor to seek.
theorem target_honoured (events : List Event) (final : MediaPlayer)
    (heeds : Meets step Heeds {} events) (reached : run step {} events = some final) :
    (∀ player : MediaPlayer, ∃ returned, player.updateFor 4 = some returned) ∧
      (final.state = .playing →
        final.targetState ≠ .paused ∧ final.targetPosition = kNotSeeking) := by
  constructor
  · intro player
    exact ⟨player.update, updateFor_update player⟩
  · apply invariant_of_step step Heeds Settled step_settled {} final events _ heeds reached
    intro playing
    cases playing

def pauseAndPlay : List Event :=
  [.describe [true], .connected 0, .joined, .play, .answer 0, .sinkStatus 0 (some .playing),
    .pause, .play, .sinkStatus 0 (some .paused), .sinkStatus 0 (some .playing)]

theorem target_honoured_pauseAndPlay :
    ∃ final, run step {} pauseAndPlay = some final ∧ final.state = .playing ∧
      (final.state = .playing →
        final.targetState ≠ .paused ∧ final.targetPosition = kNotSeeking) :=
  ⟨_, rfl, by decide, (target_honoured pauseAndPlay _ (by decide) rfl).2⟩

theorem pause_overlooked :
    ∃ final, run step {} [.describe [true], .connected 0, .joined, .play, .pause, .answer 0,
        .sinkStatus 0 (some .playing)] = some final ∧
      ¬ (final.state = .playing →
        final.targetState ≠ .paused ∧ final.targetPosition = kNotSeeking) :=
  ⟨_, rfl, by decide⟩

end MojoMedia.MediaPlayer
