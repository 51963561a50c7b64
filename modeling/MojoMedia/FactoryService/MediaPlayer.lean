import MojoMedia.Shared.Runs
import MojoMedia.FrameworkMojo.MediaTransport

set_option autoImplicit false

-- One thread. The demux and the sinks are other processes: what they are asked for is sent, and
-- their answers and reports arrive later, in any order.
namespace MojoMedia

inductive PlayerState where
  | waiting
  | paused
  | waitingForSinksToPlay
  | playing
  | waitingForSinksToPause
  deriving Repr, DecidableEq

inductive SinkState where
  | paused
  | playing
  | ended
  | pausedOrEnded
  | playingOrEnded
  deriving Repr, DecidableEq

def SinkState.allows (sinkState : SinkState) (state : MediaState) : Bool :=
  match sinkState with
  | .paused => state = .paused
  | .playing => state = .playing
  | .ended => state = .ended
  | .pausedOrEnded => state = .paused || state = .ended
  | .playingOrEnded => state = .playing || state = .ended

structure PlayerStream where
  enabled : Bool
  state : MediaState := .unprepared
  deriving Repr, DecidableEq

inductive DemuxCall where
  | flush
  | seek (position : Int64)
  | prime
  deriving Repr, DecidableEq

def kNotSeeking : Int64 := Int64.maxValue

structure MediaPlayer where
  state : PlayerState := .waiting
  flushed : Bool := true
  reportedMediaState : MediaState := .unprepared
  targetState : MediaState := .paused
  targetPosition : Int64 := kNotSeeking
  streams : List PlayerStream := []
  described : Bool := false
  joined : Bool := false
  pending : List DemuxCall := []
  sinkCalls : List (List Nat × MediaState) := []
  seeks : List Int64 := []
  demuxSeeks : List Int64 := []
  deriving Repr, DecidableEq

namespace MediaPlayer

def setReportedMediaState (player : MediaPlayer) (state : MediaState) : MediaPlayer :=
  { player with reportedMediaState := state }

def changeSinkStates (player : MediaPlayer) (state : MediaState) : MediaPlayer :=
  let sinks := (List.range player.streams.length).filter fun index =>
    (player.streams[index]?.map PlayerStream.enabled).getD false
  { player with
    sinkCalls := player.sinkCalls ++ [(sinks, if state = .paused then .paused else .playing)] }

def allSinksAre (player : MediaPlayer) (sinkState : SinkState) : Bool :=
  player.streams.all fun stream => !stream.enabled || sinkState.allows stream.state

-- The assertion that a position is sought has no effect of its own.
def whenFlushedAndSeeking (player : MediaPlayer) : MediaPlayer :=
  { player with
    state := .waiting
    pending := player.pending ++ [.seek player.targetPosition]
    demuxSeeks := player.demuxSeeks ++ [player.targetPosition] }

def whenPausedAndSeeking (player : MediaPlayer) : MediaPlayer :=
  if !player.flushed then
    { player with state := .waiting, pending := player.pending ++ [.flush] }
  else player.whenFlushedAndSeeking

-- A pass through the loop ends with `break`, which enters it again, or with `return`.
inductive Pass where
  | again (player : MediaPlayer)
  | done (player : MediaPlayer)

def updatePass (player : MediaPlayer) : Pass :=
  match player.state with
  | .paused =>
    if player.targetPosition ≠ kNotSeeking then .again player.whenPausedAndSeeking
    else if player.targetState = .playing then
      if !player.flushed then
        .again { player.changeSinkStates .playing with state := .waitingForSinksToPlay }
      else .done { player with
        flushed := false
        state := .waiting
        pending := player.pending ++ [.prime] }
    else .done player
  | .waitingForSinksToPlay =>
    if player.allSinksAre .playingOrEnded then
      let player := { player with state := .playing }
      .done (if player.targetState = .playing then player.setReportedMediaState .playing
        else player)
    else .done player
  | .playing =>
    if player.targetPosition ≠ kNotSeeking ∨ player.targetState = .paused then
      .again { player.changeSinkStates .paused with state := .waitingForSinksToPause }
    else if player.allSinksAre .ended then
      .again { ({ player with targetState := .ended } : MediaPlayer).setReportedMediaState .ended
        with state := .paused }
    else .done player
  | .waitingForSinksToPause =>
    if player.allSinksAre .pausedOrEnded then
      let player :=
        if player.targetState = .paused then
          if player.allSinksAre .ended then player.setReportedMediaState .ended
          else player.setReportedMediaState .paused
        else player
      .again { player with state := .paused }
    else .done player
  | .waiting => .done player

-- `none` when the loop has not ended after that many passes.
def updateFor : Nat → MediaPlayer → Option MediaPlayer
  | 0, _ => none
  | fuel + 1, player =>
    match player.updatePass with
    | .again next => updateFor fuel next
    | .done final => some final

def update (player : MediaPlayer) : MediaPlayer := (player.updateFor 4).getD player

inductive Event where
  | describe (enabled : List Bool)
  | connected (index : Nat)
  | joined
  | play
  | pause
  | seek (position : Int64)
  | sinkStatus (index : Nat) (status : Option MediaState)
  | answer (index : Nat)
  deriving Repr, DecidableEq

def answered (player : MediaPlayer) : DemuxCall → MediaPlayer × Bool
  | .flush => (({ player with flushed := true } : MediaPlayer).whenFlushedAndSeeking, false)
  | .seek _ => ({ player with targetPosition := kNotSeeking, state := .paused }, true)
  | .prime => ({ player.changeSinkStates .playing with state := .waitingForSinksToPlay }, true)

def deliver (player : MediaPlayer) : Event → Option (MediaPlayer × Bool)
  | .describe enabled =>
    if player.described then none
    else some ({ player with
      streams := enabled.map fun flag => { enabled := flag }
      described := true }, false)
  | .connected index =>
    match player.streams[index]? with
    | some stream =>
      if stream.enabled ∧ stream.state = .unprepared then
        some ({ player with
          streams := player.streams.set index { stream with state := .paused } }, false)
      else none
    | none => none
  | .joined =>
    if player.described ∧ ¬ player.joined ∧
        player.streams.all fun stream => !stream.enabled || stream.state.isPrepared then
      some ({ player.setReportedMediaState .paused with state := .paused, joined := true }, true)
    else none
  | .play => some ({ player with targetState := .playing }, true)
  | .pause => some ({ player with targetState := .paused }, true)
  | .seek position =>
    some ({ player with targetPosition := position, seeks := player.seeks ++ [position] }, true)
  | .sinkStatus index status =>
    match player.streams[index]? with
    | some stream =>
      if stream.enabled ∧ stream.state.isPrepared then
        match status with
        | some state =>
          if state.isPrepared then
            some ({ player with streams := player.streams.set index { stream with state } }, true)
          else some (player, false)
        | none => some (player, false)
      else none
    | none => none
  | .answer index =>
    match player.pending[index]? with
    | some call => some (({ player with pending := player.pending.eraseIdx index }
        : MediaPlayer).answered call)
    | none => none

def settle (delivered : MediaPlayer × Bool) : MediaPlayer :=
  if delivered.2 then delivered.1.update else delivered.1

def step (player : MediaPlayer) (event : Event) : Option MediaPlayer :=
  (player.deliver event).map settle

def passes : PlayerState → Nat
  | .waiting | .waitingForSinksToPlay => 1
  | .paused => 2
  | .waitingForSinksToPause => 3
  | .playing => 4

theorem passes_pos (state : PlayerState) : 0 < passes state := by cases state <;> decide

theorem passes_le (state : PlayerState) : passes state ≤ 4 := by cases state <;> decide

@[simp] theorem whenPausedAndSeeking_state (player : MediaPlayer) :
    player.whenPausedAndSeeking.state = .waiting := by
  unfold whenPausedAndSeeking
  split <;> rfl

theorem passes_again {player next : MediaPlayer} (again : player.updatePass = .again next) :
    passes next.state < passes player.state := by
  unfold updatePass at again
  split at again
  next state =>
    rw [state]
    split_ifs at again
    · cases again
      simp [passes]
    · cases again
      simp [passes]
  next state => split_ifs at again
  next state =>
    rw [state]
    split_ifs at again
    · cases again
      simp [passes]
    · cases again
      simp [passes]
  next state =>
    rw [state]
    split_ifs at again <;> cases again <;> simp [passes]
  next => cases again

theorem updateFor_ends (fuel : Nat) (player : MediaPlayer) (enough : passes player.state ≤ fuel) :
    ∃ final, player.updateFor fuel = some final := by
  induction fuel generalizing player with
  | zero => exact absurd (passes_pos player.state) (by omega)
  | succ fuel ih =>
    rw [updateFor]
    split
    next next again =>
      have smaller := passes_again again
      exact ih next (by omega)
    next final _ => exact ⟨final, rfl⟩

theorem updateFor_update (player : MediaPlayer) : player.updateFor 4 = some player.update := by
  obtain ⟨final, ended⟩ := updateFor_ends 4 player (passes_le player.state)
  rw [update, ended]
  rfl

theorem update_keeps (holds result : MediaPlayer → Prop)
    (again : ∀ player next, holds player → player.updatePass = .again next → holds next)
    (done : ∀ player final, holds player → player.updatePass = .done final → result final)
    (player : MediaPlayer) (start : holds player) : result player.update := by
  have loop : ∀ fuel player final, holds player → updateFor fuel player = some final →
      result final := by
    intro fuel
    induction fuel with
    | zero =>
      intro player final _ ended
      cases ended
    | succ fuel ih =>
      intro player final start ended
      rw [updateFor] at ended
      split at ended
      next next pass => exact ih next final (again player next start pass) ended
      next last pass =>
        cases ended
        exact done player final start pass
  exact loop 4 player player.update start (updateFor_update player)

theorem update_of_done {player final : MediaPlayer} (pass : player.updatePass = .done final) :
    player.update = final := by
  have ended : player.updateFor 4 = some final := by rw [updateFor, pass]
  rw [updateFor_update player] at ended
  cases ended
  rfl

end MediaPlayer

end MojoMedia
