import MojoMedia.FactoryService.MediaPlayer

set_option autoImplicit false

namespace MojoMedia.MediaPlayer

open Runs

structure Kept (player : MediaPlayer) : Prop where
  preparing : player.joined = false → player.state = .waiting ∧ player.pending = []
  idle : player.state ≠ .waiting → player.pending = []
  single : player.pending.length ≤ 1
  flushing : .flush ∈ player.pending → player.targetPosition ≠ kNotSeeking
  asked : ∀ position, .seek position ∈ player.pending →
    player.demuxSeeks.getLast? = some position
  remembered : ∀ position, player.seeks.getLast? = some position →
    (player.targetPosition = position ∧ position ≠ kNotSeeking) ∨
      (player.targetPosition = kNotSeeking ∧ player.demuxSeeks.getLast? = some position)

theorem kept_start : Kept {} where
  preparing _ := ⟨rfl, rfl⟩
  idle _ := rfl
  single := by decide
  flushing member := by cases member
  asked _ member := by cases member
  remembered _ last := by cases last

theorem Kept.congr {player next : MediaPlayer} (kept : Kept player)
    (joined : next.joined = player.joined ∨ next.joined = true)
    (pending : next.pending = player.pending)
    (position : next.targetPosition = player.targetPosition)
    (seeks : next.seeks = player.seeks) (demuxSeeks : next.demuxSeeks = player.demuxSeeks)
    (preparing : next.joined = false → next.state = player.state)
    (idle : next.state ≠ .waiting → player.pending = []) : Kept next where
  preparing early := by
    rcases joined with same | done
    · rw [preparing early, pending]
      exact kept.preparing (same ▸ early)
    · cases done.symm.trans early
  idle active := pending.trans (idle active)
  single := pending ▸ kept.single
  flushing member := by
    rw [position]
    exact kept.flushing (pending ▸ member)
  asked sought member := by
    rw [demuxSeeks]
    exact kept.asked sought (pending ▸ member)
  remembered sought last := by
    rw [position, demuxSeeks]
    exact kept.remembered sought (seeks ▸ last)

theorem Kept.seek {player : MediaPlayer} (kept : Kept player) (joined : player.joined = true)
    (free : player.pending = []) (seeking : player.targetPosition ≠ kNotSeeking) :
    Kept player.whenFlushedAndSeeking where
  preparing early := by cases joined.symm.trans early
  idle active := absurd rfl active
  single := by simp [whenFlushedAndSeeking, free]
  flushing member := seeking
  asked position member := by
    simp only [whenFlushedAndSeeking, free, List.nil_append, List.mem_singleton,
      DemuxCall.seek.injEq] at member
    simp [whenFlushedAndSeeking, member]
  remembered position last := by
    rcases kept.remembered position last with same | ⟨forgotten, -⟩
    · exact .inl same
    · exact absurd forgotten seeking

theorem Kept.request {player : MediaPlayer} (kept : Kept player) (joined : player.joined = true)
    (next : MediaPlayer) (call : DemuxCall)
    (changed : next.joined = player.joined ∧ next.state = .waiting ∧ next.pending = [call] ∧
      next.targetPosition = player.targetPosition ∧ next.seeks = player.seeks ∧
      next.demuxSeeks = player.demuxSeeks)
    (flush : call = .flush → player.targetPosition ≠ kNotSeeking)
    (other : ∀ position, call ≠ .seek position) : Kept next where
  preparing early := by cases (changed.1.trans joined).symm.trans early
  idle active := absurd changed.2.1 active
  single := by simp [changed.2.2.1]
  flushing member := by
    rw [changed.2.2.2.1]
    rw [changed.2.2.1, List.mem_singleton] at member
    exact flush member.symm
  asked position member := by
    rw [changed.2.2.1, List.mem_singleton] at member
    exact absurd member.symm (other position)
  remembered position last := by
    rw [changed.2.2.2.1, changed.2.2.2.2.2]
    exact kept.remembered position (changed.2.2.2.2.1 ▸ last)

theorem Kept.ready {player : MediaPlayer} (kept : Kept player) (active : player.state ≠ .waiting) :
    player.joined = true := by
  cases joined : player.joined with
  | false => exact absurd (kept.preparing joined).1 active
  | true => rfl

theorem Kept.active {player next : MediaPlayer} (kept : Kept player)
    (active : player.state ≠ .waiting) (joined : next.joined = player.joined)
    (pending : next.pending = player.pending)
    (position : next.targetPosition = player.targetPosition)
    (seeks : next.seeks = player.seeks) (demuxSeeks : next.demuxSeeks = player.demuxSeeks) :
    Kept next := by
  have ready := kept.ready active
  refine kept.congr (.inl joined) pending position seeks demuxSeeks ?_ ?_
  · intro early
    cases (joined.trans ready).symm.trans early
  · intro _
    exact kept.idle active

theorem kept_again (player next : MediaPlayer) (kept : Kept player)
    (pass : player.updatePass = .again next) : Kept next := by
  unfold updatePass at pass
  split at pass
  next state =>
    have active : player.state ≠ .waiting := by simp [state]
    have ready := kept.ready active
    have free := kept.idle active
    split_ifs at pass with seeking
    · cases pass
      unfold whenPausedAndSeeking
      split
      next =>
        refine kept.request ready _ .flush ⟨rfl, rfl, ?_, rfl, rfl, rfl⟩ (fun _ => seeking) ?_
        · simp [free]
        · intro position same
          cases same
      next => exact kept.seek ready free seeking
    · cases pass
      exact kept.active active rfl rfl rfl rfl rfl
  next => split_ifs at pass
  next state =>
    have active : player.state ≠ .waiting := by simp [state]
    split_ifs at pass <;> cases pass <;> exact kept.active active rfl rfl rfl rfl rfl
  next state =>
    have active : player.state ≠ .waiting := by simp [state]
    split_ifs at pass <;> cases pass <;> exact kept.active active rfl rfl rfl rfl rfl
  next => cases pass

theorem kept_done (player final : MediaPlayer) (kept : Kept player)
    (pass : player.updatePass = .done final) : Kept final := by
  unfold updatePass at pass
  split at pass
  next state =>
    have active : player.state ≠ .waiting := by simp [state]
    split_ifs at pass
    · cases pass
      refine kept.request (kept.ready active) _ .prime ⟨rfl, rfl, ?_, rfl, rfl, rfl⟩ ?_ ?_
      · simp [kept.idle active]
      · intro same
        cases same
      · intro position same
        cases same
    · cases pass
      exact kept
  next state =>
    have active : player.state ≠ .waiting := by simp [state]
    split_ifs at pass
    · cases pass
      split_ifs <;> exact kept.active active rfl rfl rfl rfl rfl
    · cases pass
      exact kept
  next =>
    split_ifs at pass
    cases pass
    exact kept
  next =>
    split_ifs at pass
    cases pass
    exact kept
  next =>
    cases pass
    exact kept

theorem Kept.update {player : MediaPlayer} (kept : Kept player) : Kept player.update :=
  update_keeps Kept Kept kept_again kept_done player kept

-- A client does not seek the position that stands for none, and the position that the demux was
-- asked for is still the target when the demux answers.
def Answers (player : MediaPlayer) : Event → Prop
  | .seek position => position ≠ kNotSeeking
  | .answer index => ∀ position, player.pending[index]? = some (.seek position) →
      player.targetPosition = position
  | _ => True

instance (player : MediaPlayer) (event : Event) : Decidable (Answers player event) :=
  match event with
  | .seek position => inferInstanceAs (Decidable (position ≠ kNotSeeking))
  | .answer index =>
    match found : player.pending[index]? with
    | some (.seek position) =>
      decidable_of_iff (player.targetPosition = position) (by simp [Answers, found])
    | some .flush | some .prime | none => isTrue (by simp [Answers, found])
  | .describe _ | .connected _ | .joined | .play | .pause | .sinkStatus _ _ => isTrue trivial

theorem Kept.only {player : MediaPlayer} {index : Nat} {call : DemuxCall} (kept : Kept player)
    (found : player.pending[index]? = some call) :
    player.joined = true ∧ player.pending = [call] ∧ player.pending.eraseIdx index = [] := by
  obtain ⟨bound, value⟩ := List.getElem?_eq_some_iff.mp found
  have first : index = 0 := by
    have single := kept.single
    omega
  subst first
  obtain ⟨only, pending⟩ := List.length_eq_one_iff.mp (Nat.le_antisymm kept.single bound)
  obtain rfl : only = call := by simpa [pending] using found
  refine ⟨?_, pending, by simp [pending]⟩
  cases joined : player.joined with
  | false =>
    rw [(kept.preparing joined).2] at pending
    cases pending
  | true => rfl

theorem Kept.freed {player : MediaPlayer} (kept : Kept player) (joined : player.joined = true) :
    Kept { player with pending := [] } where
  preparing early := by cases joined.symm.trans early
  idle _ := rfl
  single := Nat.zero_le 1
  flushing member := by cases member
  asked _ member := by cases member
  remembered := kept.remembered

theorem answered_kept {player : MediaPlayer} {index : Nat} {call : DemuxCall} (kept : Kept player)
    (found : player.pending[index]? = some call)
    (answers : ∀ position, call = .seek position → player.targetPosition = position) :
    Kept (({ player with pending := player.pending.eraseIdx index } : MediaPlayer).answered
      call).1 := by
  obtain ⟨joined, pending, freed⟩ := kept.only found
  rw [freed]
  have free := kept.freed joined
  cases call with
  | flush =>
    have seeking := kept.flushing (by simp [pending])
    have flushed : Kept { player with pending := [], flushed := true } :=
      free.congr (.inl rfl) rfl rfl rfl rfl (fun _ => rfl) (fun _ => rfl)
    exact flushed.seek joined rfl seeking
  | seek position =>
    have target := answers position rfl
    have asked := kept.asked position (by simp [pending])
    refine { free with preparing := ?_, idle := fun _ => rfl, flushing := ?_, remembered := ?_ }
    · intro early
      cases joined.symm.trans early
    · intro member
      cases member
    · intro sought last
      rcases kept.remembered sought last with ⟨same, -⟩ | ⟨-, done⟩
      · right
        rw [← same, target]
        exact ⟨rfl, asked⟩
      · exact .inr ⟨rfl, done⟩
  | prime =>
    refine free.congr (.inl rfl) rfl rfl rfl rfl ?_ (fun _ => rfl)
    intro early
    cases joined.symm.trans early

theorem Kept.unmoved {player next : MediaPlayer} (kept : Kept player)
    (same : next.joined = player.joined ∧ next.state = player.state ∧
      next.pending = player.pending ∧ next.targetPosition = player.targetPosition ∧
      next.seeks = player.seeks ∧ next.demuxSeeks = player.demuxSeeks) : Kept next := by
  obtain ⟨joined, state, pending, position, seeks, demuxSeeks⟩ := same
  refine kept.congr (.inl joined) pending position seeks demuxSeeks (fun _ => state) ?_
  intro active
  exact kept.idle (state ▸ active)

theorem deliver_kept {player next : MediaPlayer} {event : Event} {updates : Bool}
    (kept : Kept player) (answers : Answers player event)
    (delivered : player.deliver event = some (next, updates)) : Kept next := by
  cases event with
  | describe enabled =>
    simp only [deliver] at delivered
    split_ifs at delivered
    cases delivered
    exact kept.unmoved ⟨rfl, rfl, rfl, rfl, rfl, rfl⟩
  | connected index =>
    simp only [deliver] at delivered
    split at delivered
    next =>
      split_ifs at delivered
      cases delivered
      exact kept.unmoved ⟨rfl, rfl, rfl, rfl, rfl, rfl⟩
    next => cases delivered
  | joined =>
    simp only [deliver] at delivered
    split_ifs at delivered with guard
    cases delivered
    have early := kept.preparing (by simpa using guard.2.1)
    refine kept.congr (.inr rfl) rfl rfl rfl rfl ?_ (fun _ => early.2)
    intro impossible
    cases impossible
  | play =>
    cases delivered
    exact kept.unmoved ⟨rfl, rfl, rfl, rfl, rfl, rfl⟩
  | pause =>
    cases delivered
    exact kept.unmoved ⟨rfl, rfl, rfl, rfl, rfl, rfl⟩
  | seek position =>
    cases delivered
    refine { kept with flushing := fun _ => answers, remembered := ?_ }
    intro sought last
    simp only [List.getLast?_append, List.getLast?_singleton, Option.some_or,
      Option.some.injEq] at last
    exact .inl ⟨last, last ▸ answers⟩
  | sinkStatus index status =>
    simp only [deliver] at delivered
    split at delivered
    next =>
      split_ifs at delivered
      cases status with
      | none =>
        cases delivered
        exact kept
      | some state =>
        simp only at delivered
        split_ifs at delivered <;> cases delivered
        · exact kept.unmoved ⟨rfl, rfl, rfl, rfl, rfl, rfl⟩
        · exact kept
    next => cases delivered
  | answer index =>
    simp only [deliver] at delivered
    split at delivered
    next call found =>
      have after := answered_kept kept found fun position same => answers position (same ▸ found)
      rw [Option.some.inj delivered] at after
      exact after
    next => cases delivered

theorem step_kept (player : MediaPlayer) (event : Event) (next : MediaPlayer) (kept : Kept player)
    (answers : Answers player event) (taken : player.step event = some next) : Kept next := by
  obtain ⟨⟨changed, updates⟩, delivered, rfl⟩ := Option.map_eq_some_iff.mp taken
  have kept := deliver_kept kept answers delivered
  cases updates with
  | true => exact kept.update
  | false => exact kept

-- When the player is at rest and seeks no more, the demux was last asked for the position that
-- the client asked for last.
theorem last_seek_kept (events : List Event) (final : MediaPlayer)
    (answers : Meets step Answers {} events) (reached : run step {} events = some final) :
    final.state ≠ .waiting ∧ final.targetPosition = kNotSeeking ∧ final.seeks ≠ [] →
      final.demuxSeeks.getLast? = final.seeks.getLast? := by
  rintro ⟨-, found, sought⟩
  have kept := invariant_of_step step Answers Kept step_kept {} final events kept_start answers
    reached
  have last := List.getLast?_eq_some_getLast sought
  rcases kept.remembered _ last with ⟨same, seeking⟩ | ⟨-, done⟩
  · exact absurd (same.symm.trans found) seeking
  · rw [done, last]

def seekTwice : List Event :=
  [.describe [true], .connected 0, .joined, .play, .answer 0, .sinkStatus 0 (some .playing),
    .seek 1, .sinkStatus 0 (some .paused), .seek 2, .answer 0, .answer 0, .answer 0]

theorem last_seek_kept_twice : ∃ final, run step {} seekTwice = some final ∧
    final.seeks = [1, 2] ∧ final.demuxSeeks.getLast? = final.seeks.getLast? :=
  ⟨_, rfl, by decide, last_seek_kept seekTwice _ (by decide) rfl (by decide)⟩

theorem second_seek_lost :
    ∃ final, run step {} [.describe [], .joined, .seek 1, .seek 2, .answer 0] = some final ∧
      final.state ≠ .waiting ∧ final.targetPosition = kNotSeeking ∧ final.seeks ≠ [] ∧
      final.demuxSeeks.getLast? ≠ final.seeks.getLast? :=
  ⟨_, rfl, by decide⟩

end MojoMedia.MediaPlayer
