import MojoMedia.Audio.OutputRecords

set_option autoImplicit false

namespace MojoMedia.Audio.AudioOutput

open Histories Runs

variable {output next : AudioOutput}

structure Sound (output : AudioOutput) : Prop where
  locked : output.Locked
  phased : output.Phased
  recorded : output.Recorded

theorem Sound.step (sound : output.Sound) {event : Event} (taken : output.step event = some next) :
    next.Sound := by
  have after := sound.phased.step sound.locked taken
  exact ⟨sound.locked.step sound.phased taken, after,
    sound.recorded.step sound.phased after taken⟩

theorem sound_init (ok : Bool) : (init ok).Sound := by
  refine ⟨?_, Phased.init ok, Recorded.init ok⟩
  cases ok <;> exact ⟨⟨rfl, rfl⟩, ⟨rfl, rfl⟩⟩

def MainTask.usesLinks : MainTask → Bool
  | .adding _ | .removing _ | .unlink _ _ | .cleanup _ => true
  | _ => false

theorem Sound.apart (sound : output.Sound) (uses : output.main.usesLinks) :
    output.worker.outside := by
  cases alone : output.main.alone with
  | true => exact sound.phased.apart alone
  | false =>
    have inside : output.main.processing := by
      cases task : output.main <;>
        simp_all [MainTask.usesLinks, MainTask.alone, MainTask.processing]
    have held := sound.locked.processing
    rw [inside] at held
    exact WorkerTask.outside_of_processing (held_main.mp held).1

-- However main and the worker take turns, no check fails, main has the links and the cleanup for
-- itself, and nothing is done after the cleanup. The output is told to finish its own shutdown
-- once at most, and each link that it takes leaves it once, before the cleanup.
theorem threads_safe {ok : Bool} {events : List Event} {final : AudioOutput}
    (reached : run step (init ok) events = some final) :
    final.failed = false ∧ (final.main.usesLinks → final.worker.outside) ∧
      Always Owes final.trace ∧ final.trace.count .finishShutdown ≤ 1 ∧
      (addedIn final.trace).Nodup ∧
      (addedIn final.trace).Perm (goneIn final.trace ++ final.remaining) ∧
      (.cleanup ∈ final.trace → final.remaining = []) := by
  have sound : final.Sound := invariant_of_run step Sound
    (fun _ _ _ sound taken => sound.step taken) _ _ _ (sound_init ok) reached
  obtain ⟨passes, owes, cleaned, -, posts, links, once, -, -⟩ := sound.recorded
  refine ⟨passes, sound.apart, owes, ?_, once, links, fun clean => ?_⟩
  · have most : (if final.shuttingDown then 1 else 0) ≤ 1 := by split <;> decide
    exact Nat.le_trans (Nat.le_add_right _ _) (Nat.le_trans posts most)
  · obtain ⟨-, -, empty, detached⟩ :=
      sound.phased.unlisted (sound.phased.shutDown (cleaned clean))
    have shared : final.main.alone = false := by
      cases task : final.main <;> simp_all [MainTask.detached, MainTask.alone]
    rw [remaining_of_shared shared, empty]

def shutdownBegun : List Event :=
  [.call .addTrackLink, .main, .main, .processThunk, .worker, .worker, .process .shutdownSelf,
    .worker, .worker, .worker, .call .finishShutdownSelf]

def shutdownDone : List Event :=
  [.main, .main, .process .finish, .worker, .main, .main, .main, .main, .main]

theorem threads_safe_shutdown :
    ∃ final, run step (init true) (shutdownBegun ++ shutdownDone) = some final ∧
      final.trace = [.added 0, .process, .finishShutdown, .removeOutput 0, .cleanup, .destroyed] ∧
      final.failed = false ∧ Always Owes final.trace := by
  obtain ⟨final, reached, trace⟩ : ∃ final,
      run step (init true) (shutdownBegun ++ shutdownDone) = some final ∧
        final.trace = [.added 0, .process, .finishShutdown, .removeOutput 0, .cleanup,
          .destroyed] := ⟨_, rfl, rfl⟩
  have safe := threads_safe reached
  exact ⟨final, reached, trace, safe.1, safe.2.2.1⟩

def Event.Own : Event → Prop
  | .main | .worker | .process .finish => True
  | _ => False

def MainTask.weight (links : Nat) : MainTask → Nat
  | .idle => 0
  | .adding _ | .removing _ | .joinThreads => 1
  | .addTrackLink _ | .removeTrackLink _ | .cleanup _ => 2
  | .unlink _ rest => 3 + rest.length
  | .synchronized _ => 4 + links
  | .synchronize _ => 5 + links
  | .beginning _ => 6 + links
  | .beginShutdown _ => 7 + links

def WorkerTask.weight : WorkerTask → Nat
  | .idle => 0
  | .left => 1
  | .process => 2
  | .entered | .scheduling | .finishShutdown => 3
  | .processThunk | .scheduleCallback | .shuttingDownSelf => 4
  | .shutdownSelf => 5

def weight (output : AudioOutput) : Nat :=
  output.main.weight output.links.length + output.worker.weight

theorem weight_step {event : Event} (own : event.Own) (taken : output.step event = some next) :
    next.weight < output.weight := by
  cases event with
  | call request => cases own
  | processThunk => cases own
  | process action =>
    cases action with
    | finish =>
      simp only [step] at taken
      split at taken <;> cases taken
      next inside => simp [weight, processing, inside, WorkerTask.weight]
    | _ => cases own
  | main =>
    simp only [step] at taken
    cases task : output.main with
    | unlink caller rest =>
      cases rest <;> simp only [stepMain, task] at taken <;> cases taken <;>
        simp [weight, note, task, MainTask.weight]
    | cleanup caller =>
      simp only [stepMain, task] at taken
      cases taken
      cases caller <;>
        simp [weight, note, task, MainTask.weight, finish, dropReference, Caller.next]
    | _ =>
      simp only [stepMain, task] at taken
      try split at taken
      all_goals
        cases taken
      all_goals
        simp [weight, note, check, task, MainTask.weight, dropReference, beginShutdown, eraseLink]
  | worker =>
    simp only [step] at taken
    cases task : output.worker with
    | shuttingDownSelf =>
      simp only [stepWorker, task] at taken
      cases taken
      cases begun : output.shuttingDown <;>
        simp [weight, beginShutdown, begun, task, WorkerTask.weight]
    | _ =>
      simp only [stepWorker, task] at taken
      try split at taken
      all_goals
        cases taken
      all_goals
        simp [weight, note, check, task, WorkerTask.weight, dropReference]

theorem stepMain_none (stuck : output.stepMain = none) :
    output.main.processing = false ∧ output.main.shutting = false ∧
      (output.main = .idle ∨ output.worker ≠ .idle ∨ output.processingLock ≠ none ∨
        output.shutdownLock ≠ none) := by
  cases task : output.main with
  | unlink caller rest => cases rest <;> simp [stepMain, task] at stuck
  | _ => simp_all [stepMain, MainTask.processing, MainTask.shutting]

theorem stepWorker_none (stuck : output.stepWorker = none) :
    output.worker = .idle ∨ output.worker = .process ∨
      (output.worker.processing = false ∧ output.processingLock ≠ none) ∨
      (output.worker.shutting = false ∧ output.shutdownLock ≠ none) := by
  cases task : output.worker with
  | entered =>
    simp only [stepWorker, task] at stuck
    split at stuck <;> cases stuck
  | _ => simp_all [stepWorker, WorkerTask.processing, WorkerTask.shutting]

theorem Held.main_of_waits {lock : Option Thread} {main worker : Bool}
    (held : Held lock main worker) (taken : lock ≠ none) (waits : worker = false) : main := by
  rw [held.holder, waits] at taken
  simpa using taken

theorem Sound.progress (sound : output.Sound)
    (busy : output.main ≠ .idle ∨ output.worker ≠ .idle) :
    ∃ event : Event, event.Own ∧ output.step event ≠ none := by
  have processing := sound.locked.processing
  have shutdown := sound.locked.shutdown
  by_contra stuck
  simp only [not_exists, not_and, ne_eq, not_not] at stuck
  obtain ⟨outside, apart, waits⟩ := stepMain_none (stuck .main trivial)
  rcases stepWorker_none (stuck .worker trivial) with idle | inside | ⟨left, taken⟩ | ⟨left, taken⟩
  · -- Main cannot wait for a worker that is idle.
    rw [idle, outside] at processing
    rw [idle, apart] at shutdown
    have running : output.main ≠ .idle := by simpa [idle] using busy
    simp [running, idle, processing.holder, shutdown.holder, WorkerTask.processing,
      WorkerTask.shutting] at waits
  · have finishes := stuck (.process .finish) trivial
    simp only [AudioOutput.step, inside, if_true] at finishes
    cases finishes
  · have holds := processing.main_of_waits taken left
    simp [outside] at holds
  · have holds := shutdown.main_of_waits taken left
    simp [apart] at holds

def MainTask.closing : MainTask → Bool
  | .beginShutdown _ | .beginning _ | .synchronize _ | .synchronized _ | .unlink _ _
  | .cleanup _ => true
  | _ => false

def Closing (output : AudioOutput) : Prop := output.main.closing ∨ output.shutDown

theorem Closing.step (closing : output.Closing) {event : Event} (own : event.Own)
    (taken : output.step event = some next) : next.Closing := by
  cases event with
  | call request => cases own
  | processThunk => cases own
  | process action =>
    cases action with
    | finish =>
      simp only [AudioOutput.step] at taken
      split at taken <;> cases taken
      exact closing
    | _ => cases own
  | main =>
    simp only [AudioOutput.step] at taken
    cases task : output.main with
    | unlink caller rest =>
      cases rest <;> simp only [stepMain, task] at taken <;> cases taken <;> exact .inl rfl
    | cleanup caller =>
      simp only [stepMain, task] at taken
      cases taken
      exact .inr rfl
    | _ =>
      simp only [stepMain, task] at taken
      try split at taken
      all_goals
        cases taken
      all_goals
        simp_all [Closing, MainTask.closing, note, check, dropReference, beginShutdown, eraseLink]
  | worker =>
    simp only [AudioOutput.step] at taken
    cases task : output.worker <;> simp only [stepWorker, task] at taken
    all_goals
      try split at taken
    all_goals
      cases taken
    all_goals
      exact closing

-- When Process does nothing more, the calls of both threads come to an end, and a shutdown that
-- was called has then been done.
theorem calls_end {ok : Bool} {events rest : List Event} {output final : AudioOutput}
    (reached : run step (init ok) events = some output) (own : ∀ event ∈ rest, event.Own)
    (continued : run step output rest = some final) :
    rest.length ≤ output.weight ∧
      (AtRest step Event.Own final →
        final.main = .idle ∧ final.worker = .idle ∧
          (output.main.closing → final.shutDown ∧ final.listed = false ∧ final.links = [])) := by
  have sound : output.Sound := invariant_of_run step Sound
    (fun _ _ _ sound taken => sound.step taken) _ _ _ (sound_init ok) reached
  refine ⟨?_, fun rests => ?_⟩
  · exact length_le_of_decreases step Event.Own weight (fun _ _ _ => weight_step) _ _ _ own
      continued
  · have later : final.Sound := invariant_of_run step Sound
      (fun _ _ _ sound taken => sound.step taken) _ _ _ sound continued
    have idle : final.main = .idle ∧ final.worker = .idle := by
      by_contra busy
      obtain ⟨event, mine, enabled⟩ := later.progress (by tauto)
      exact enabled (rests event mine)
    refine ⟨idle.1, idle.2, fun closing => ?_⟩
    have closed : final.Closing := by
      refine invariant_of_step step (fun _ event => event.Own) Closing
        (fun _ _ _ closing own taken => closing.step own taken) _ _ _ (.inl closing) ?_ continued
      exact meets_of_forall step _ _ _ fun _ event member => own event member
    have shutDown : final.shutDown := by
      rcases closed with running | done
      · simp [idle.1, MainTask.closing] at running
      · exact done
    have unlisted := later.phased.shutDown shutDown
    exact ⟨shutDown, unlisted, (later.phased.unlisted unlisted).2.2.1⟩

theorem calls_end_shutdown :
    ∃ output final, run step (init true) shutdownBegun = some output ∧
      run step output shutdownDone = some final ∧ shutdownDone.length ≤ output.weight ∧
      final.shutDown ∧ final.links = [] := by
  obtain ⟨output, final, reached, continued, closing, main, worker⟩ : ∃ output final,
      run step (init true) shutdownBegun = some output ∧
        run step output shutdownDone = some final ∧ output.main.closing ∧
        final.main = .idle ∧ final.worker = .idle :=
    ⟨_, _, rfl, rfl, rfl, rfl, rfl⟩
  have own : ∀ event ∈ shutdownDone, event.Own := by simp [shutdownDone, Event.Own]
  have rests : AtRest step Event.Own final := by
    intro event own
    cases event with
    | main => simp [step, stepMain, main]
    | worker => simp [step, stepWorker, worker]
    | process action => simp [step, worker]
    | _ => cases own
  have ends := calls_end reached own continued
  exact ⟨output, final, reached, continued, ends.1, (ends.2 rests).2.2 closing |>.1,
    ((ends.2 rests).2.2 closing).2.2⟩

end MojoMedia.Audio.AudioOutput
