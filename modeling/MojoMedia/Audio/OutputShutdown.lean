import MojoMedia.Audio.AudioOutput
import Mathlib.Data.List.Basic

set_option autoImplicit false

namespace MojoMedia.Audio.AudioOutput

variable {output next : AudioOutput}

def MainTask.processing : MainTask → Bool
  | .adding _ | .removing _ | .synchronized _ => true
  | _ => false

def MainTask.shutting : MainTask → Bool
  | .beginning _ => true
  | _ => false

def WorkerTask.processing : WorkerTask → Bool
  | .idle | .processThunk | .left => false
  | _ => true

def WorkerTask.shutting : WorkerTask → Bool
  | .scheduling | .shuttingDownSelf => true
  | _ => false

structure Held (lock : Option Thread) (main worker : Bool) : Prop where
  apart : (main && worker) = false
  holder : lock = if main then some .main else if worker then some .worker else none

theorem held_none {main worker : Bool} :
    Held none main worker ↔ main = false ∧ worker = false := by
  constructor
  · rintro ⟨-, holder⟩
    cases main <;> cases worker <;> simp_all
  · rintro ⟨rfl, rfl⟩
    exact ⟨rfl, rfl⟩

@[simp] theorem held_main {lock : Option Thread} {worker : Bool} :
    Held lock true worker ↔ worker = false ∧ lock = some .main := by
  constructor
  · rintro ⟨apart, holder⟩
    exact ⟨apart, holder⟩
  · rintro ⟨rfl, rfl⟩
    exact ⟨rfl, rfl⟩

@[simp] theorem held_worker {lock : Option Thread} {main : Bool} :
    Held lock main true ↔ main = false ∧ lock = some .worker := by
  constructor
  · rintro ⟨apart, holder⟩
    cases main <;> simp_all
  · rintro ⟨rfl, rfl⟩
    exact ⟨rfl, rfl⟩

structure Locked (output : AudioOutput) : Prop where
  processing : Held output.processingLock output.main.processing output.worker.processing
  shutdown : Held output.shutdownLock output.main.shutting output.worker.shutting

namespace Locked

theorem stepMain (locked : output.Locked) (taken : output.stepMain = some next) :
    next.Locked := by
  obtain ⟨processing, shutdown⟩ := locked
  cases task : output.main with
  | cleanup caller =>
    simp only [AudioOutput.stepMain, task] at taken
    cases taken
    cases caller <;> constructor <;>
      simp_all [MainTask.processing, MainTask.shutting, Caller.next, dropReference, note, finish]
  | unlink caller rest =>
    rw [task] at processing shutdown
    cases rest <;> simp only [AudioOutput.stepMain, task] at taken <;> cases taken <;>
      exact ⟨processing, shutdown⟩
  | _ =>
    simp only [AudioOutput.stepMain, task] at taken
    try split at taken
    all_goals
      cases taken
    all_goals
      constructor <;> simp_all [held_none, MainTask.processing, MainTask.shutting, dropReference,
        note, check, beginShutdown, eraseLink]

theorem stepWorker (locked : output.Locked) (taken : output.stepWorker = some next) :
    next.Locked := by
  obtain ⟨processing, shutdown⟩ := locked
  cases task : output.worker with
  | shuttingDownSelf =>
    simp only [AudioOutput.stepWorker, task] at taken
    cases taken
    cases begun : output.shuttingDown <;> constructor <;>
      simp_all [held_none, WorkerTask.processing, WorkerTask.shutting, beginShutdown]
  | _ =>
    simp only [AudioOutput.stepWorker, task] at taken
    try split at taken
    all_goals
      cases taken
    all_goals
      constructor <;> simp_all [held_none, WorkerTask.processing, WorkerTask.shutting,
        dropReference, note, check]

end Locked

def MainTask.begun : MainTask → Bool
  | .synchronize _ | .synchronized _ | .unlink _ _ | .cleanup _ => true
  | _ => false

def MainTask.alone : MainTask → Bool
  | .unlink _ _ | .cleanup _ => true
  | _ => false

def MainTask.detached : MainTask → Bool
  | .idle | .removeTrackLink _ | .removing _ | .joinThreads => true
  | _ => false

def WorkerTask.outside : WorkerTask → Bool
  | .idle | .processThunk | .entered | .left => true
  | _ => false

structure Phased (output : AudioOutput) : Prop where
  runner : output.taskRunner = !output.shuttingDown
  begun : output.main.begun → output.shuttingDown
  apart : output.main.alone → output.worker.outside
  posting : output.worker = .finishShutdown → output.shuttingDown
  cleaned : ∀ caller, output.main = .cleanup caller → output.links = []
  shutDown : output.shutDown → output.listed = false
  unlisted : output.listed = false →
    output.shuttingDown ∧ output.worker.outside ∧ output.links = [] ∧ output.main.detached
  joining : output.main = .joinThreads → output.listed = false
  joined : output.threadPool = false →
    output.listed = false ∧ output.worker = .idle ∧ output.callbacks = 0 ∧ output.main = .idle

theorem MainTask.begun_of_alone {task : MainTask} (alone : task.alone) : task.begun := by
  cases task <;> first | rfl | cases alone

theorem WorkerTask.outside_of_processing {task : WorkerTask} (left : task.processing = false) :
    task.outside := by
  cases task <;> first | rfl | cases left

namespace Phased

protected theorem init (ok : Bool) : (init ok).Phased := by
  cases ok <;> constructor <;>
    simp [AudioOutput.init, dropReference, note, beginShutdown, MainTask.begun, MainTask.alone,
      MainTask.detached, WorkerTask.outside]

theorem stepMain (phased : output.Phased) (locked : output.Locked)
    (taken : output.stepMain = some next) : next.Phased := by
  obtain ⟨runner, begun, apart, posting, cleaned, shutDown, unlisted, joining, joined⟩ := phased
  cases task : output.main with
  | cleanup caller =>
    simp only [AudioOutput.stepMain, task] at taken
    cases taken
    cases caller <;> constructor <;>
      simp_all [MainTask.begun, MainTask.alone, MainTask.detached, Caller.next, dropReference,
        note, finish]
  | unlink caller rest =>
    cases rest <;> simp only [AudioOutput.stepMain, task] at taken <;> cases taken <;>
      constructor <;> simp_all [MainTask.begun, MainTask.alone, MainTask.detached, note]
  | synchronized caller =>
    -- Main has the lock, so the worker has left or will find the flag.
    have left := locked.processing
    rw [task] at left
    have outside := WorkerTask.outside_of_processing (held_main.mp left).1
    simp only [AudioOutput.stepMain, task] at taken
    cases taken
    constructor <;> simp_all [MainTask.begun, MainTask.alone, MainTask.detached]
  | _ =>
    simp only [AudioOutput.stepMain, task] at taken
    try split at taken
    all_goals
      cases taken
    all_goals
      constructor <;> simp_all [MainTask.begun, MainTask.alone, MainTask.detached, dropReference,
        note, check, beginShutdown, eraseLink]

theorem stepWorker (phased : output.Phased) (taken : output.stepWorker = some next) :
    next.Phased := by
  obtain ⟨runner, begun, apart, posting, cleaned, shutDown, unlisted, joining, joined⟩ := phased
  cases task : output.worker with
  | shuttingDownSelf =>
    simp only [AudioOutput.stepWorker, task] at taken
    cases taken
    cases flag : output.shuttingDown <;> constructor <;>
      simp_all [WorkerTask.outside, beginShutdown]
  | entered =>
    have begun_of_alone := @MainTask.begun_of_alone output.main
    simp only [AudioOutput.stepWorker, task] at taken
    split at taken <;> cases taken <;> constructor <;> simp_all [WorkerTask.outside, note]
  | _ =>
    simp only [AudioOutput.stepWorker, task] at taken
    try split at taken
    all_goals
      cases taken
    all_goals
      constructor <;> simp_all [WorkerTask.outside, dropReference, note, check]

theorem pool_of_referenced (phased : output.Phased) (referenced : output.referenced) :
    output.threadPool := by
  by_contra gone
  obtain ⟨listed, worker, -, main⟩ := phased.joined (by simpa using gone)
  simp [AudioOutput.referenced, listed, worker, main] at referenced

theorem callShutdown (phased : output.Phased) (listed : output.listed) (caller : Caller) :
    output.callShutdown caller = { output with main := .beginShutdown caller } := by
  have going : output.shutDown = false := by
    by_contra gone
    have unlisted := phased.shutDown (by simpa using gone)
    simp [listed] at unlisted
  simp [AudioOutput.callShutdown, going]

theorem finishShutdownSelf (phased : output.Phased) :
    output.finishShutdownSelf = output ∨ (output.listed ∧
      output.finishShutdownSelf = { output with main := .beginShutdown .shutdownOutput }) := by
  unfold AudioOutput.finishShutdownSelf AudioOutput.shutdownOutput
  by_cases locks : output.weakSelf && output.referenced
  · have referenced : output.referenced := by
      simp only [Bool.and_eq_true] at locks
      exact locks.2
    have checks : (output.failed || !output.threadPool) = output.failed := by
      simp [phased.pool_of_referenced referenced]
    have same : output.check output.threadPool = output :=
      congrArg (fun failed => { output with failed }) checks
    simp only [locks, if_true, same]
    by_cases listed : output.listed
    · right
      simp [listed, phased.callShutdown listed]
    · left
      simp [listed]
  · left
    simp [locks]

theorem withMessages (phased : output.Phased) (messages : Nat) :
    Phased { output with messages } := by
  obtain ⟨runner, begun, apart, posting, cleaned, shutDown, unlisted, joining, joined⟩ := phased
  exact ⟨runner, begun, apart, posting, cleaned, shutDown, unlisted, joining, joined⟩

theorem call_cases (phased : output.Phased) {request : Call}
    (taken : output.call request = some next) :
    (output.listed ∧ next =
        { output with main := .addTrackLink output.nextLink, nextLink := output.nextLink + 1 }) ∨
      (∃ link, output.referenced ∧ next = { output with main := .removeTrackLink link }) ∨
      (∃ messages, next = { output with messages }) ∨
      (∃ messages caller, output.listed ∧
        next = { output with messages, main := .beginShutdown caller }) ∨
      (output.listed = false ∧ output.threadPool ∧
        next = { output with main := .joinThreads }) := by
  cases request with
  | addTrackLink =>
    simp only [AudioOutput.call] at taken
    split at taken <;> cases taken
    next listed => exact .inl ⟨listed, rfl⟩
  | removeTrackLink link =>
    simp only [AudioOutput.call] at taken
    split at taken <;> cases taken
    next referenced => exact .inr (.inl ⟨link, referenced, rfl⟩)
  | finishShutdownSelf =>
    simp only [AudioOutput.call] at taken
    split at taken <;> cases taken
    have finishes := (phased.withMessages (output.messages - 1)).finishShutdownSelf
    rcases finishes with same | ⟨listed, made⟩
    · exact .inr (.inr (.inl ⟨_, same⟩))
    · exact .inr (.inr (.inr (.inl ⟨_, _, listed, made⟩)))
  | shutdown =>
    simp only [AudioOutput.call] at taken
    split at taken
    next => cases taken
    next pool =>
      split at taken <;> cases taken
      next listed =>
        rw [phased.callShutdown listed]
        exact .inr (.inr (.inr (.inl ⟨output.messages, .shutdown, listed, rfl⟩)))
      next unlisted =>
        exact .inr (.inr (.inr (.inr ⟨by simpa using unlisted, by simpa using pool, rfl⟩)))

theorem call (phased : output.Phased) (idle : output.main = .idle) {request : Call}
    (taken : output.call request = some next) : next.Phased := by
  have cases := phased.call_cases taken
  obtain ⟨runner, begun, apart, posting, cleaned, shutDown, unlisted, joining, joined⟩ := phased
  rcases cases with ⟨listed, rfl⟩ | ⟨link, referenced, rfl⟩ | ⟨messages, rfl⟩ |
    ⟨messages, caller, listed, rfl⟩ | ⟨detached, pool, rfl⟩
  case inr.inl =>
    have pool : output.threadPool := by
      by_contra gone
      obtain ⟨detached, away, -, -⟩ := joined (by simpa using gone)
      simp [AudioOutput.referenced, detached, away, idle] at referenced
    constructor <;> simp_all [MainTask.begun, MainTask.alone, MainTask.detached]
  all_goals
    constructor <;> simp_all [MainTask.begun, MainTask.alone, MainTask.detached]

theorem processThunk (phased : output.Phased) (idle : output.worker = .idle)
    (posted : output.callbacks ≠ 0) :
    Phased { output with callbacks := output.callbacks - 1 }.processThunk := by
  obtain ⟨runner, begun, apart, posting, cleaned, shutDown, unlisted, joining, joined⟩ := phased
  have pool : output.threadPool := by
    by_contra gone
    exact posted (joined (by simpa using gone)).2.2.1
  unfold AudioOutput.processThunk
  split <;> constructor <;> simp_all [WorkerTask.outside]

theorem processing (phased : output.Phased) (inside : output.worker = .process)
    (action : Action) : (output.processing action).Phased := by
  obtain ⟨runner, begun, apart, posting, cleaned, shutDown, unlisted, joining, joined⟩ := phased
  cases action <;> constructor <;>
    simp_all [AudioOutput.processing, WorkerTask.outside, eraseLink]

theorem step (phased : output.Phased) (locked : output.Locked) {event : Event}
    (taken : output.step event = some next) : next.Phased := by
  cases event with
  | call request =>
    simp only [AudioOutput.step] at taken
    split at taken
    next idle => exact phased.call idle taken
    next => cases taken
  | main => exact phased.stepMain locked taken
  | processThunk =>
    simp only [AudioOutput.step] at taken
    split at taken <;> cases taken
    next enabled =>
      simp only [ne_eq, not_or, not_not] at enabled
      exact phased.processThunk enabled.2 enabled.1
  | process action =>
    simp only [AudioOutput.step] at taken
    split at taken <;> cases taken
    next inside => exact phased.processing inside action
  | worker => exact phased.stepWorker taken

end Phased

theorem Locked.step (locked : output.Locked) (phased : output.Phased) {event : Event}
    (taken : output.step event = some next) : next.Locked := by
  cases event with
  | call request =>
    simp only [AudioOutput.step] at taken
    split at taken
    next idle =>
      have cases := phased.call_cases taken
      obtain ⟨processing, shutdown⟩ := locked
      rw [idle] at processing shutdown
      rcases cases with ⟨-, rfl⟩ | ⟨link, -, rfl⟩ | ⟨messages, rfl⟩ | ⟨messages, caller, -, rfl⟩ |
        ⟨-, -, rfl⟩
      case inr.inr.inl => exact ⟨by rwa [idle], by rwa [idle]⟩
      all_goals
        exact ⟨processing, shutdown⟩
    next => cases taken
  | main => exact locked.stepMain taken
  | processThunk =>
    simp only [AudioOutput.step] at taken
    split at taken <;> cases taken
    next enabled =>
      simp only [ne_eq, not_or, not_not] at enabled
      obtain ⟨processing, shutdown⟩ := locked
      rw [enabled.2] at processing shutdown
      unfold processThunk
      split
      · exact ⟨processing, shutdown⟩
      · exact ⟨by rwa [enabled.2], by rwa [enabled.2]⟩
  | process action =>
    simp only [AudioOutput.step] at taken
    split at taken <;> cases taken
    next inside =>
      obtain ⟨processing, shutdown⟩ := locked
      cases action <;> constructor <;>
        simp_all [AudioOutput.processing, held_none, WorkerTask.processing, WorkerTask.shutting,
          eraseLink]
  | worker => exact locked.stepWorker taken

end MojoMedia.Audio.AudioOutput
