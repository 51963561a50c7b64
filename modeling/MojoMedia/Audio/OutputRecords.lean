import MojoMedia.Audio.OutputShutdown
import Mathlib.Data.List.Perm.Basic

set_option autoImplicit false

namespace MojoMedia.Audio.AudioOutput

open Histories

variable {output next : AudioOutput} {link : Nat}

def Note.taken : Note → Option Nat
  | .added link => some link
  | _ => none

def Note.gone : Note → Option Nat
  | .removed link | .dropped link | .removeOutput link => some link
  | _ => none

def addedIn (trace : List Note) : List Nat := trace.filterMap Note.taken

def goneIn (trace : List Note) : List Nat := trace.filterMap Note.gone

@[simp] theorem addedIn_concat (trace : List Note) (note : Note) :
    addedIn (trace ++ [note]) = addedIn trace ++ note.taken.toList := by
  cases note <;> simp [addedIn, Note.taken]

@[simp] theorem goneIn_concat (trace : List Note) (note : Note) :
    goneIn (trace ++ [note]) = goneIn trace ++ note.gone.toList := by
  cases note <;> simp [goneIn, Note.gone]

def Owes (before : List Note) (now : Note) : Prop :=
  (now ≠ .destroyed → .cleanup ∉ before) ∧ .destroyed ∉ before

def remaining (output : AudioOutput) : List Nat :=
  match output.main with
  | .unlink _ rest => rest
  | _ => output.links

theorem remaining_of_shared (shared : output.main.alone = false) :
    output.remaining = output.links := by
  unfold remaining
  split
  next task => simp [task, MainTask.alone] at shared
  next => rfl

structure Recorded (output : AudioOutput) : Prop where
  passes : output.failed = false
  owes : Always Owes output.trace
  cleaned : .cleanup ∈ output.trace → output.shutDown
  destroyed : .destroyed ∈ output.trace → output.referenced = false
  posts : output.trace.count .finishShutdown +
      (if output.worker = .finishShutdown then 1 else 0) ≤ if output.shuttingDown then 1 else 0
  links : (addedIn output.trace).Perm (goneIn output.trace ++ output.remaining)
  once : (addedIn output.trace).Nodup
  older : ∀ link ∈ addedIn output.trace, link < output.nextLink
  fresh : ∀ link, output.main = .addTrackLink link ∨ output.main = .adding link →
    link < output.nextLink ∧ link ∉ addedIn output.trace

namespace Recorded

protected theorem init (ok : Bool) : (init ok).Recorded := by
  cases ok
  · have trace : (AudioOutput.init false).trace = [.finishShutdown, .destroyed] := rfl
    refine ⟨rfl, ?_, ?_, fun _ => rfl, by decide, ?_, ?_, ?_, ?_⟩
    · rw [trace]
      exact Always.concat (Always.concat (always_nil Owes) ⟨by simp, by simp⟩) ⟨by simp, by simp⟩
    · rw [trace]
      simp
    · rw [trace]
      exact List.Perm.refl []
    · rw [trace]
      exact List.nodup_nil
    · rw [trace]
      exact List.forall_mem_nil _
    · rintro link (adds | adds) <;> cases adds
  · constructor <;> simp [AudioOutput.init, always_nil, addedIn, goneIn, remaining]

theorem alive_of_main (recorded : output.Recorded) (working : output.main ≠ .idle)
    (apart : output.main ≠ .joinThreads) : .destroyed ∉ output.trace := by
  intro gone
  have unreferenced := recorded.destroyed gone
  simp [referenced, working, apart] at unreferenced

theorem alive_of_worker (recorded : output.Recorded) (working : output.worker ≠ .idle) :
    .destroyed ∉ output.trace := by
  intro gone
  have unreferenced := recorded.destroyed gone
  simp [referenced, working] at unreferenced

theorem alive_of_listed (recorded : output.Recorded) (listed : output.listed) :
    .destroyed ∉ output.trace := by
  intro gone
  have unreferenced := recorded.destroyed gone
  simp [referenced, listed] at unreferenced

theorem dropReference (recorded : output.Recorded) (phased : output.dropReference.Phased)
    (alive : .destroyed ∉ output.trace) : output.dropReference.Recorded := by
  by_cases held : output.referenced
  · have same : output.dropReference = output := by
      simp [AudioOutput.dropReference, held]
    rwa [same]
  · obtain ⟨passes, owes, cleaned, destroyed, posts, links, once, older, fresh⟩ := recorded
    have unlisted : output.listed = false := by
      simp only [referenced, Bool.or_eq_true, not_or, Bool.not_eq_true] at held
      exact held.1.1
    have flag : output.shuttingDown := (phased.unlisted unlisted).1
    have runner : output.taskRunner = !output.shuttingDown := phased.runner
    refine ⟨?_, ?_, ?_, ?_, ?_, ?_, ?_, ?_, ?_⟩
    all_goals
      simp only [AudioOutput.dropReference, held]
    · simp [passes, flag, runner]
    · exact owes.concat ⟨by simp, alive⟩
    · simpa using cleaned
    · intro _
      change output.referenced = false
      simpa using held
    · simpa [List.count_append] using posts
    · change (addedIn (output.trace ++ [.destroyed])).Perm
        (goneIn (output.trace ++ [.destroyed]) ++ output.remaining)
      simpa [Note.taken, Note.gone] using links
    · simpa [Note.taken] using once
    · simpa [Note.taken] using older
    · simpa [Note.taken] using fresh

theorem going_of_listed (phased : output.Phased) (listed : output.listed) :
    output.shutDown = false := by
  by_contra gone
  have unlisted := phased.shutDown (by simpa using gone)
  simp [listed] at unlisted

theorem listed_of_worker (phased : output.Phased) (inside : output.worker.outside = false) :
    output.listed := by
  by_contra gone
  have unlisted := phased.unlisted (by simpa using gone)
  simp [inside] at unlisted

theorem listed_of_main (phased : output.Phased) (attached : output.main.detached = false) :
    output.listed := by
  by_contra gone
  have unlisted := phased.unlisted (by simpa using gone)
  simp [attached] at unlisted

theorem quiet (recorded : output.Recorded)
    (destroyed : .destroyed ∈ output.trace → next.referenced = false)
    (trace : next.trace = output.trace) (failed : next.failed = output.failed)
    (remains : next.remaining = output.remaining)
    (shutDown : next.shutDown = output.shutDown) (issued : output.nextLink ≤ next.nextLink)
    (posts : (if next.worker = .finishShutdown then 1 else 0) +
        (if output.shuttingDown then 1 else 0) ≤
      (if output.worker = .finishShutdown then 1 else 0) + if next.shuttingDown then 1 else 0)
    (fresh : ∀ link, next.main = .addTrackLink link ∨ next.main = .adding link →
      link < next.nextLink ∧ link ∉ addedIn output.trace) : next.Recorded := by
  constructor
  case passes => rw [failed, recorded.passes]
  case owes => rw [trace]; exact recorded.owes
  case cleaned => rw [trace, shutDown]; exact recorded.cleaned
  case destroyed => rw [trace]; exact destroyed
  case posts =>
    have before := recorded.posts
    rw [trace]
    omega
  case links => rw [trace, remains]; exact recorded.links
  case once => rw [trace]; exact recorded.once
  case older =>
    rw [trace]
    exact fun link member => Nat.lt_of_lt_of_le (recorded.older link member) issued
  case fresh => rw [trace]; exact fresh

theorem noted (recorded : output.Recorded) (note : Note) (alive : .destroyed ∉ output.trace)
    (going : output.shutDown = false) (living : note ≠ .destroyed)
    (trace : next.trace = output.trace ++ [note]) (failed : next.failed = output.failed)
    (cleaned : note = .cleanup → next.shutDown)
    (remains : (note.taken.toList ++ output.remaining).Perm (note.gone.toList ++ next.remaining))
    (issued : output.nextLink ≤ next.nextLink)
    (taken : ∀ link ∈ note.taken, link < output.nextLink ∧ link ∉ addedIn output.trace)
    (posts : (if note = .finishShutdown then 1 else 0) +
        (if next.worker = .finishShutdown then 1 else 0) +
        (if output.shuttingDown then 1 else 0) ≤
      (if output.worker = .finishShutdown then 1 else 0) + if next.shuttingDown then 1 else 0)
    (fresh : ∀ link, next.main = .addTrackLink link ∨ next.main = .adding link →
      link < next.nextLink ∧ link ∉ addedIn output.trace ∧ note.taken = none) :
    next.Recorded := by
  have clean : .cleanup ∉ output.trace := by
    intro gone
    have closed := recorded.cleaned gone
    simp [going] at closed
  constructor
  case passes => rw [failed, recorded.passes]
  case owes =>
    rw [trace]
    exact recorded.owes.concat ⟨fun _ => clean, alive⟩
  case cleaned =>
    rw [trace]
    intro member
    rcases List.mem_append.mp member with earlier | now
    · exact absurd earlier clean
    · exact cleaned (List.mem_singleton.mp now).symm
  case destroyed =>
    rw [trace]
    intro member
    rcases List.mem_append.mp member with earlier | now
    · exact absurd earlier alive
    · exact absurd (List.mem_singleton.mp now).symm living
  case posts =>
    have before := recorded.posts
    rw [trace, List.count_append, List.count_singleton]
    simp only [beq_iff_eq]
    omega
  case links =>
    rw [trace, addedIn_concat, goneIn_concat]
    calc addedIn output.trace ++ note.taken.toList
      _ |>.Perm ((goneIn output.trace ++ output.remaining) ++ note.taken.toList) :=
        recorded.links.append_right _
      _ |>.Perm (goneIn output.trace ++ (note.taken.toList ++ output.remaining)) := by
        rw [List.append_assoc]
        exact List.perm_append_comm.append_left _
      _ |>.Perm (goneIn output.trace ++ (note.gone.toList ++ next.remaining)) :=
        remains.append_left _
      _ |>.Perm (goneIn output.trace ++ note.gone.toList ++ next.remaining) := by
        rw [List.append_assoc]
  case once =>
    rw [trace, addedIn_concat]
    refine List.nodup_append.mpr ⟨recorded.once, ?_, ?_⟩
    · cases note.taken <;> simp
    · rintro link earlier _ now rfl
      exact (taken link (Option.mem_toList.mp now)).2 earlier
  case older =>
    rw [trace, addedIn_concat]
    intro link member
    rcases List.mem_append.mp member with earlier | now
    · exact Nat.lt_of_lt_of_le (recorded.older link earlier) issued
    · exact Nat.lt_of_lt_of_le (taken link (Option.mem_toList.mp now)).1 issued
  case fresh =>
    rw [trace, addedIn_concat]
    intro link adds
    obtain ⟨known, unused, none⟩ := fresh link adds
    rw [none, Option.toList_none, List.append_nil]
    exact ⟨known, unused⟩

theorem eraseLink (recorded : output.Recorded) (note : Note) (alive : .destroyed ∉ output.trace)
    (going : output.shutDown = false) (set : output.remaining = output.links)
    (erased : (output.eraseLink link note).remaining = output.links.erase link)
    (gone : note.gone = some link) : (output.eraseLink link note).Recorded := by
  have kept : note.taken = none := by
    cases note <;> first | rfl | cases gone
  by_cases member : link ∈ output.links
  · apply recorded.noted note alive going
    case living => rintro rfl; cases gone
    case trace => simp [AudioOutput.eraseLink, member]
    case failed => rfl
    case cleaned => rintro rfl; cases gone
    case remains =>
      rw [kept, gone, set, erased]
      exact List.perm_cons_erase member
    case issued => exact Nat.le_refl _
    case taken => simp [kept]
    case posts =>
      have other : note ≠ .finishShutdown := by rintro rfl; cases gone
      rw [if_neg other, Nat.zero_add]
      exact Nat.le_refl _
    case fresh =>
      intro link adds
      obtain ⟨known, unused⟩ := recorded.fresh link adds
      exact ⟨known, unused, kept⟩
  · have same : output.eraseLink link note = output := by
      simp [AudioOutput.eraseLink, member, List.erase_of_not_mem]
    rwa [same]

theorem beginsAdding (recorded : output.Recorded) (task : output.main = .addTrackLink link) :
    Recorded { output with processingLock := some .main, main := .adding link } := by
  have alive := recorded.alive_of_main (by simp [task]) (by simp [task])
  apply recorded.quiet (fun gone => absurd gone alive) <;> simp [remaining, task]
  exact recorded.fresh link (.inl task)

theorem adds (recorded : output.Recorded) (phased : output.Phased) (after : next.Phased)
    (task : output.main = .adding link) (taken : output.stepMain = some next) :
    next.Recorded := by
  have alive := recorded.alive_of_main (by simp [task]) (by simp [task])
  have going := going_of_listed phased (listed_of_main phased (by simp [task, MainTask.detached]))
  obtain ⟨known, unused⟩ := recorded.fresh link (.inr task)
  have set : output.remaining = output.links := by simp [remaining, task]
  have absent : link ∉ output.links := by
    intro member
    refine unused (recorded.links.symm.subset (List.mem_append_right _ ?_))
    rwa [set]
  simp only [AudioOutput.stepMain, task] at taken
  split at taken <;> cases taken
  · refine dropReference ?_ after alive
    apply recorded.quiet (fun gone => absurd gone alive) <;> simp [remaining, task]
  · refine dropReference ?_ after (by simpa [AudioOutput.note, check] using alive)
    apply recorded.noted (.added link) alive going <;>
      simp [AudioOutput.note, check, Note.taken, Note.gone, known, unused, absent, set]
    exact (List.perm_append_comm : ([link] ++ output.links).Perm (output.links ++ [link]))

theorem erases (recorded : output.Recorded) (phased : output.Phased) (after : next.Phased)
    (task : output.main = .removing link) (taken : output.stepMain = some next) :
    next.Recorded := by
  have alive := recorded.alive_of_main (by simp [task]) (by simp [task])
  have set : output.remaining = output.links := by simp [remaining, task]
  simp only [AudioOutput.stepMain, task] at taken
  split at taken <;> cases taken
  · refine dropReference ?_ after alive
    apply recorded.quiet (fun gone => absurd gone alive) <;> simp [remaining, task]
  next running =>
    have listed : output.listed := by
      by_contra gone
      exact running (phased.unlisted (by simpa using gone)).1
    have kept : .destroyed ∉ (output.eraseLink link (.removed link)).trace := by
      simp only [AudioOutput.eraseLink]
      split <;> simp [alive]
    have erased := recorded.eraseLink (.removed link) alive (going_of_listed phased listed)
      set (by simp [AudioOutput.eraseLink, remaining, task]) rfl
    refine dropReference ?_ after kept
    apply erased.quiet (fun gone => absurd gone kept) <;>
      simp [AudioOutput.eraseLink, remaining, task]

theorem cleansUp (recorded : output.Recorded) (phased : output.Phased) (after : next.Phased)
    {caller : Caller} (task : output.main = .cleanup caller)
    (taken : output.stepMain = some next) : next.Recorded := by
  have alive := recorded.alive_of_main (by simp [task]) (by simp [task])
  have going := going_of_listed phased (listed_of_main phased (by simp [task, MainTask.detached]))
  simp only [AudioOutput.stepMain, task] at taken
  cases taken
  refine dropReference ?_ after (by simpa [AudioOutput.note] using alive)
  have empty := phased.cleaned caller task
  apply recorded.noted .cleanup alive going <;>
    cases caller <;>
    simp [AudioOutput.note, Note.taken, Note.gone, remaining, task, Caller.next, empty]

theorem stepMain (recorded : output.Recorded) (phased : output.Phased)
    (after : next.Phased) (taken : output.stepMain = some next) : next.Recorded := by
  cases task : output.main with
  | idle =>
    simp only [AudioOutput.stepMain, task] at taken
    cases taken
  | addTrackLink link =>
    simp only [AudioOutput.stepMain, task] at taken
    split at taken <;> cases taken
    exact recorded.beginsAdding task
  | adding link => exact recorded.adds phased after task taken
  | removing link => exact recorded.erases phased after task taken
  | beginning caller =>
    have alive := recorded.alive_of_main (by simp [task]) (by simp [task])
    simp only [AudioOutput.stepMain, task] at taken
    cases taken
    apply recorded.quiet (fun gone => absurd gone alive) <;>
      simp [remaining, task, beginShutdown]
    split <;> omega
  | unlink caller rest =>
    have alive := recorded.alive_of_main (by simp [task]) (by simp [task])
    have going :=
      going_of_listed phased (listed_of_main phased (by simp [task, MainTask.detached]))
    cases rest with
    | nil =>
      simp only [AudioOutput.stepMain, task] at taken
      cases taken
      apply recorded.quiet (fun gone => absurd gone alive) <;> simp [remaining, task]
    | cons link rest =>
      simp only [AudioOutput.stepMain, task] at taken
      cases taken
      apply recorded.noted (.removeOutput link) alive going <;>
        simp [AudioOutput.note, Note.taken, Note.gone, remaining, task]
      exact Nat.le_refl _
  | cleanup caller => exact recorded.cleansUp phased after task taken
  | joinThreads =>
    have unlisted := phased.joining task
    simp only [AudioOutput.stepMain, task] at taken
    split at taken <;> cases taken
    next idle =>
      apply recorded.quiet <;> simp [remaining, task, referenced, unlisted, idle]
  | _ =>
    have alive := recorded.alive_of_main (by simp [task]) (by simp [task])
    simp only [AudioOutput.stepMain, task] at taken
    try split at taken
    all_goals
      cases taken
    all_goals
      apply recorded.quiet (fun gone => absurd gone alive) <;> simp [remaining, task]

theorem stepWorker (recorded : output.Recorded) (phased : output.Phased)
    (after : next.Phased) (taken : output.stepWorker = some next) : next.Recorded := by
  cases task : output.worker with
  | idle | process =>
    simp only [AudioOutput.stepWorker, task] at taken
    cases taken
  | entered =>
    have alive := recorded.alive_of_worker (by simp [task])
    simp only [AudioOutput.stepWorker, task] at taken
    split at taken <;> cases taken
    next =>
      exact recorded.quiet (fun gone => absurd gone alive) rfl rfl rfl rfl (Nat.le_refl _)
        (by simp [task]) recorded.fresh
    next running =>
      have listed : output.listed := by
        by_contra gone
        exact running (phased.unlisted (by simpa using gone)).1
      apply recorded.noted .process alive (going_of_listed phased listed) <;>
        simp [AudioOutput.note, Note.taken, Note.gone, remaining, task]
      · exact Nat.le_refl _
      · exact recorded.fresh
  | scheduling =>
    have alive := recorded.alive_of_worker (by simp [task])
    have runner := phased.runner
    simp only [AudioOutput.stepWorker, task] at taken
    split at taken <;> cases taken
    all_goals
      refine recorded.quiet (fun gone => absurd gone alive) rfl ?_ rfl rfl (Nat.le_refl _)
        (by simp [task, check]) recorded.fresh
      simp_all [check]
  | shuttingDownSelf =>
    have alive := recorded.alive_of_worker (by simp [task])
    simp only [AudioOutput.stepWorker, task] at taken
    cases taken
    refine recorded.quiet (fun gone => absurd gone alive) rfl rfl rfl rfl (Nat.le_refl _) ?_
      recorded.fresh
    cases begun : output.shuttingDown <;> simp [task, begun, beginShutdown]
  | finishShutdown =>
    have alive := recorded.alive_of_worker (by simp [task])
    have listed := listed_of_worker phased (by simp [task, WorkerTask.outside])
    have begun := phased.posting task
    simp only [AudioOutput.stepWorker, task] at taken
    cases taken
    apply recorded.noted .finishShutdown alive (going_of_listed phased listed) <;>
      simp [AudioOutput.note, Note.taken, Note.gone, remaining, task, begun]
    exact recorded.fresh
  | left =>
    have alive := recorded.alive_of_worker (by simp [task])
    simp only [AudioOutput.stepWorker, task] at taken
    cases taken
    refine dropReference ?_ after alive
    exact recorded.quiet (fun gone => absurd gone alive) rfl rfl rfl rfl (Nat.le_refl _)
      (by simp [task]) recorded.fresh
  | _ =>
    have alive := recorded.alive_of_worker (by simp [task])
    simp only [AudioOutput.stepWorker, task] at taken
    try split at taken
    all_goals
      cases taken
    all_goals
      exact recorded.quiet (fun gone => absurd gone alive) rfl rfl rfl rfl (Nat.le_refl _)
        (by simp [task]) recorded.fresh

theorem call (recorded : output.Recorded) (phased : output.Phased) (idle : output.main = .idle)
    {request : Call} (taken : output.call request = some next) : next.Recorded := by
  rcases phased.call_cases taken with ⟨listed, rfl⟩ | ⟨link, referenced, rfl⟩ |
    ⟨messages, rfl⟩ | ⟨messages, caller, listed, rfl⟩ | ⟨unlisted, -, rfl⟩
  · have alive := recorded.alive_of_listed listed
    apply recorded.quiet (fun gone => absurd gone alive) <;> simp [remaining, idle]
    exact fun gone => absurd (recorded.older _ gone) (Nat.lt_irrefl _)
  · have alive : .destroyed ∉ output.trace := by
      intro gone
      simp [recorded.destroyed gone] at referenced
    apply recorded.quiet (fun gone => absurd gone alive) <;> simp [remaining, idle]
  · exact recorded.quiet recorded.destroyed rfl rfl rfl rfl (Nat.le_refl _) (Nat.le_refl _)
      recorded.fresh
  · have alive := recorded.alive_of_listed listed
    apply recorded.quiet (fun gone => absurd gone alive) <;> simp [remaining, idle]
  · have same :
        output.referenced = AudioOutput.referenced { output with main := .joinThreads } := by
      simp [referenced, idle]
    apply recorded.quiet (same ▸ recorded.destroyed) <;> simp [remaining, idle]

theorem processThunk (recorded : output.Recorded) (idle : output.worker = .idle) :
    Recorded { output with callbacks := output.callbacks - 1 }.processThunk := by
  unfold AudioOutput.processThunk
  split
  next locks =>
    have alive : .destroyed ∉ output.trace := by
      intro gone
      change (output.weakSelf && output.referenced) = true at locks
      simp [recorded.destroyed gone] at locks
    exact recorded.quiet (fun gone => absurd gone alive) rfl rfl rfl rfl (Nat.le_refl _)
      (by simp [idle]) recorded.fresh
  next =>
    exact recorded.quiet recorded.destroyed rfl rfl rfl rfl (Nat.le_refl _) (Nat.le_refl _)
      recorded.fresh

theorem processing (recorded : output.Recorded) (phased : output.Phased)
    (inside : output.worker = .process) (action : Action) :
    (output.processing action).Recorded := by
  have alive := recorded.alive_of_worker (by simp [inside])
  have listed := listed_of_worker phased (by simp [inside, WorkerTask.outside])
  cases action with
  | dropLink link =>
    have busy : output.main.alone = false := by
      by_contra alone
      have outside := phased.apart (by simpa using alone)
      simp [inside, WorkerTask.outside] at outside
    exact recorded.eraseLink (.dropped link) alive (going_of_listed phased listed)
      (remaining_of_shared busy) (remaining_of_shared busy) rfl
  | _ =>
    refine recorded.quiet (fun gone => absurd gone alive) rfl rfl rfl rfl (Nat.le_refl _) ?_
      recorded.fresh
    simp [inside, AudioOutput.processing]
    exact Nat.le_refl _

theorem step (recorded : output.Recorded) (phased : output.Phased) (after : next.Phased)
    {event : Event} (taken : output.step event = some next) : next.Recorded := by
  cases event with
  | call request =>
    simp only [AudioOutput.step] at taken
    split at taken
    next idle => exact recorded.call phased idle taken
    next => cases taken
  | main => exact recorded.stepMain phased after taken
  | processThunk =>
    simp only [AudioOutput.step] at taken
    split at taken <;> cases taken
    next enabled =>
      simp only [ne_eq, not_or, not_not] at enabled
      exact recorded.processThunk enabled.2
  | process action =>
    simp only [AudioOutput.step] at taken
    split at taken <;> cases taken
    next inside => exact recorded.processing phased inside action
  | worker => exact recorded.stepWorker phased after taken

end Recorded

end MojoMedia.Audio.AudioOutput
