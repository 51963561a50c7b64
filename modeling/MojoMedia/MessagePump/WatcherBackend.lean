import MojoMedia.MessagePump.HandleWatcher
import MojoMedia.MessagePump.Registrations

set_option autoImplicit false

namespace MojoMedia

open Runs MessagePumpMojo Pumping

namespace WatcherBackend

def watchedCount (backend : WatcherBackend) (watcherId : Nat) : Nat :=
  backend.handleToData.entries.countP fun entry => entry.2.id == watcherId

def postedCount (backend : WatcherBackend) (watcherId : Nat) : Nat :=
  backend.posted.countP fun post => post.1 == watcherId

def Moved (before after : WatcherBackend) : Prop :=
  ∀ watcherId, after.watchedCount watcherId + after.postedCount watcherId =
      before.watchedCount watcherId + before.postedCount watcherId ∧
    after.watchedCount watcherId ≤ before.watchedCount watcherId

theorem Moved.refl (backend : WatcherBackend) : Moved backend backend :=
  fun _ => ⟨rfl, Nat.le_refl _⟩

theorem Moved.trans {first second third : WatcherBackend} (one : Moved first second)
    (two : Moved second third) : Moved first third := by
  intro watcherId
  have early := one watcherId
  have late := two watcherId
  omega

theorem removeAndNotify_moved (backend : WatcherBackend) (handle : Nat) (result : MojoResult) :
    Moved backend (backend.removeAndNotify handle result).1 := by
  unfold removeAndNotify
  split
  next => exact Moved.refl backend
  next data found =>
    intro watcherId
    have erased := backend.handleToData.countP_erase handle data
      (fun entry => entry.2.id == watcherId) found
    simp only at erased
    simp only [watchedCount, postedCount, List.countP_append, List.countP_singleton]
    omega

theorem removeAndNotify_get? (backend : WatcherBackend) (handle other : Nat)
    (result : MojoResult) : (backend.removeAndNotify handle result).1.handleToData.get? other =
      if other = handle then none else backend.handleToData.get? other := by
  unfold removeAndNotify
  split
  next absent =>
    split_ifs with here
    · rw [here, absent]
    · rfl
  next => exact OrderedMap.get?_erase _ _ _

end WatcherBackend

open WatcherBackend

structure Matched (pumping : Pumping WatcherBackend) : Prop where
  keys : ∀ handle, (pumping.state.handleToData.get? handle).isSome =
    (pumping.pump.handlers.get? handle).isSome
  named : ∀ handle data, pumping.state.handleToData.get? handle = some data →
    data.handle = handle

structure MatchedBut (handle : Nat) (pumping : Pumping WatcherBackend) : Prop where
  keys : ∀ other, other ≠ handle → (pumping.state.handleToData.get? other).isSome =
    (pumping.pump.handlers.get? other).isSome
  here : pumping.state.handleToData.get? handle = none →
    pumping.pump.handlers.get? handle = none
  named : ∀ other data, pumping.state.handleToData.get? other = some data → data.handle = other

theorem Matched.but {pumping : Pumping WatcherBackend} (matched : Matched pumping)
    (handle : Nat) : MatchedBut handle pumping where
  keys other _ := matched.keys other
  here absent := by
    have same := matched.keys handle
    rw [absent] at same
    simpa using same.symm
  named := matched.named

theorem notify_react {pumping : Pumping WatcherBackend} {handle : Nat} (result : MojoResult)
    (matched : MatchedBut handle pumping) :
    ∃ next, pumping.react (pumping.state.removeAndNotify handle result) = some next ∧
      Matched next ∧ Moved pumping.state next.state ∧
      next.state = (pumping.state.removeAndNotify handle result).1 ∧
      next.pump.handlers.get? handle = none := by
  have lookup := removeAndNotify_get? pumping.state handle
  have moved := removeAndNotify_moved pumping.state handle result
  obtain ⟨pump, performed, gone⟩ : ∃ pump, run perform pumping.pump
      (pumping.state.removeAndNotify handle result).2 = some pump ∧
        ∀ other, pump.handlers.get? other =
          if other = handle then none else pumping.pump.handlers.get? other := by
    unfold removeAndNotify
    split
    next absent =>
      refine ⟨pumping.pump, rfl, ?_⟩
      intro other
      split_ifs with same
      · rw [same, matched.here absent]
      · rfl
    next => exact ⟨_, rfl, fun other => leave_get? pumping.pump handle other .removed⟩
  refine ⟨{ pumping with
    state := (pumping.state.removeAndNotify handle result).1
    pump }, by rw [react, performed]; rfl, ⟨?_, ?_⟩, moved, rfl, by simp [gone]⟩
  · intro other
    rw [lookup, gone]
    split_ifs with same
    · rfl
    · exact matched.keys other same
  · intro other data found
    rw [lookup] at found
    split_ifs at found
    exact matched.named other data found

def Follows (start : WatcherBackend) (pumping : Pumping WatcherBackend) : Prop :=
  Matched pumping ∧ Moved start pumping.state

theorem signal_follows {pumping next : Pumping WatcherBackend} {result : WaitManyResult}
    (matched : Matched pumping)
    (signalled : pumping.signal WatcherBackend.handlers result = some next) :
    Follows pumping.state next := by
  cases result with
  | controlPipe =>
    cases signalled
    exact ⟨⟨matched.keys, matched.named⟩, Moved.refl _⟩
  | ready handle =>
    simp only [signal] at signalled
    split at signalled
    next entry found =>
      have recorded : MatchedBut handle
          (({ pumping with didWork := true } : Pumping WatcherBackend).record (.ready entry.id)) :=
        ⟨(matched.but handle).keys, (matched.but handle).here, matched.named⟩
      obtain ⟨after, reacted, kept, moved, -⟩ := notify_react .ok recorded
      cases signalled.symm.trans reacted
      exact ⟨kept, moved⟩
    next => cases signalled
  | failedPrecondition handle =>
    simp only [signal] at signalled
    split at signalled
    next entry found =>
      have left : MatchedBut handle ({ pumping with
          pump := pumping.pump.leave handle .broken
          didWork := true } : Pumping WatcherBackend) := by
        refine ⟨?_, ?_, matched.named⟩
        · intro other different
          rw [leave_get?, if_neg different]
          exact matched.keys other
        · intro _
          rw [leave_get?, if_pos rfl]
      obtain ⟨after, reacted, kept, moved, -⟩ := notify_react .failedPrecondition left
      cases signalled.symm.trans reacted
      exact ⟨kept, moved⟩
    next => cases signalled
  | deadlineExceeded =>
    cases signalled
    exact ⟨⟨matched.keys, matched.named⟩, Moved.refl _⟩

theorem expire_follows {start : WatcherBackend} {now : Int} (pumping : Pumping WatcherBackend)
    (entry : Nat × Handler) (next : Pumping WatcherBackend) (follows : Follows start pumping)
    (done : pumping.expire WatcherBackend.handlers now entry = some next) :
    Follows start next := by
  unfold expire at done
  split at done
  next due =>
    have recorded : MatchedBut entry.1 (pumping.record (.expired entry.2.id)) :=
      ⟨(follows.1.but entry.1).keys, (follows.1.but entry.1).here, follows.1.named⟩
    obtain ⟨after, reacted, kept, moved, -, gone⟩ := notify_react .deadlineExceeded recorded
    obtain ⟨reaction, same, rfl⟩ := Option.map_eq_some_iff.mp done
    cases same.symm.trans reacted
    have unchanged : after.pump.leave entry.1 (Moment.erased · entry.2.id) = after.pump := by
      simp [leave, gone]
    refine ⟨⟨?_, kept.named⟩, follows.2.trans moved⟩
    intro handle
    rw [eraseExpired, unchanged]
    exact kept.keys handle
  next =>
    cases done
    exact follows

theorem work_follows {pumping next : Pumping WatcherBackend} {result : WaitManyResult} {now : Int}
    (matched : Matched pumping)
    (worked : pumping.doInternalWork WatcherBackend.handlers result now = some next) :
    Follows pumping.state next := by
  obtain ⟨signalled, first, loop⟩ := Option.bind_eq_some_iff.mp worked
  exact invariant_of_run _ (Follows pumping.state) expire_follows signalled next _
    (signal_follows matched first) loop

theorem startWatching_react {pumping : Pumping WatcherBackend} (matched : Matched pumping)
    (data : WatchData) :
    ∃ next, pumping.react (pumping.state.startWatching data) = some next ∧ Matched next ∧
      ∀ watcherId, next.state.watchedCount watcherId + next.state.postedCount watcherId =
          pumping.state.watchedCount watcherId + pumping.state.postedCount watcherId +
            (if data.id == watcherId then 1 else 0) ∧
        next.state.watchedCount watcherId ≤
          pumping.state.watchedCount watcherId + if data.id == watcherId then 1 else 0 := by
  obtain ⟨notified, reacted, kept, moved, state, gone⟩ :=
    notify_react .cancelled (matched.but data.handle)
  obtain ⟨pump, performed, rfl⟩ := Option.map_eq_some_iff.mp reacted
  have absent : (pumping.state.removeAndNotify data.handle .cancelled).1.handleToData.get?
      data.handle = none := by
    rw [removeAndNotify_get?, if_pos rfl]
  obtain ⟨added, adding, registered⟩ : ∃ added, pump.addHandler 0 data.handle data.deadline =
      some added ∧ ∀ other, (added.handlers.get? other).isSome =
        if other = data.handle then true else (pump.handlers.get? other).isSome := by
    simp only [addHandler, gone]
    refine ⟨_, rfl, ?_⟩
    intro other
    rw [OrderedMap.get?_assign]
    split_ifs <;> rfl
  have all : run perform pumping.pump (pumping.state.startWatching data).2 = some added := by
    simp only [startWatching]
    rw [run_append, performed]
    simp [run, perform, adding]
  refine ⟨{ pumping with state := (pumping.state.startWatching data).1, pump := added },
    by rw [react, all]; rfl, ⟨?_, ?_⟩, ?_⟩
  · intro other
    simp only [startWatching]
    rw [registered, OrderedMap.get?_assign]
    split_ifs with here
    · rfl
    · exact kept.keys other
  · intro other found there
    simp only [startWatching] at there
    rw [OrderedMap.get?_assign] at there
    split_ifs at there with here
    · cases there
      exact here.symm
    · exact kept.named other found there
  · intro watcherId
    have counted := OrderedMap.countP_assign _ data.handle data
      (fun entry => entry.2.id == watcherId) absent
    have before := moved watcherId
    simp only [watchedCount, postedCount] at before
    simp only [startWatching, watchedCount, postedCount, counted]
    omega

theorem stopWatching_react {pumping : Pumping WatcherBackend} (matched : Matched pumping)
    (watcherId : Nat) :
    ∃ next, pumping.react (pumping.state.stopWatching watcherId) = some next ∧ Matched next ∧
      (∀ other, next.state.postedCount other = pumping.state.postedCount other ∧
        next.state.watchedCount other ≤ pumping.state.watchedCount other) ∧
      (pumping.state.watchedCount watcherId ≤ 1 → next.state.watchedCount watcherId = 0) := by
  unfold stopWatching getMojoHandleByWatcherID
  cases search : pumping.state.handleToData.entries.find? fun entry => entry.2.id == watcherId with
  | none =>
    refine ⟨pumping, rfl, matched, fun _ => ⟨rfl, Nat.le_refl _⟩, ?_⟩
    intro _
    rw [watchedCount, List.countP_eq_zero]
    exact List.find?_eq_none.mp search
  | some entry =>
    have member := List.mem_of_find?_eq_some search
    have wanted : entry.2.id = watcherId := by
      have holds := List.find?_some search
      simpa using holds
    have found := (OrderedMap.get?_eq_some _ entry.1 entry.2).mpr member
    have named := matched.named entry.1 entry.2 found
    have erased : ∀ other, (pumping.state.handleToData.erase entry.1).entries.countP
        (fun entry => entry.2.id == other) + (if entry.2.id == other then 1 else 0) =
          pumping.state.watchedCount other :=
      fun other => OrderedMap.countP_erase _ _ _ _ found
    simp only [Option.map_some, named]
    refine ⟨{ pumping with
      state := { pumping.state with
        handleToData := pumping.state.handleToData.erase entry.1 }
      pump := pumping.pump.removeHandler entry.1 }, rfl, ⟨?_, ?_⟩, ?_, ?_⟩
    · intro other
      rw [OrderedMap.get?_erase, removeHandler, leave_get?]
      split_ifs
      · rfl
      · exact matched.keys other
    · intro other data there
      rw [OrderedMap.get?_erase] at there
      split_ifs at there
      exact matched.named other data there
    · intro other
      refine ⟨rfl, ?_⟩
      rw [← erased other]
      exact Nat.le_add_right _ _
    · intro single
      rw [← erased watcherId] at single
      simp only [wanted, beq_self_eq_true, if_true] at single
      exact Nat.le_zero.mp (Nat.le_of_succ_le_succ single)

end MojoMedia
