import MojoMedia.MessagePump.MessagePumpMojo
import MojoMedia.Shared.Histories
import Mathlib.Data.List.Induction

set_option autoImplicit false

namespace MojoMedia

open Runs Histories

def Moment.leaves : Moment → Option Nat
  | .removed id | .broken id | .erased id _ => some id
  | .added _ | .ready _ | .expired _ => none

def Moment.error : Moment → Option Nat
  | .broken id | .expired id => some id
  | .added _ | .removed _ | .ready _ | .erased _ _ => none

def Left (log : List Moment) (id : Nat) : Prop := ∃ moment ∈ log, moment.leaves = some id

def Notified (log : List Moment) (id : Nat) : Prop := ∃ moment ∈ log, moment.error = some id

theorem left_concat (log : List Moment) (moment : Moment) (id : Nat) :
    Left (log ++ [moment]) id ↔ Left log id ∨ moment.leaves = some id := by
  simp [Left, or_and_right, exists_or]

theorem notified_concat (log : List Moment) (moment : Moment) (id : Nat) :
    Notified (log ++ [moment]) id ↔ Notified log id ∨ moment.error = some id := by
  simp [Notified, or_and_right, exists_or]

def FirstError (before : List Moment) (moment : Moment) : Prop :=
  ∀ id, moment.error = some id → ¬ Left before id ∧ ¬ Notified before id

def OwnErasure (before : List Moment) (moment : Moment) : Prop :=
  ∀ id notified, moment = .erased id notified → id = notified ∧ .expired id ∈ before

namespace MessagePumpMojo

structure Book (busy : Option (Nat × Nat)) (pump : MessagePumpMojo) : Prop where
  fresh : ∀ handle entry, pump.handlers.get? handle = some entry → entry.id < pump.nextHandlerId
  distinct : ∀ first second entry other, pump.handlers.get? first = some entry →
    pump.handlers.get? second = some other → entry.id = other.id → first = second
  added : ∀ id, .added id ∈ pump.log → id < pump.nextHandlerId
  past : ∀ id, Left pump.log id ∨ Notified pump.log id → id < pump.nextHandlerId
  present : ∀ id, id < pump.nextHandlerId →
    (∃ handle entry, pump.handlers.get? handle = some entry ∧ entry.id = id) ∨ Left pump.log id
  gone : ∀ handle entry, pump.handlers.get? handle = some entry → ¬ Left pump.log entry.id
  clean : ∀ handle entry, pump.handlers.get? handle = some entry →
    busy ≠ some (handle, entry.id) → ¬ Notified pump.log entry.id
  first : Always FirstError pump.log
  own : Always OwnErasure pump.log

theorem book_start : Book none {} where
  fresh handle entry found := by simp at found
  distinct first second entry other found := by simp at found
  added id member := by simp at member
  past id event := by simp [Left, Notified] at event
  present id early := absurd early (Nat.not_lt_zero id)
  gone handle entry found := by simp at found
  clean handle entry found := by simp at found
  first := always_nil _
  own := always_nil _

variable {busy : Option (Nat × Nat)} {pump : MessagePumpMojo}

theorem Book.addHandler (book : Book busy pump) {next : MessagePumpMojo} {handler handle : Nat}
    {deadline : Int} (done : pump.addHandler handler handle deadline = some next) :
    Book busy next := by
  unfold MessagePumpMojo.addHandler at done
  split at done
  next => cases done
  next absent =>
    cases done
    have unknown : ¬ (Left pump.log pump.nextHandlerId ∨ Notified pump.log pump.nextHandlerId) :=
      fun event => Nat.lt_irrefl _ (book.past _ event)
    refine { fresh := ?_, distinct := ?_, added := ?_, past := ?_, present := ?_, gone := ?_,
             clean := ?_, first := ?_, own := ?_ }
    · intro other entry found
      rw [OrderedMap.get?_assign] at found
      split_ifs at found
      · cases found
        exact Nat.lt_succ_self _
      · exact Nat.lt_succ_of_lt (book.fresh other entry found)
    · intro one two entry other found alsoFound same
      rw [OrderedMap.get?_assign] at found alsoFound
      split_ifs at found alsoFound with here there there
      · rw [here, there]
      · cases found
        exact absurd same.symm (Nat.ne_of_lt (book.fresh two other alsoFound))
      · cases alsoFound
        exact absurd same (Nat.ne_of_lt (book.fresh one entry found))
      · exact book.distinct one two entry other found alsoFound same
    · intro id member
      rw [List.mem_append, List.mem_singleton] at member
      rcases member with before | same
      · exact Nat.lt_succ_of_lt (book.added id before)
      · cases same
        exact Nat.lt_succ_self _
    · intro id event
      rw [left_concat, notified_concat] at event
      simp only [Moment.leaves, Moment.error, reduceCtorEq, or_false] at event
      exact Nat.lt_succ_of_lt (book.past id event)
    · intro id early
      rw [left_concat]
      rcases Nat.lt_succ_iff_lt_or_eq.mp early with older | rfl
      · rcases book.present id older with ⟨other, entry, found, same⟩ | left
        · refine .inl ⟨other, entry, ?_, same⟩
          rw [OrderedMap.get?_assign, if_neg, found]
          rintro rfl
          cases absent.symm.trans found
        · exact .inr (.inl left)
      · exact .inl ⟨handle, _, by rw [OrderedMap.get?_assign, if_pos rfl], rfl⟩
    · intro other entry found left
      rw [left_concat] at left
      simp only [Moment.leaves, reduceCtorEq, or_false] at left
      rw [OrderedMap.get?_assign] at found
      split_ifs at found
      · cases found
        exact unknown (.inl left)
      · exact book.gone other entry found left
    · intro other entry found idle notified
      rw [notified_concat] at notified
      simp only [Moment.error, reduceCtorEq, or_false] at notified
      rw [OrderedMap.get?_assign] at found
      split_ifs at found
      · cases found
        exact unknown (.inr notified)
      · exact book.clean other entry found idle notified
    · exact book.first.concat fun id error => by simp [Moment.error] at error
    · exact book.own.concat fun id notified erased => by cases erased

theorem leave_get? (pump : MessagePumpMojo) (handle other : Nat) (moment : Nat → Moment) :
    (pump.leave handle moment).handlers.get? other =
      if other = handle then none else pump.handlers.get? other := by
  unfold leave
  split
  next => exact OrderedMap.get?_erase _ _ _
  next absent =>
    split_ifs with here
    · rw [here, absent]
    · rfl

theorem Book.leave (book : Book busy pump) (handle : Nat) (moment : Nat → Moment)
    (leaves : ∀ id, (moment id).leaves = some id)
    (error : ∀ entry id, pump.handlers.get? handle = some entry →
      (moment entry.id).error = some id → id = entry.id ∧ busy ≠ some (handle, entry.id))
    (own : ∀ entry, pump.handlers.get? handle = some entry →
      OwnErasure pump.log (moment entry.id)) : Book busy (pump.leave handle moment) := by
  cases found : pump.handlers.get? handle with
  | none =>
    have same : pump.leave handle moment = pump := by simp [MessagePumpMojo.leave, found]
    rw [same]
    exact book
  | some entry =>
    have changed : pump.leave handle moment = { pump with
        handlers := pump.handlers.erase handle
        log := pump.log ++ [moment entry.id] } := by simp [MessagePumpMojo.leave, found]
    have known := book.fresh handle entry found
    have staying : ∀ {other stays}, (pump.leave handle moment).handlers.get? other = some stays →
        other ≠ handle ∧ pump.handlers.get? other = some stays := by
      intro other stays there
      rw [leave_get?] at there
      split_ifs at there with here
      exact ⟨here, there⟩
    have apart : ∀ {other stays}, (pump.leave handle moment).handlers.get? other = some stays →
        stays.id ≠ entry.id := by
      intro other stays there same
      obtain ⟨different, there⟩ := staying there
      exact different (book.distinct other handle stays entry there found same)
    rw [changed] at staying apart ⊢
    refine { fresh := ?_, distinct := ?_, added := ?_, past := ?_, present := ?_, gone := ?_,
             clean := ?_, first := ?_, own := ?_ }
    · intro other stays there
      exact book.fresh other stays (staying there).2
    · intro one two stays alsoStays there alsoThere same
      exact book.distinct one two stays alsoStays (staying there).2 (staying alsoThere).2 same
    · intro id member
      rw [List.mem_append, List.mem_singleton] at member
      rcases member with before | now
      · exact book.added id before
      · have impossible := leaves entry.id
        rw [← now] at impossible
        cases impossible
    · intro id event
      rw [left_concat, notified_concat] at event
      rcases event with (left | leaving) | (notified | failing)
      · exact book.past id (.inl left)
      · rw [leaves] at leaving
        cases leaving
        exact known
      · exact book.past id (.inr notified)
      · rw [(error entry id found failing).1]
        exact known
    · intro id early
      rw [left_concat, leaves]
      rcases book.present id early with ⟨other, stays, there, same⟩ | left
      · by_cases here : other = handle
        · subst here
          cases found.symm.trans there
          exact .inr (.inr (congrArg some same))
        · refine .inl ⟨other, stays, ?_, same⟩
          rw [OrderedMap.get?_erase, if_neg here, there]
      · exact .inr (.inl left)
    · intro other stays there left
      rw [left_concat, leaves] at left
      rcases left with before | now
      · exact book.gone other stays (staying there).2 before
      · exact apart there (Option.some.inj now).symm
    · intro other stays there idle notified
      rw [notified_concat] at notified
      rcases notified with before | now
      · exact book.clean other stays (staying there).2 idle before
      · exact apart there (error entry _ found now).1
    · refine book.first.concat ?_
      intro id failing
      obtain ⟨rfl, idle⟩ := error entry id found failing
      exact ⟨book.gone handle entry found, book.clean handle entry found idle⟩
    · exact book.own.concat (own entry found)

theorem Book.removeHandler (book : Book busy pump) (handle : Nat) :
    Book busy (pump.removeHandler handle) := by
  apply book.leave handle .removed
  · intro id
    rfl
  · intro entry id _ error
    cases error
  · intro entry _ id notified erased
    cases erased

theorem Book.perform (pump : MessagePumpMojo) (action : PumpAction) (next : MessagePumpMojo)
    (book : Book busy pump) (done : pump.perform action = some next) : Book busy next := by
  cases action with
  | addHandler handler handle deadline => exact book.addHandler done
  | removeHandler handle =>
    cases done
    exact book.removeHandler handle

theorem Book.record (book : Book busy pump) (id : Nat) :
    Book busy { pump with log := pump.log ++ [.ready id] } := by
  have left : ∀ other, Left (pump.log ++ [.ready id]) other ↔ Left pump.log other := by
    simp [left_concat, Moment.leaves]
  have notified : ∀ other, Notified (pump.log ++ [.ready id]) other ↔ Notified pump.log other := by
    simp [notified_concat, Moment.error]
  refine { book with added := ?_, past := ?_, present := ?_, gone := ?_, clean := ?_,
                     first := ?_, own := ?_ }
  · simpa using book.added
  · simpa [left, notified] using book.past
  · simpa [left] using book.present
  · simpa [left] using book.gone
  · simpa [notified] using book.clean
  · exact book.first.concat fun other error => by cases error
  · exact book.own.concat fun other notified erased => by cases erased

theorem Book.expired (book : Book none pump) {handle : Nat} {entry : Handler}
    (found : pump.handlers.get? handle = some entry) :
    Book (some (handle, entry.id)) { pump with log := pump.log ++ [.expired entry.id] } := by
  have left : ∀ other, Left (pump.log ++ [.expired entry.id]) other ↔ Left pump.log other := by
    simp [left_concat, Moment.leaves]
  refine { book with added := ?_, past := ?_, present := ?_, gone := ?_, clean := ?_,
                     first := ?_, own := ?_ }
  · simpa using book.added
  · intro id event
    rw [left, notified_concat] at event
    rcases event with before | before | now
    · exact book.past id (.inl before)
    · exact book.past id (.inr before)
    · cases now
      exact book.fresh handle entry found
  · simpa [left] using book.present
  · simpa [left] using book.gone
  · intro other stays there idle notified
    rw [notified_concat] at notified
    rcases notified with before | now
    · exact book.clean other stays there (by simp) before
    · have same : entry.id = stays.id := Option.some.inj now
      obtain rfl := book.distinct handle other entry stays found there same
      exact idle (by rw [same])
  · refine book.first.concat ?_
    intro id failing
    cases failing
    exact ⟨book.gone handle entry found, book.clean handle entry found (by simp)⟩
  · exact book.own.concat fun other notified erased => by cases erased

theorem Book.finish {handle id : Nat} (book : Book (some (handle, id)) pump)
    (expired : .expired id ∈ pump.log)
    (own : ∀ entry, pump.handlers.get? handle = some entry → entry.id = id) :
    Book none (pump.leave handle (Moment.erased · id)) := by
  have left : Book (some (handle, id)) (pump.leave handle (Moment.erased · id)) := by
    apply book.leave handle (Moment.erased · id)
    · intro other
      rfl
    · intro entry other _ error
      cases error
    · intro entry found other notified erased
      cases erased
      rw [own entry found]
      exact ⟨rfl, expired⟩
  refine { left with clean := ?_ }
  intro other entry there _
  refine left.clean other entry there ?_
  intro same
  rw [leave_get?] at there
  split_ifs at there with here
  cases same
  exact here rfl

theorem leave_log (pump : MessagePumpMojo) (handle : Nat) (moment : Nat → Moment) :
    pump.log <+: (pump.leave handle moment).log := by
  unfold leave
  split
  next => exact List.prefix_append _ _
  next => exact List.prefix_rfl

theorem perform_log {pump next : MessagePumpMojo} {action : PumpAction}
    (done : pump.perform action = some next) : pump.log <+: next.log := by
  cases action with
  | addHandler handler handle deadline =>
    simp only [perform, addHandler] at done
    split at done
    next => cases done
    next =>
      cases done
      exact List.prefix_append _ _
  | removeHandler handle =>
    cases done
    exact leave_log pump handle .removed

end MessagePumpMojo

open MessagePumpMojo

def leavesAdded (handle : Nat) (added : Bool) : List PumpAction → Bool
  | [] => added
  | .addHandler _ other _ :: rest => leavesAdded handle (added || other == handle) rest
  | .removeHandler other :: rest => leavesAdded handle (added && other != handle) rest

theorem perform_own {pump final : MessagePumpMojo} {handle id : Nat} {added : Bool}
    {actions : List PumpAction} (done : run perform pump actions = some final)
    (own : added = false → ∀ entry, pump.handlers.get? handle = some entry → entry.id = id)
    (kept : leavesAdded handle added actions = false) :
    ∀ entry, final.handlers.get? handle = some entry → entry.id = id := by
  induction actions generalizing pump added with
  | nil =>
    cases done
    exact own kept
  | cons action rest ih =>
    obtain ⟨next, taken, later⟩ := (run_cons perform pump final action rest).mp done
    cases action with
    | addHandler handler other deadline =>
      refine ih later ?_ kept
      intro unchanged entry found
      simp only [Bool.or_eq_false_iff, beq_eq_false_iff_ne] at unchanged
      simp only [perform, addHandler] at taken
      split at taken
      next => cases taken
      next =>
        cases taken
        rw [OrderedMap.get?_assign, if_neg (Ne.symm unchanged.2)] at found
        exact own unchanged.1 entry found
    | removeHandler other =>
      refine ih later ?_ kept
      intro unchanged entry found
      cases taken
      rw [removeHandler, leave_get?] at found
      split_ifs at found with here
      have still : added = false := by
        simpa [Ne.symm here] using unchanged
      exact own still entry found

theorem react_log {σ : Type} {pumping next : Pumping σ} {reaction : σ × List PumpAction}
    (done : pumping.react reaction = some next) : pumping.pump.log <+: next.pump.log := by
  obtain ⟨pump, performed, rfl⟩ := Option.map_eq_some_iff.mp done
  refine invariant_of_run perform (fun other => pumping.pump.log <+: other.log) ?_ pumping.pump pump
    reaction.2 List.prefix_rfl performed
  intro before action after grown taken
  exact grown.trans (perform_log taken)

theorem react_book {σ : Type} {busy : Option (Nat × Nat)} {pumping next : Pumping σ}
    {reaction : σ × List PumpAction} (book : Book busy pumping.pump)
    (done : pumping.react reaction = some next) : Book busy next.pump := by
  obtain ⟨pump, performed, rfl⟩ := Option.map_eq_some_iff.mp done
  exact invariant_of_run perform (Book busy) Book.perform pumping.pump pump reaction.2 book
    performed

namespace Pumping

variable {σ : Type} {handlers : Handlers σ}

theorem signal_book {pumping next : Pumping σ} {result : WaitManyResult}
    (book : Book none pumping.pump) (signalled : pumping.signal handlers result = some next) :
    Book none next.pump := by
  cases result with
  | controlPipe =>
    cases signalled
    exact book
  | ready handle =>
    simp only [signal] at signalled
    split at signalled
    next entry found => exact react_book (book.record entry.id) signalled
    next => cases signalled
  | failedPrecondition handle =>
    simp only [signal] at signalled
    split at signalled
    next entry found =>
      refine react_book ?_ signalled
      apply book.leave handle .broken
      · intro id
        rfl
      · intro other id _ error
        cases error
        exact ⟨rfl, by simp⟩
      · intro other _ id notified erased
        cases erased
    next => cases signalled
  | deadlineExceeded =>
    cases signalled
    exact book

def Yields (handlers : Handlers σ) (now : Int) (pumping : Pumping σ) (entry : Nat × Handler) :
    Prop :=
  pumping.Due now entry → leavesAdded entry.1 false
    (handlers.onHandleError pumping.state entry.2.handler entry.1 .deadlineExceeded).2 = false

theorem expire_book {now : Int} (pumping : Pumping σ) (entry : Nat × Handler) (next : Pumping σ)
    (book : Book none pumping.pump) (yields : Yields handlers now pumping entry)
    (done : pumping.expire handlers now entry = some next) : Book none next.pump := by
  unfold expire at done
  split at done
  next due =>
    obtain ⟨reacted, reaction, rfl⟩ := Option.map_eq_some_iff.mp done
    obtain ⟨current, found, sameId⟩ := Option.map_eq_some_iff.mp due.2.2
    have expired := book.expired found
    rw [sameId] at expired
    have after := react_book expired reaction
    have logged : .expired entry.2.id ∈ reacted.pump.log :=
      (react_log reaction).subset (by simp [record])
    refine after.finish logged ?_
    obtain ⟨pump, performed, rfl⟩ := Option.map_eq_some_iff.mp reaction
    refine perform_own performed ?_ (yields due)
    intro _ other there
    cases found.symm.trans there
    exact sameId
  next =>
    cases done
    exact book

def AllYield (handlers : Handlers σ) (pumping : Pumping σ) : Event σ → Prop
  | .call _ => True
  | .work result now => ∀ signalled, pumping.signal handlers result = some signalled →
      Meets (expire handlers now) (Yields handlers now) signalled signalled.pump.handlers.entries

theorem step_book (pumping : Pumping σ) (event : Event σ) (next : Pumping σ)
    (book : Book none pumping.pump) (yield : AllYield handlers pumping event)
    (taken : pumping.step handlers event = some next) : Book none next.pump := by
  cases event with
  | call reaction => exact react_book book taken
  | work result now =>
    obtain ⟨signalled, first, loop⟩ := Option.bind_eq_some_iff.mp taken
    exact invariant_of_step (expire handlers now) (Yields handlers now)
      (fun pumping => Book none pumping.pump) expire_book signalled next _
      (signal_book book first) (yield signalled first) loop

def Registered (pumping : Pumping σ) (id : Nat) : Prop :=
  ∃ entry ∈ pumping.pump.handlers.entries, entry.2.id = id

instance (pumping : Pumping σ) (id : Nat) : Decidable (pumping.Registered id) :=
  inferInstanceAs (Decidable (∃ entry ∈ pumping.pump.handlers.entries, _))

def errorCount (log : List Moment) (id : Nat) : Nat :=
  log.countP fun moment => moment.error = some id

theorem errorCount_le_one {log : List Moment} (first : Always FirstError log) (id : Nat) :
    errorCount log id ≤ 1 := by
  induction log using List.reverseRecOn with
  | nil => exact Nat.zero_le 1
  | append_singleton log last ih =>
    have before := ih first.front
    rw [errorCount, List.countP_append, List.countP_singleton]
    split_ifs with error
    · have now := first log last [] rfl id (by simpa using error)
      have none : log.countP (fun moment => moment.error = some id) = 0 := by
        rw [List.countP_eq_zero]
        intro moment member same
        exact now.2 ⟨moment, member, by simpa using same⟩
      omega
    · exact before

-- A registration that is not in the map any more was removed, or it left with an error of its
-- own. It gets one error at most, and none after it has left.
theorem registration_leaves (start : σ) (events : List (Event σ)) (final : Pumping σ)
    (yield : Meets (step handlers) (AllYield handlers) { state := start } events)
    (reached : run (step handlers) { state := start } events = some final) (id : Nat) :
    (.added id ∈ final.pump.log → ¬ final.Registered id →
      .removed id ∈ final.pump.log ∨ .broken id ∈ final.pump.log ∨
        (.expired id ∈ final.pump.log ∧ .erased id id ∈ final.pump.log)) ∧
    errorCount final.pump.log id ≤ 1 ∧
    ∀ before moment after, final.pump.log = before ++ moment :: after →
      moment.error = some id → ¬ Left before id := by
  have book := invariant_of_step (step handlers) (AllYield handlers)
    (fun pumping => Book none pumping.pump) step_book { state := start } final events book_start
    yield reached
  refine ⟨?_, errorCount_le_one book.first id, ?_⟩
  · intro added absent
    rcases book.present id (book.added id added) with ⟨handle, entry, found, same⟩ | left
    · exact absurd ⟨_, (OrderedMap.get?_eq_some _ _ _).mp found, same⟩ absent
    · obtain ⟨moment, member, leaves⟩ := left
      cases moment with
      | added other | ready other | expired other => cases leaves
      | removed other =>
        cases leaves
        exact .inl member
      | broken other =>
        cases leaves
        exact .inr (.inl member)
      | erased other notified =>
        cases leaves
        obtain ⟨before, after, split⟩ := List.append_of_mem member
        obtain ⟨rfl, expired⟩ := book.own before _ after split id notified rfl
        refine .inr (.inr ⟨?_, member⟩)
        rw [split]
        exact List.mem_append_left _ expired
  · intro before moment after split error
    exact (book.first before moment after split id error).1

theorem allYield_of_forall (yield : ∀ state handler handle, leavesAdded handle false
      (handlers.onHandleError state handler handle .deadlineExceeded).2 = false)
    (pumping : Pumping σ) (event : Event σ) : AllYield handlers pumping event := by
  cases event with
  | call reaction => trivial
  | work result now =>
    intro signalled _
    exact meets_of_forall _ _ _ _ fun other entry _ _ => yield other.state _ _

def expiring : List (Event Unit) :=
  [.call ((), [.addHandler 0 5 1]), .work .deadlineExceeded 2]

def stopping : Handlers Unit where
  onHandleReady _ _ handle := ((), [.removeHandler handle])
  onHandleError _ _ handle _ := ((), [.removeHandler handle])

theorem stopping_yields (events : List (Event Unit)) :
    Meets (step stopping) (AllYield stopping) { state := () } events := by
  apply meets_of_forall
  intro pumping event _
  exact allYield_of_forall (fun _ _ _ => rfl) pumping event

theorem registration_leaves_stopping :
    ∃ final, run (step stopping) { state := () } expiring = some final ∧
      final.pump.log = [.added 0, .expired 0, .removed 0] ∧ ¬ final.Registered 0 ∧
      errorCount final.pump.log 0 ≤ 1 :=
  ⟨_, rfl, by decide, by decide,
    (registration_leaves () expiring _ (stopping_yields expiring) rfl 0).2.1⟩

def restarting : Handlers Unit where
  onHandleReady _ _ handle := ((), [.removeHandler handle])
  onHandleError _ handler handle _ :=
    ((), [.removeHandler handle, .addHandler handler handle 9])

theorem restarted_lost :
    ∃ final, run (step restarting) { state := () } expiring = some final ∧
      .added 1 ∈ final.pump.log ∧ ¬ final.Registered 1 ∧
      ¬ (.removed 1 ∈ final.pump.log ∨ .broken 1 ∈ final.pump.log ∨
        (.expired 1 ∈ final.pump.log ∧ .erased 1 1 ∈ final.pump.log)) :=
  ⟨_, rfl, by decide⟩

end Pumping

end MojoMedia
