import Mathlib.Data.List.Perm.Basic
import MojoMedia.Framework.CallbackJoiner
import MojoMedia.Shared.Runs

set_option autoImplicit false

-- The calls of `Prime` and `Flush` are numbered; each has a joiner of its own.
namespace MojoMedia

open Framework

-- `outstanding` are the requests to the consumers of streams that have not been answered, and
-- `lost` those whose consumer has gone away. `ran` are the calls whose callback has been run.
structure StreamJoins where
  callbackJoiner : Nat → CallbackJoiner Nat := fun _ => { }
  calls : Nat := 0
  outstanding : List (Nat × Nat) := []
  lost : List (Nat × Nat) := []
  ran : List Nat := []

namespace StreamJoins

def setJoiner (joins : StreamJoins) (call : Nat) (joiner : CallbackJoiner Nat) : StreamJoins :=
  { joins with callbackJoiner := Function.update joins.callbackJoiner call joiner }

def run (joins : StreamJoins) (callback : Option Nat) : StreamJoins :=
  { joins with ran := joins.ran ++ callback.toList }

def complete (joins : StreamJoins) (call : Nat) : Option StreamJoins := do
  let completed ← (joins.callbackJoiner call).complete
  some ((joins.setJoiner call completed.1).run completed.2)

-- `bound` says of each stream whether it has a producer that is connected to a consumer. Other
-- streams run the callback at once.
def connections (call : Nat) : Nat → List Bool → StreamJoins → Option StreamJoins
  | _, [], joins => some joins
  | index, bound :: rest, joins => do
    let spawned := joins.setJoiner call (joins.callbackJoiner call).spawn
    let asked ←
      if bound then some { spawned with outstanding := spawned.outstanding ++ [(call, index)] }
      else spawned.complete call
    connections call (index + 1) rest asked

-- `MediaSourceImpl::Prime`, `MediaSourceImpl::Flush`, `MediaDemuxImpl::Prime` and
-- `MediaDemuxImpl::Flush`. What a flush does to the graph comes before.
def join (joins : StreamJoins) (streams : List Bool) : Option StreamJoins := do
  let call := joins.calls
  let created := ({ joins with calls := call + 1 } : StreamJoins).setJoiner call { }
  let asked ← connections call 0 streams created
  let joined ← (asked.callbackJoiner call).whenJoined call
  some ((asked.setJoiner call joined.1).run joined.2)

inductive Event where
  | join (streams : List Bool)
  | answer (position : Nat)
  | disconnect (position : Nat)
  deriving Repr, DecidableEq

def step (joins : StreamJoins) : Event → Option StreamJoins
  | .join streams => joins.join streams
  | .answer position =>
    match joins.outstanding[position]? with
    | some (call, _) =>
      { joins with outstanding := joins.outstanding.eraseIdx position }.complete call
    | none => some joins
  | .disconnect position =>
    match joins.outstanding[position]? with
    | some request =>
      some { joins with
        outstanding := joins.outstanding.eraseIdx position
        lost := joins.lost ++ [request] }
    | none => some joins

def missing (joins : StreamJoins) (call : Nat) : Nat :=
  (joins.outstanding ++ joins.lost).countP (·.1 = call)

@[simp] theorem missing_setJoiner (joins : StreamJoins) (call : Nat)
    (joiner : CallbackJoiner Nat) : (joins.setJoiner call joiner).missing = joins.missing := rfl

@[simp] theorem missing_run (joins : StreamJoins) (callback : Option Nat) :
    (joins.run callback).missing = joins.missing := rfl

structure Joined (joins : StreamJoins) : Prop where
  waits : ∀ call < joins.calls,
    (joins.callbackJoiner call).Waits (joins.missing call) call
  ran : ∀ call, joins.ran.count call =
    if call < joins.calls ∧ joins.missing call = 0 then 1 else 0
  made : ∀ call, joins.calls ≤ call → joins.missing call = 0

theorem joined_start : Joined { } := by
  refine ⟨?_, ?_, ?_⟩
  · intro call made
    exact absurd made (Nat.not_lt_zero call)
  · intro call
    rfl
  · intro call _
    rfl

structure Asks (call : Nat) (joins next : StreamJoins) : Prop where
  counter : (next.callbackJoiner call).counter = next.missing call
  unregistered : (next.callbackJoiner call).joinCallback = none
  callbackJoiner : ∀ other, other ≠ call → next.callbackJoiner other = joins.callbackJoiner other
  missing : ∀ other, other ≠ call → next.missing other = joins.missing other
  calls : next.calls = joins.calls
  ran : next.ran = joins.ran

theorem missing_ask (joins : StreamJoins) (call index other : Nat) :
    ({ joins with outstanding := joins.outstanding ++ [(call, index)] } : StreamJoins).missing
      other = joins.missing other + if call = other then 1 else 0 := by
  simp only [missing, List.countP_append, List.countP_cons, List.countP_nil, decide_eq_true_eq]
  omega

theorem connections_asks {call index : Nat} {streams : List Bool} {joins asked : StreamJoins}
    (asks : Asks call joins asked) :
    ∃ next, connections call index streams asked = some next ∧ Asks call joins next := by
  induction streams generalizing index asked with
  | nil => exact ⟨asked, rfl, asks⟩
  | cons bound rest ih =>
    cases bound with
    | true =>
      simp only [connections, if_true, Option.bind_eq_bind, Option.bind_some]
      apply ih
      refine ⟨?_, ?_, ?_, ?_, asks.calls, asks.ran⟩
      · rw [missing_ask, if_pos rfl]
        simpa [setJoiner, CallbackJoiner.spawn, missing] using asks.counter
      · simpa [setJoiner, CallbackJoiner.spawn] using asks.unregistered
      · intro other different
        simpa [setJoiner, different] using asks.callbackJoiner other different
      · intro other different
        rw [missing_ask, if_neg different.symm]
        exact asks.missing other different
    | false =>
      have spawned : ((asked.callbackJoiner call).spawn).complete =
          some ({ counter := (asked.callbackJoiner call).counter }, none) :=
        CallbackJoiner.complete_unregistered asks.unregistered (Nat.succ_ne_zero _)
      simp only [connections, complete, setJoiner, Function.update_self, Bool.false_eq_true,
        if_false, spawned, Option.bind_eq_bind, Option.bind_some, run, Option.toList_none,
        List.append_nil, Function.update_idem]
      apply ih
      refine ⟨?_, ?_, ?_, asks.missing, asks.calls, asks.ran⟩
      · simpa [missing] using asks.counter
      · simp
      · intro other different
        simpa [different] using asks.callbackJoiner other different

theorem count_run (joins : StreamJoins) (call other : Nat) (done : Prop) [Decidable done] :
    (joins.run (if done then some call else none)).ran.count other =
      joins.ran.count other + if done ∧ call = other then 1 else 0 := by
  by_cases done : done <;> simp [run, done, List.count_singleton]

theorem Joined.join {joins : StreamJoins} (joined : Joined joins) (streams : List Bool) :
    ∃ next, joins.join streams = some next ∧ Joined next := by
  have created : Asks joins.calls { joins with calls := joins.calls + 1 }
      (({ joins with calls := joins.calls + 1 } : StreamJoins).setJoiner joins.calls { }) := by
    refine ⟨?_, ?_, ?_, fun _ _ => rfl, rfl, rfl⟩
    · simp only [setJoiner, Function.update_self]
      exact (joined.made joins.calls (Nat.le_refl _)).symm
    · simp [setJoiner]
    · intro other different
      simp [setJoiner, different]
  obtain ⟨asked, connected, asks⟩ := @connections_asks joins.calls 0 streams _ _ created
  obtain ⟨joiner, registered, waits⟩ :=
    CallbackJoiner.whenJoined_unregistered joins.calls asks.unregistered
  rw [asks.counter] at registered waits
  have others (call : Nat) (different : call ≠ joins.calls) :
      asked.missing call = joins.missing call := asks.missing call different
  have calls : asked.calls = joins.calls + 1 := asks.calls
  refine ⟨(asked.setJoiner joins.calls joiner).run
    (if asked.missing joins.calls = 0 then some joins.calls else none), ?_, ?_, ?_, ?_⟩
  · simp only [StreamJoins.join, connected, registered, Option.bind_eq_bind, Option.bind_some]
  · intro call made
    have made : call < joins.calls + 1 := calls ▸ made
    rw [missing_run, missing_setJoiner]
    by_cases here : call = joins.calls
    · subst here
      simpa [run, setJoiner] using waits
    · have earlier := joined.waits call (by omega)
      simpa [run, setJoiner, here, asks.callbackJoiner call here, others call here] using earlier
  · intro call
    have reached : ((asked.setJoiner joins.calls joiner).run
        (if asked.missing joins.calls = 0 then some joins.calls else none)).calls =
        joins.calls + 1 := asks.calls
    have before : (asked.setJoiner joins.calls joiner).ran = joins.ran := asks.ran
    rw [count_run, before, joined.ran, missing_run, missing_setJoiner, reached]
    by_cases here : call = joins.calls
    · subst here
      simp
    · have made : call < joins.calls + 1 ↔ call < joins.calls := by omega
      simp only [others call here, made, Ne.symm here, and_false, if_false, Nat.add_zero]
  · intro call unmade
    have unmade : joins.calls + 1 ≤ call := calls ▸ unmade
    rw [missing_run, missing_setJoiner, others call (by omega)]
    exact joined.made call (by omega)

theorem missing_eraseIdx {joins : StreamJoins} {position : Nat} {request : Nat × Nat}
    (requested : joins.outstanding[position]? = some request) (other : Nat) :
    joins.missing other =
      ({ joins with outstanding := joins.outstanding.eraseIdx position } :
        StreamJoins).missing other + if request.1 = other then 1 else 0 := by
  obtain ⟨inside, found⟩ := List.getElem?_eq_some_iff.mp requested
  have split := (List.getElem_cons_eraseIdx_perm inside).countP_eq (fun request => request.1 = other)
  rw [found, List.countP_cons] at split
  simp only [missing, List.countP_append, ← split, decide_eq_true_eq]
  omega

theorem Joined.answer {joins : StreamJoins} (joined : Joined joins) {position : Nat}
    {request : Nat × Nat} (requested : joins.outstanding[position]? = some request) :
    ∃ next, ({ joins with outstanding := joins.outstanding.eraseIdx position } :
      StreamJoins).complete request.1 = some next ∧ Joined next := by
  obtain ⟨call, stream⟩ := request
  set erased : StreamJoins := { joins with outstanding := joins.outstanding.eraseIdx position }
    with erased_eq
  have total := missing_eraseIdx requested
  simp only [← erased_eq] at total
  have made : call < joins.calls := by
    by_contra unmade
    have := joined.made call (by omega)
    rw [total call, if_pos rfl] at this
    omega
  have waits := joined.waits call made
  rw [total call, if_pos rfl] at waits
  obtain ⟨joiner, completed, left⟩ := CallbackJoiner.complete_waits waits
  refine ⟨(erased.setJoiner call joiner).run
    (if erased.missing call = 0 then some call else none), ?_, ?_, ?_, ?_⟩
  · have same : erased.callbackJoiner call = joins.callbackJoiner call := rfl
    simp only [complete, same, completed, Option.bind_eq_bind, Option.bind_some]
  · intro other also
    rw [missing_run, missing_setJoiner]
    by_cases here : other = call
    · subst here
      simpa [run, setJoiner] using left
    · have before := joined.waits other also
      rw [total other, if_neg (Ne.symm here), Nat.add_zero] at before
      simpa [run, setJoiner, here] using before
  · intro other
    have before : (erased.setJoiner call joiner).ran = joins.ran := rfl
    have calls : ((erased.setJoiner call joiner).run
        (if erased.missing call = 0 then some call else none)).calls = joins.calls := rfl
    rw [count_run, before, joined.ran, missing_run, missing_setJoiner, calls, total other]
    by_cases here : call = other
    · subst here
      simp [made]
    · simp [here]
  · intro other unmade
    have before := joined.made other unmade
    rw [total other] at before
    rw [missing_run, missing_setJoiner]
    omega

theorem joined_step {joins : StreamJoins} (joined : Joined joins) (event : Event) :
    ∃ next, joins.step event = some next ∧ Joined next := by
  cases event with
  | join streams => exact joined.join streams
  | answer position =>
    cases requested : joins.outstanding[position]? with
    | none => exact ⟨joins, by simp [step, requested], joined⟩
    | some request =>
      obtain ⟨next, completed, after⟩ := joined.answer requested
      exact ⟨next, by simp [step, requested, completed], after⟩
  | disconnect position =>
    cases requested : joins.outstanding[position]? with
    | none => exact ⟨joins, by simp [step, requested], joined⟩
    | some request =>
      -- The request is still missing.
      have same (call : Nat) : ({ joins with
          outstanding := joins.outstanding.eraseIdx position
          lost := joins.lost ++ [request] } : StreamJoins).missing call = joins.missing call := by
        rw [missing_eraseIdx requested]
        simp only [missing, List.countP_append, List.countP_cons, List.countP_nil,
          decide_eq_true_eq]
        omega
      refine ⟨_, by simp only [step, requested]; rfl, ?_, ?_, ?_⟩
      · intro call made
        rw [same]
        exact joined.waits call made
      · intro call
        rw [same]
        exact joined.ran call
      · intro call unmade
        rw [same]
        exact joined.made call unmade

-- Whatever the order in which the streams of several calls answer, also at once, no assertion of
-- a joiner fails, and the callback of each call is run once when all its streams have answered,
-- and not before.
theorem callbacks_run_once (events : List Event) :
    ∃ final, Runs.run step { } events = some final ∧
      ∀ call, final.ran.count call =
        if call < final.calls ∧
            ∀ request ∈ final.outstanding ++ final.lost, request.1 ≠ call then 1
        else 0 := by
  obtain ⟨final, reached, joined⟩ := Runs.run_of_step step (fun _ _ => True) Joined
    (fun _ event joined _ => joined_step joined event) { } events joined_start
    (Runs.meets_of_forall step _ { } events fun _ _ _ => trivial)
  refine ⟨final, reached, fun call => ?_⟩
  rw [joined.ran]
  refine if_congr (and_congr_right fun _ => ?_) rfl rfl
  rw [missing, List.countP_eq_zero]
  simp only [decide_eq_true_eq, ne_eq]

end StreamJoins

end MojoMedia
