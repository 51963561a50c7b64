import Mathlib.Data.Finset.Card
import Mathlib.Data.List.Perm.Basic
import MojoMedia.FactoryService.PlayerStartup

set_option autoImplicit false

namespace MojoMedia.PlayerStartup

open Framework

variable {startup next : PlayerStartup}

def indices (startup : PlayerStartup) : List Nat := startup.pending.map StartupCall.index

def isSinkCall (index : Nat) : StartupCall → Bool
  | .getOutputType other | .connectSink other => other = index
  | .connectDecoder _ => false

structure Streams (startup : PlayerStartup) : Prop where
  asked : ∀ call ∈ startup.pending, ∃ stream, startup.player.streams[call.index]? = some stream ∧
    stream.enabled = true
  decoders : ∀ call ∈ startup.pending, startup.compressed call.index = false →
    call = .connectSink call.index
  sinks : ∀ index stream, startup.player.streams[index]? = some stream → stream.enabled = true →
    startup.pending.countP (isSinkCall index) = if stream.state = .unprepared then 1 else 0
  states : ∀ stream ∈ startup.player.streams,
    stream.state = .unprepared ∨ stream.state.isPrepared = true

def Joiners (startup : PlayerStartup) (except : Nat → Prop) : Prop :=
  ∀ index ∈ startup.indices, startup.compressed index = true → ¬ except index →
    (startup.streamJoiner index).Waits (startup.indices.count index) ()

structure Waiting (startup : PlayerStartup) : Prop where
  joined : startup.player.joined = false
  state : startup.player.state = .waiting
  reported : startup.player.reportedMediaState = .unprepared
  demux : startup.player.pending = []
  factory : startup.factory = true
  preparations : startup.preparations = 0

structure Started (startup : PlayerStartup) : Prop where
  described : startup.player.described = true
  streams : Streams startup
  joiners : Joiners startup fun _ => False
  outer : startup.callbackJoiner.Waits startup.indices.toFinset.card ()
  waiting : startup.pending ≠ [] → Waiting startup
  prepared : startup.pending = [] → startup.player.joined = true ∧ startup.preparations = 1

structure Undescribed (startup : PlayerStartup) : Prop where
  described : startup.player.described = false
  waiting : Waiting startup
  pending : startup.pending = []
  streams : startup.player.streams = []
  mediaTypes : startup.mediaTypes = []

def Refines (startup next : PlayerStartup) : Prop :=
  ∃ events, Runs.run MediaPlayer.step startup.player events = some next.player

theorem Refines.refl (startup : PlayerStartup) : Refines startup startup := ⟨[], rfl⟩

theorem Refines.trans {last : PlayerStartup} (first : Refines startup next)
    (second : Refines next last) : Refines startup last := by
  obtain ⟨events, reached⟩ := first
  obtain ⟨more, later⟩ := second
  refine ⟨events ++ more, ?_⟩
  rw [Runs.run_append, reached, Option.bind_some, later]

theorem refines_step (event : MediaPlayer.Event)
    (taken : startup.player.step event = some next.player) : Refines startup next :=
  ⟨[event], by simp [Runs.run, taken]⟩

theorem all_prepared (streams : Streams startup) (none : startup.pending = []) :
    (startup.player.streams.all fun stream => !stream.enabled || stream.state.isPrepared) =
      true := by
  rw [List.all_eq_true]
  intro stream member
  cases enabled : stream.enabled with
  | false => rfl
  | true =>
    obtain ⟨index, inside, found⟩ := List.getElem_of_mem member
    have count := streams.sinks index stream (List.getElem?_eq_some_iff.mpr ⟨inside, found⟩) enabled
    rw [none, List.countP_nil] at count
    have connected : stream.state ≠ .unprepared := fun unprepared => by simp [unprepared] at count
    simpa using (streams.states stream member).resolve_left connected

theorem whenPrepared_refines (described : startup.player.described = true)
    (waiting : Waiting startup) (streams : Streams startup) (none : startup.pending = []) :
    Refines startup startup.whenPrepared := by
  apply refines_step .joined
  simp only [MediaPlayer.step, MediaPlayer.deliver, described, waiting.joined,
    all_prepared streams none]
  rfl

structure SameStreams (player other : MediaPlayer) : Prop where
  streams : other.streams = player.streams
  described : other.described = player.described
  joined : other.joined = player.joined

theorem SameStreams.trans {player middle last : MediaPlayer} (first : SameStreams player middle)
    (second : SameStreams middle last) : SameStreams player last where
  streams := second.streams.trans first.streams
  described := second.described.trans first.described
  joined := second.joined.trans first.joined

theorem same_whenPausedAndSeeking (player : MediaPlayer) :
    SameStreams player player.whenPausedAndSeeking := by
  unfold MediaPlayer.whenPausedAndSeeking
  split <;> exact ⟨rfl, rfl, rfl⟩

theorem same_again (player other : MediaPlayer) (pass : player.updatePass = .again other) :
    SameStreams player other := by
  unfold MediaPlayer.updatePass at pass
  split at pass
  next =>
    split_ifs at pass <;> cases pass
    · exact same_whenPausedAndSeeking player
    · exact ⟨rfl, rfl, rfl⟩
  next => split_ifs at pass
  next => split_ifs at pass <;> cases pass <;> exact ⟨rfl, rfl, rfl⟩
  next => split_ifs at pass <;> cases pass <;> exact ⟨rfl, rfl, rfl⟩
  next => cases pass

theorem same_done (player other : MediaPlayer) (pass : player.updatePass = .done other) :
    SameStreams player other := by
  unfold MediaPlayer.updatePass at pass
  split at pass
  next => split_ifs at pass <;> cases pass <;> exact ⟨rfl, rfl, rfl⟩
  next =>
    split_ifs at pass <;> cases pass
    · split <;> exact ⟨rfl, rfl, rfl⟩
    · exact ⟨rfl, rfl, rfl⟩
  next =>
    split_ifs at pass
    cases pass
    exact ⟨rfl, rfl, rfl⟩
  next =>
    split_ifs at pass
    cases pass
    exact ⟨rfl, rfl, rfl⟩
  next =>
    cases pass
    exact ⟨rfl, rfl, rfl⟩

theorem same_update (player : MediaPlayer) : SameStreams player player.update := by
  apply MediaPlayer.update_keeps (SameStreams player) (SameStreams player) _ _ player ⟨rfl, rfl, rfl⟩
  · exact fun before after same pass => same.trans (same_again before after pass)
  · exact fun before after same pass => same.trans (same_done before after pass)

theorem started_whenPrepared (described : startup.player.described = true)
    (waiting : Waiting startup) (streams : Streams startup) (none : startup.pending = [])
    (outer : startup.callbackJoiner.Waits 0 ()) : Started startup.whenPrepared := by
  have same := same_update ({ startup.player.setReportedMediaState .paused with
    state := .paused
    joined := true } : MediaPlayer)
  have kept : startup.whenPrepared.player.streams = startup.player.streams := same.streams
  have pending : startup.whenPrepared.pending = [] := none
  have sinks := streams.sinks
  have states := streams.states
  rw [← kept] at sinks states
  refine ⟨same.described.trans described, ⟨?_, ?_, sinks, states⟩, ?_, ?_, ?_, ?_⟩
  · simp [pending]
  · simp [pending]
  · simp [Joiners, indices, pending]
  · rw [indices, pending]
    exact outer
  · exact fun some => absurd pending some
  · exact fun _ => ⟨same.joined, congrArg Nat.succ waiting.preparations⟩

structure Completing (index : Nat) (startup : PlayerStartup) : Prop where
  described : startup.player.described = true
  streams : Streams startup
  joiners : Joiners startup (· = index)
  own : startup.compressed index = true →
    (startup.streamJoiner index).Waits (startup.indices.count index + 1) ()
  alone : startup.compressed index = false → index ∉ startup.indices
  outer : startup.callbackJoiner.Waits (insert index startup.indices.toFinset).card ()
  waiting : Waiting startup

theorem streamJoiner_self (startup : PlayerStartup) (index : Nat) (joiner : CallbackJoiner Unit) :
    (startup.setStreamJoiner index joiner).streamJoiner index = joiner :=
  Function.update_self ..

theorem streamJoiner_other {index other : Nat} (joiner : CallbackJoiner Unit)
    (different : other ≠ index) :
    (startup.setStreamJoiner index joiner).streamJoiner other = startup.streamJoiner other :=
  Function.update_of_ne different ..

def complete (index : Nat) (startup : PlayerStartup) : Option PlayerStartup :=
  if startup.compressed index then startup.completeChild index else startup.completeStream

theorem completeStream_started {index : Nat} (described : startup.player.described = true)
    (streams : Streams startup) (joiners : Joiners startup fun _ => False)
    (gone : index ∉ startup.indices)
    (outer : startup.callbackJoiner.Waits (insert index startup.indices.toFinset).card ())
    (waiting : Waiting startup) :
    ∃ next, startup.completeStream = some next ∧ Started next ∧ Refines startup next := by
  rw [Finset.card_insert_of_notMem (by simpa using gone)] at outer
  obtain ⟨joiner, completed, left⟩ := CallbackJoiner.complete_waits outer
  simp only [completeStream, completed, Option.bind_eq_bind, Option.bind_some]
  by_cases last : startup.pending = []
  · have noIndices : startup.indices.toFinset.card = 0 := by simp [indices, last]
    rw [noIndices] at left ⊢
    simp only [if_true, runPrepared]
    have streams : Streams { startup with callbackJoiner := joiner } :=
      ⟨streams.asked, streams.decoders, streams.sinks, streams.states⟩
    have waiting : Waiting { startup with callbackJoiner := joiner } :=
      ⟨waiting.joined, waiting.state, waiting.reported, waiting.demux, waiting.factory,
        waiting.preparations⟩
    have refines := @whenPrepared_refines { startup with callbackJoiner := joiner } described
      waiting streams last
    exact ⟨_, rfl, started_whenPrepared described waiting streams last left, refines⟩
  · have some : startup.indices.toFinset.card ≠ 0 := by simp [indices, last]
    simp only [if_neg some, runPrepared]
    refine ⟨_, rfl, ⟨described, ?_, joiners, left, fun _ => ?_, fun none => absurd none last⟩,
      .refl _⟩
    · exact ⟨streams.asked, streams.decoders, streams.sinks, streams.states⟩
    · exact ⟨waiting.joined, waiting.state, waiting.reported, waiting.demux, waiting.factory,
        waiting.preparations⟩

theorem Completing.complete {index : Nat} (completing : Completing index startup) :
    ∃ next, complete index startup = some next ∧ Started next ∧ Refines startup next := by
  by_cases through : startup.compressed index = true
  · obtain ⟨joiner, completed, left⟩ := CallbackJoiner.complete_waits (completing.own through)
    simp only [PlayerStartup.complete, through, if_true, completeChild, completed,
      Option.bind_eq_bind, Option.bind_some]
    -- Only the joiner of the stream has changed.
    set counted := startup.setStreamJoiner index joiner with counted_eq
    have streams : Streams counted := ⟨completing.streams.asked, completing.streams.decoders,
      completing.streams.sinks, completing.streams.states⟩
    have waiting : Waiting counted := ⟨completing.waiting.joined, completing.waiting.state,
      completing.waiting.reported, completing.waiting.demux, completing.waiting.factory,
      completing.waiting.preparations⟩
    have joiners : Joiners counted fun _ => False := by
      intro other member compressed _
      by_cases here : other = index
      · subst here
        exact (streamJoiner_self startup other joiner).symm ▸ left
      · rw [counted_eq, streamJoiner_other joiner here]
        exact completing.joiners other member compressed here
    by_cases last : startup.indices.count index = 0
    · rw [if_pos last]
      exact completeStream_started completing.described streams joiners
        (List.count_eq_zero.mp last) completing.outer waiting
    · rw [if_neg last]
      have member : index ∈ startup.indices := List.count_pos_iff.mp (Nat.pos_of_ne_zero last)
      have outer := completing.outer
      rw [Finset.insert_eq_of_mem (List.mem_toFinset.mpr member)] at outer
      refine ⟨counted, rfl, ⟨completing.described, streams, joiners, outer, fun _ => waiting, ?_⟩,
        .refl _⟩
      intro none
      have pending : startup.pending = [] := none
      simp [indices, pending] at member
  · simp only [PlayerStartup.complete, if_neg through]
    have gone := completing.alone (by simpa using through)
    refine completeStream_started completing.described completing.streams ?_ gone completing.outer
      completing.waiting
    intro other member compressed _
    exact completing.joiners other member compressed fun same => gone (same ▸ member)

theorem Completing.completeChild {index : Nat} (completing : Completing index startup)
    (through : startup.compressed index = true) :
    ∃ next, startup.completeChild index = some next ∧ Started next ∧ Refines startup next := by
  simpa only [PlayerStartup.complete, if_pos through] using completing.complete

def erase (startup : PlayerStartup) (position : Nat) : PlayerStartup :=
  { startup with pending := startup.pending.eraseIdx position }

structure Erased (call : StartupCall) (startup erased : PlayerStartup) : Prop where
  members : ∀ other ∈ erased.pending, other ∈ startup.pending
  sinks : ∀ index, startup.pending.countP (isSinkCall index) =
    erased.pending.countP (isSinkCall index) + if isSinkCall index call then 1 else 0
  own : startup.indices.count call.index = erased.indices.count call.index + 1
  others : ∀ index, index ≠ call.index →
    startup.indices.count index = erased.indices.count index
  toFinset : startup.indices.toFinset = insert call.index erased.indices.toFinset

theorem erased_of_getElem? {position : Nat} {call : StartupCall}
    (pending : startup.pending[position]? = some call) :
    Erased call startup (startup.erase position) := by
  obtain ⟨inside, found⟩ := List.getElem?_eq_some_iff.mp pending
  have perm := List.getElem_cons_eraseIdx_perm inside
  rw [found] at perm
  have indices := perm.map StartupCall.index
  rw [List.map_cons] at indices
  refine ⟨fun other member => (List.eraseIdx_subset ..) member, ?_, ?_, ?_, ?_⟩
  · intro index
    rw [← perm.countP_eq, List.countP_cons]
    rfl
  · rw [PlayerStartup.indices, ← indices.count_eq, List.count_cons_self]
    rfl
  · intro index different
    rw [PlayerStartup.indices, ← indices.count_eq, List.count_cons_of_ne different.symm]
    rfl
  · rw [PlayerStartup.indices, ← List.toFinset_eq_of_perm _ _ indices, List.toFinset_cons]
    rfl

theorem Waiting.erase (waiting : Waiting startup) (position : Nat) :
    Waiting (startup.erase position) :=
  ⟨waiting.joined, waiting.state, waiting.reported, waiting.demux, waiting.factory,
    waiting.preparations⟩

theorem Streams.through {call : StartupCall} (streams : Streams startup)
    (member : call ∈ startup.pending) (decoder : call ≠ .connectSink call.index) :
    startup.compressed call.index = true := by
  by_contra direct
  exact decoder (streams.decoders call member (Bool.eq_false_iff.mpr direct))

theorem Started.children {call : StartupCall} (started : Started startup)
    (member : call ∈ startup.pending) (through : startup.compressed call.index = true) :
    (startup.streamJoiner call.index).Waits (startup.indices.count call.index) () :=
  started.joiners call.index (List.mem_map_of_mem member) through not_false

theorem completing_connectDecoder {position index : Nat} (started : Started startup)
    (pending : startup.pending[position]? = some (.connectDecoder index)) :
    Completing index (startup.erase position) := by
  have member := List.mem_of_getElem? pending
  have erased := erased_of_getElem? pending
  have own : startup.indices.count index = (startup.erase position).indices.count index + 1 :=
    erased.own
  have through : startup.compressed index = true := started.streams.through member nofun
  refine ⟨started.described, ⟨?_, ?_, ?_, started.streams.states⟩, ?_, ?_, ?_, ?_,
    (started.waiting (List.ne_nil_of_mem member)).erase position⟩
  · exact fun call left => started.streams.asked call (erased.members call left)
  · exact fun call left => started.streams.decoders call (erased.members call left)
  · intro other stream found enabled
    have count := erased.sinks other
    rw [if_neg (by simp [isSinkCall]), Nat.add_zero] at count
    exact count ▸ started.streams.sinks other stream found enabled
  · intro other left compressed different
    obtain ⟨call, present, rfl⟩ := List.mem_map.mp left
    exact erased.others _ different ▸ started.children (erased.members call present) compressed
  · exact fun _ => own ▸ started.children member through
  · intro direct
    exact absurd (through.symm.trans direct) Bool.noConfusion
  · exact erased.toFinset ▸ started.outer

theorem completing_getOutputType {position index : Nat} (started : Started startup)
    (pending : startup.pending[position]? = some (.getOutputType index)) :
    Completing index (((startup.erase position).setStreamJoiner index
      (startup.streamJoiner index).spawn).ask (.connectSink index)) := by
  have member := List.mem_of_getElem? pending
  have erased := erased_of_getElem? pending
  have own : startup.indices.count index = (startup.erase position).indices.count index + 1 :=
    erased.own
  have through : startup.compressed index = true := started.streams.through member nofun
  have waiting := (started.waiting (List.ne_nil_of_mem member)).erase position
  set asked := ((startup.erase position).setStreamJoiner index
    (startup.streamJoiner index).spawn).ask (.connectSink index) with asked_eq
  have calls : asked.pending = (startup.erase position).pending ++ [.connectSink index] := rfl
  have indices : asked.indices = (startup.erase position).indices ++ [index] := by
    simp [PlayerStartup.indices, calls, StartupCall.index]
  have cases (call : StartupCall) (left : call ∈ asked.pending) :
      call ∈ startup.pending ∨ call = .connectSink index := by
    rw [calls, List.mem_append, List.mem_singleton] at left
    exact left.imp_left (erased.members call)
  refine ⟨started.described, ⟨?_, ?_, ?_, started.streams.states⟩, ?_, ?_, ?_, ?_,
    ⟨waiting.joined, waiting.state, waiting.reported, waiting.demux, waiting.factory,
      waiting.preparations⟩⟩
  · intro call left
    rcases cases call left with before | rfl
    · exact started.streams.asked call before
    · exact (started.streams.asked (.getOutputType index) member :)
  · intro call left direct
    rcases cases call left with before | rfl
    · exact started.streams.decoders call before direct
    · rfl
  · intro other stream found enabled
    have count := erased.sinks other
    have same : asked.pending.countP (isSinkCall other) =
        startup.pending.countP (isSinkCall other) := by
      rw [calls, List.countP_append, count, List.countP_singleton]
      rfl
    exact same ▸ started.streams.sinks other stream found enabled
  · intro other left compressed different
    rw [indices] at left ⊢
    rw [List.mem_append, List.mem_singleton] at left
    obtain ⟨call, present, rfl⟩ := List.mem_map.mp (left.resolve_right different)
    have same : asked.streamJoiner call.index = startup.streamJoiner call.index :=
      streamJoiner_other _ different
    have notHere : call.index ∉ [index] := by simpa using different
    rw [List.count_append, List.count_eq_zero_of_not_mem notHere, Nat.add_zero, same,
      ← erased.others _ different]
    exact started.children (erased.members call present) compressed
  · intro _
    have joiner : asked.streamJoiner index = (startup.streamJoiner index).spawn :=
      streamJoiner_self ..
    have waits := started.children member through
    simp only [StartupCall.index, own] at waits
    rw [joiner, indices, List.count_append, List.count_singleton_self]
    exact CallbackJoiner.spawn_waits waits
  · intro direct
    exact absurd (through.symm.trans direct) Bool.noConfusion
  · have outer := started.outer
    have set : insert index asked.indices.toFinset = startup.indices.toFinset := by
      rw [erased.toFinset, indices]
      ext other
      simp [StartupCall.index]
    exact set ▸ outer

theorem completing_connectSink {position index : Nat} {stream : PlayerStream}
    (started : Started startup) (pending : startup.pending[position]? = some (.connectSink index))
    (found : startup.player.streams[index]? = some stream) :
    Completing index ((startup.erase position).connected index stream) := by
  have member := List.mem_of_getElem? pending
  have erased := erased_of_getElem? pending
  have own : startup.indices.count index = (startup.erase position).indices.count index + 1 :=
    erased.own
  have waiting := (started.waiting (List.ne_nil_of_mem member)).erase position
  obtain ⟨inside, -⟩ := List.getElem?_eq_some_iff.mp found
  have enabled : stream.enabled = true := by
    obtain ⟨other, also, enabled⟩ := started.streams.asked _ member
    exact Option.some.inj (also.symm.trans found) ▸ enabled
  have streamAt (other : Nat) :
      ((startup.erase position).connected index stream).player.streams[other]? =
        if index = other then some { stream with state := .paused }
        else startup.player.streams[other]? := by
    simp only [connected, erase, List.getElem?_set, inside, if_true]
  -- It was the last of the calls that lead to this sink.
  have noSink : (startup.erase position).pending.countP (isSinkCall index) = 0 := by
    have before := started.streams.sinks index stream found enabled
    have one := erased.sinks index
    rw [if_pos (by simp [isSinkCall])] at one
    split at before <;> omega
  refine ⟨started.described, ⟨?_, ?_, ?_, ?_⟩, ?_, ?_, ?_, ?_,
    ⟨waiting.joined, waiting.state, waiting.reported, waiting.demux, waiting.factory,
      waiting.preparations⟩⟩
  · intro call left
    rw [streamAt]
    split
    · exact ⟨_, rfl, enabled⟩
    · exact started.streams.asked call (erased.members call left)
  · exact fun call left => started.streams.decoders call (erased.members call left)
  · intro other after present also
    rw [streamAt] at present
    split at present
    next here =>
      subst here
      cases present
      exact noSink
    next elsewhere =>
      have count := erased.sinks other
      rw [if_neg (by simpa [isSinkCall] using elsewhere), Nat.add_zero] at count
      exact count ▸ started.streams.sinks other after present also
  · intro other present
    rcases List.mem_or_eq_of_mem_set present with before | rfl
    · exact started.streams.states other before
    · exact .inr rfl
  · intro other left compressed different
    obtain ⟨call, present, rfl⟩ := List.mem_map.mp left
    exact erased.others _ different ▸ started.children (erased.members call present) compressed
  · exact fun through => own ▸ started.children member through
  · intro direct left
    obtain ⟨call, present, here⟩ := List.mem_map.mp left
    have sink := started.streams.decoders call (erased.members call present) (here ▸ direct)
    rw [here] at sink
    subst sink
    exact absurd (List.countP_eq_zero.mp noSink _ present) (by simp [isSinkCall])
  · exact erased.toFinset ▸ started.outer

theorem answer_started {position : Nat} {call : StartupCall} (started : Started startup)
    (pending : startup.pending[position]? = some call) :
    ∃ next, (startup.erase position).answer call = some next ∧ Started next ∧
      Refines startup next := by
  have member := List.mem_of_getElem? pending
  have waiting := started.waiting (List.ne_nil_of_mem member)
  cases call with
  | connectDecoder index =>
    have through : startup.compressed index = true := started.streams.through member nofun
    exact (completing_connectDecoder started pending).completeChild through
  | getOutputType index =>
    have through : startup.compressed index = true := started.streams.through member nofun
    obtain ⟨next, completed, done⟩ :=
      (completing_getOutputType started pending).completeChild through
    refine ⟨next, ?_, done⟩
    have factory : ((startup.erase position).setStreamJoiner index
        ((startup.erase position).streamJoiner index).spawn).factory = true := waiting.factory
    simp only [answer, createSink, factory, if_true, Option.bind_eq_bind, Option.bind_some]
    exact completed
  | connectSink index =>
    obtain ⟨stream, found, enabled⟩ := started.streams.asked _ member
    obtain ⟨next, completed, done, refines⟩ :=
      (completing_connectSink started pending found).complete
    have unprepared : stream.state = .unprepared := by
      by_contra prepared
      have none := started.streams.sinks index stream found enabled
      rw [if_neg prepared, List.countP_eq_zero] at none
      exact absurd (none _ member) (by simp [isSinkCall])
    have reported : (startup.erase position).player.reportedMediaState = .unprepared :=
      waiting.reported
    refine ⟨next, ?_, done, Refines.trans (refines_step (.connected index) ?_) refines⟩
    · have found : (startup.erase position).player.streams[index]? = some stream := found
      simp only [answer, found, unprepared, reported, true_or, and_self, if_true,
        Option.bind_eq_bind, Option.bind_some]
      exact completed
    · simp only [MediaPlayer.step, MediaPlayer.deliver, StartupCall.index] at found ⊢
      simp [found, enabled, unprepared, MediaPlayer.settle, connected, erase]

def described (player : MediaPlayer) (mediaTypes : List Mojo.MediaType) : MediaPlayer :=
  { player with
    streams := mediaTypes.map fun mediaType => { enabled := isEnabled mediaType }
    described := true }

structure Describing (player : MediaPlayer) (startup : PlayerStartup) : Prop where
  player : startup.player = described player startup.mediaTypes
  streams : Streams startup
  joiners : Joiners startup fun _ => False
  outer : startup.callbackJoiner = { counter := startup.indices.toFinset.card }
  waiting : Waiting startup

structure Pushes (mediaType : Mojo.MediaType) (calls : List StartupCall)
    (startup next : PlayerStartup) : Prop where
  mediaTypes : next.mediaTypes = startup.mediaTypes ++ [mediaType]
  player : next.player = (startup.pushStream mediaType).player
  pending : next.pending = startup.pending ++ calls
  index : ∀ call ∈ calls, call.index = startup.mediaTypes.length
  sinks : calls.countP (isSinkCall startup.mediaTypes.length) =
    if isEnabled mediaType then 1 else 0
  enabled : calls ≠ [] ↔ isEnabled mediaType = true
  direct : isCompressed mediaType = false →
    ∀ call ∈ calls, call = .connectSink startup.mediaTypes.length
  joiner : isCompressed mediaType = true → calls ≠ [] →
    (next.streamJoiner startup.mediaTypes.length).Waits calls.length ()
  joiners : ∀ index, index ≠ startup.mediaTypes.length →
    next.streamJoiner index = startup.streamJoiner index
  outer : next.callbackJoiner =
    if isEnabled mediaType then startup.callbackJoiner.spawn else startup.callbackJoiner
  factory : next.factory = startup.factory
  preparations : next.preparations = startup.preparations

theorem exists_pushes (startup : PlayerStartup) (mediaType : Mojo.MediaType)
    (rest : List Mojo.MediaType) (factory : startup.factory = true) :
    ∃ calls next, Pushes mediaType calls startup next ∧
      describeStreams startup.mediaTypes.length (mediaType :: rest) startup =
        describeStreams (startup.mediaTypes.length + 1) rest next := by
  set index := startup.mediaTypes.length with index_eq
  have compressed : (startup.pushStream mediaType).spawn.compressed index =
      isCompressed mediaType := by
    simp [index_eq, spawn, pushStream, PlayerStartup.compressed]
  have ready : (startup.pushStream mediaType).spawn.factory = true := factory
  by_cases enabled : isEnabled mediaType = true
  · by_cases through : isCompressed mediaType = true
    · let asked := ((startup.pushStream mediaType).spawn.ask (.connectDecoder index)).ask
        (.getOutputType index)
      let joiner : CallbackJoiner Unit := { counter := 2, joinCallback := some () }
      have turn : (startup.pushStream mediaType).spawn.prepareStream index =
          some (asked.setStreamJoiner index joiner) := by
        rw [prepareStream, if_pos ready, compressed, if_pos through]
        rfl
      refine ⟨[.connectDecoder index, .getOutputType index], asked.setStreamJoiner index joiner,
        ⟨rfl, rfl, ?_, ?_, ?_, ?_, ?_, ?_, ?_, ?_, rfl, rfl⟩, ?_⟩
      · exact List.append_assoc ..
      · simp [StartupCall.index, index_eq]
      · simp [isSinkCall, enabled, index_eq]
      · simp [enabled]
      · simp [through]
      · intro _ _
        exact (streamJoiner_self asked index joiner).symm ▸ ⟨rfl, rfl⟩
      · exact fun other different => streamJoiner_other joiner different
      · exact (if_pos enabled).symm
      · simp only [describeStreams, enabled, if_true, turn, Option.bind_eq_bind, Option.bind_some]
    · have turn : (startup.pushStream mediaType).spawn.prepareStream index =
          some ((startup.pushStream mediaType).spawn.ask (.connectSink index)) := by
        rw [prepareStream, if_pos ready, compressed, if_neg through, createSink, if_pos ready]
      refine ⟨[.connectSink index], (startup.pushStream mediaType).spawn.ask (.connectSink index),
        ⟨rfl, rfl, rfl, ?_, ?_, ?_, ?_, ?_, fun _ _ => rfl, ?_, rfl, rfl⟩, ?_⟩
      · simp [StartupCall.index, index_eq]
      · simp [isSinkCall, enabled, index_eq]
      · simp [enabled]
      · simp [index_eq]
      · simp [through]
      · exact (if_pos enabled).symm
      · simp only [describeStreams, enabled, if_true, turn, Option.bind_eq_bind, Option.bind_some]
  · refine ⟨[], startup.pushStream mediaType,
      ⟨rfl, rfl, (List.append_nil _).symm, ?_, ?_, ?_, ?_, ?_, fun _ _ => rfl, ?_, rfl, rfl⟩, ?_⟩
    · simp
    · simp [enabled]
    · simp [enabled]
    · simp
    · simp
    · exact (if_neg enabled).symm
    · simp only [describeStreams, enabled, Bool.false_eq_true, if_false, Option.bind_eq_bind,
        Option.bind_some]

theorem Describing.inside {player : MediaPlayer} (describing : Describing player startup)
    {call : StartupCall} (member : call ∈ startup.pending) :
    call.index < startup.mediaTypes.length := by
  obtain ⟨stream, found, -⟩ := describing.streams.asked call member
  obtain ⟨inside, -⟩ := List.getElem?_eq_some_iff.mp found
  simpa [describing.player, described] using inside

theorem Describing.fresh {player : MediaPlayer} (describing : Describing player startup) :
    startup.mediaTypes.length ∉ startup.indices := by
  intro member
  obtain ⟨call, present, same⟩ := List.mem_map.mp member
  have := describing.inside present
  omega

theorem isSinkCall_index {call : StartupCall} {index : Nat} (sink : isSinkCall index call = true) :
    call.index = index := by
  cases call <;> simp_all [isSinkCall, StartupCall.index]

theorem Pushes.streamAt {player : MediaPlayer} {mediaType : Mojo.MediaType}
    {calls : List StartupCall} (pushes : Pushes mediaType calls startup next)
    (describing : Describing player startup) (index : Nat) :
    next.player.streams[index]? =
      if index = startup.mediaTypes.length then some { enabled := isEnabled mediaType }
      else startup.player.streams[index]? := by
  have length : startup.player.streams.length = startup.mediaTypes.length := by
    simp [describing.player, described]
  rw [pushes.player, pushStream, List.getElem?_append, length]
  split
  next inside => rw [if_neg (by omega)]
  next outside =>
    split
    next here => simp [here]
    next elsewhere =>
      rw [List.getElem?_eq_none (by simp; omega), List.getElem?_eq_none (by omega)]

theorem Pushes.compressed_old {mediaType : Mojo.MediaType} {calls : List StartupCall}
    (pushes : Pushes mediaType calls startup next) {index : Nat}
    (inside : index < startup.mediaTypes.length) :
    next.compressed index = startup.compressed index := by
  simp only [PlayerStartup.compressed, pushes.mediaTypes]
  rw [List.getElem?_append_left inside]

theorem Pushes.compressed_new {mediaType : Mojo.MediaType} {calls : List StartupCall}
    (pushes : Pushes mediaType calls startup next) :
    next.compressed startup.mediaTypes.length = isCompressed mediaType := by
  simp [PlayerStartup.compressed, pushes.mediaTypes]

theorem Describing.push {player : MediaPlayer} {mediaType : Mojo.MediaType}
    {calls : List StartupCall} (describing : Describing player startup)
    (pushes : Pushes mediaType calls startup next) : Describing player next := by
  have indices : next.indices = startup.indices ++ calls.map StartupCall.index := by
    rw [PlayerStartup.indices, pushes.pending, List.map_append]
    rfl
  have news : calls.map StartupCall.index =
      List.replicate calls.length startup.mediaTypes.length := by
    rw [List.eq_replicate_iff, List.length_map]
    exact ⟨rfl, fun index member => by
      obtain ⟨call, present, rfl⟩ := List.mem_map.mp member
      exact pushes.index call present⟩
  have cases (call : StartupCall) (left : call ∈ next.pending) :
      call ∈ startup.pending ∨ call ∈ calls := by
    rwa [pushes.pending, List.mem_append] at left
  refine ⟨?_, ⟨?_, ?_, ?_, ?_⟩, ?_, ?_, ?_⟩
  · rw [pushes.player, pushStream, pushes.mediaTypes, describing.player, described, described,
      List.map_append]
    rfl
  · intro call left
    rw [pushes.streamAt describing]
    rcases cases call left with before | new
    · rw [if_neg (describing.inside before).ne]
      exact describing.streams.asked call before
    · rw [if_pos (pushes.index call new)]
      exact ⟨_, rfl, pushes.enabled.mp (List.ne_nil_of_mem new)⟩
  · intro call left direct
    rcases cases call left with before | new
    · rw [pushes.compressed_old (describing.inside before)] at direct
      exact describing.streams.decoders call before direct
    · rw [pushes.index call new] at direct ⊢
      exact pushes.direct (pushes.compressed_new.symm.trans direct) call new
  · intro index stream found enabled
    rw [pushes.streamAt describing] at found
    rw [pushes.pending, List.countP_append]
    split at found
    next here =>
      subst here
      cases found
      have none : startup.pending.countP (isSinkCall startup.mediaTypes.length) = 0 := by
        rw [List.countP_eq_zero]
        intro call member sink
        exact (describing.inside member).ne (isSinkCall_index sink)
      rw [none, pushes.sinks, if_pos enabled]
      rfl
    next elsewhere =>
      have none : calls.countP (isSinkCall index) = 0 := by
        rw [List.countP_eq_zero]
        intro call member sink
        exact elsewhere ((isSinkCall_index sink).symm.trans (pushes.index call member))
      rw [none, Nat.add_zero]
      exact describing.streams.sinks index stream found enabled
  · intro stream member
    rw [pushes.player, pushStream] at member
    rcases List.mem_append.mp member with before | new
    · exact describing.streams.states stream before
    · exact .inl (by simp_all)
  · intro index member compressed _
    rw [indices, List.mem_append] at member
    rw [indices, List.count_append, news, List.count_replicate]
    by_cases here : index = startup.mediaTypes.length
    · subst here
      have new := member.resolve_left describing.fresh
      have some : calls ≠ [] := fun none => by simp [none] at new
      rw [List.count_eq_zero_of_not_mem describing.fresh, if_pos (beq_self_eq_true _), Nat.zero_add]
      exact pushes.joiner (pushes.compressed_new.symm.trans compressed) some
    · have before : index ∈ startup.indices := by
        refine member.resolve_right fun new => here ?_
        rw [news] at new
        exact List.eq_of_mem_replicate new
      obtain ⟨call, present, rfl⟩ := List.mem_map.mp before
      rw [if_neg (by simpa using Ne.symm here), Nat.add_zero, pushes.joiners _ here]
      rw [pushes.compressed_old (describing.inside present)] at compressed
      exact describing.joiners _ before compressed not_false
  · rw [pushes.outer, describing.outer, indices, news]
    split
    next enabled =>
      have some := pushes.enabled.mpr enabled
      have one : (List.replicate calls.length startup.mediaTypes.length).toFinset =
          {startup.mediaTypes.length} :=
        List.toFinset_replicate_of_ne_zero (by simpa using some)
      rw [List.toFinset_append, one, Finset.union_comm, ← Finset.insert_eq,
        Finset.card_insert_of_notMem (by simpa using describing.fresh)]
      rfl
    next disabled =>
      have none : calls = [] := by
        by_contra some
        exact disabled (pushes.enabled.mp some)
      simp [none]
  · have waiting := describing.waiting
    refine ⟨?_, ?_, ?_, ?_, pushes.factory.trans waiting.factory,
      pushes.preparations.trans waiting.preparations⟩
    all_goals rw [pushes.player]
    · exact waiting.joined
    · exact waiting.state
    · exact waiting.reported
    · exact waiting.demux

theorem describing_describeStreams {player : MediaPlayer} (mediaTypes : List Mojo.MediaType)
    (describing : Describing player startup) :
    ∃ next, describeStreams startup.mediaTypes.length mediaTypes startup = some next ∧
      Describing player next ∧ next.mediaTypes = startup.mediaTypes ++ mediaTypes := by
  induction mediaTypes generalizing startup with
  | nil => exact ⟨startup, rfl, describing, (List.append_nil _).symm⟩
  | cons mediaType rest ih =>
    obtain ⟨calls, pushed, pushes, turn⟩ :=
      exists_pushes startup mediaType rest describing.waiting.factory
    obtain ⟨next, done, after, types⟩ := ih (describing.push pushes)
    rw [pushes.mediaTypes, List.length_append, List.length_singleton] at done
    refine ⟨next, turn.trans done, after, ?_⟩
    rw [types, pushes.mediaTypes, List.append_assoc]
    rfl

theorem describe_started (undescribed : Undescribed startup) (mediaTypes : List Mojo.MediaType) :
    ∃ next, startup.describe mediaTypes = some next ∧ Started next ∧ Refines startup next := by
  let begun := { startup with
    callbackJoiner := { }
    player := { startup.player with described := true } }
  have waiting := undescribed.waiting
  have start : Describing startup.player begun := by
    refine ⟨?_, ⟨?_, ?_, ?_, ?_⟩, ?_, ?_, ⟨waiting.joined, waiting.state, waiting.reported,
      waiting.demux, waiting.factory, waiting.preparations⟩⟩
    · simp [begun, described, undescribed.mediaTypes, undescribed.streams]
    · simp [begun, undescribed.pending]
    · simp [begun, undescribed.pending]
    · simp [begun, undescribed.streams]
    · simp [begun, undescribed.streams]
    · simp [Joiners, PlayerStartup.indices, begun, undescribed.pending]
    · simp [PlayerStartup.indices, begun, undescribed.pending]
  obtain ⟨next, done, describing, types⟩ := describing_describeStreams mediaTypes start
  have fromStart : describeStreams 0 mediaTypes begun = some next := by
    rw [← done]
    simp [begun, undescribed.mediaTypes]
  have unregistered : next.callbackJoiner.joinCallback = none := by rw [describing.outer]
  obtain ⟨joiner, registered, waits⟩ := CallbackJoiner.whenJoined_unregistered () unregistered
  have counter : next.callbackJoiner.counter = next.indices.toFinset.card := by
    rw [describing.outer]
  rw [counter] at registered waits
  set joined := { next with callbackJoiner := joiner } with joined_eq
  have outcome : startup.describe mediaTypes = some (joined.runPrepared
      (if next.indices.toFinset.card = 0 then some () else none)) := by
    change (describeStreams 0 mediaTypes begun).bind _ = _
    rw [fromStart, Option.bind_some, registered]
    rfl
  rw [outcome]
  have player : joined.player = described startup.player mediaTypes := by
    rw [joined_eq, describing.player, types]
    simp [begun, undescribed.mediaTypes]
  have isDescribed : joined.player.described = true := by rw [player, described]
  have streams : Streams joined := ⟨describing.streams.asked, describing.streams.decoders,
    describing.streams.sinks, describing.streams.states⟩
  have waiting : Waiting joined := ⟨describing.waiting.joined, describing.waiting.state,
    describing.waiting.reported, describing.waiting.demux, describing.waiting.factory,
    describing.waiting.preparations⟩
  have refines : Refines startup joined := by
    apply refines_step (.describe (mediaTypes.map isEnabled))
    rw [player]
    simp [MediaPlayer.step, MediaPlayer.deliver, undescribed.described, MediaPlayer.settle,
      described]
  by_cases last : joined.pending = []
  · have noIndices : next.indices.toFinset.card = 0 := by
      have pending : next.pending = [] := last
      simp [PlayerStartup.indices, pending]
    rw [noIndices] at waits ⊢
    exact ⟨_, rfl, started_whenPrepared isDescribed waiting streams last waits,
      refines.trans (whenPrepared_refines isDescribed waiting streams last)⟩
  · have some : next.indices.toFinset.card ≠ 0 := by
      have pending : next.pending ≠ [] := last
      simp [PlayerStartup.indices, pending]
    rw [if_neg some]
    exact ⟨_, rfl, ⟨isDescribed, streams, describing.joiners, waits, fun _ => waiting,
      fun none => absurd none last⟩, refines⟩

inductive SameOrReported (player other : MediaPlayer) : Prop where
  | same (streams : other.streams = player.streams)
  | reported (index : Nat) (stream : PlayerStream) (state : MediaState)
      (found : player.streams[index]? = some stream) (before : stream.state.isPrepared = true)
      (after : state.isPrepared = true)
      (streams : other.streams = player.streams.set index { stream with state })

structure Follows (player other : MediaPlayer) : Prop where
  described : other.described = player.described
  joined : other.joined = player.joined
  streams : SameOrReported player other
  waiting : player.state = .waiting → player.pending = [] → other.state = .waiting ∧
    other.pending = [] ∧ other.reportedMediaState = player.reportedMediaState

theorem Follows.update {player other : MediaPlayer} (follows : Follows player other) :
    Follows player other.update := by
  have same := same_update other
  refine ⟨same.described.trans follows.described, same.joined.trans follows.joined, ?_, ?_⟩
  · rcases follows.streams with streams | ⟨index, stream, state, found, before, after, streams⟩
    · exact .same (same.streams.trans streams)
    · exact .reported index stream state found before after (same.streams.trans streams)
  · intro waiting idle
    obtain ⟨stays, pending, reported⟩ := follows.waiting waiting idle
    have pass : other.updatePass = .done other := by rw [MediaPlayer.updatePass, stays]
    rw [MediaPlayer.update_of_done pass]
    exact ⟨stays, pending, reported⟩

theorem deliver_follows {player : MediaPlayer} {event : MediaPlayer.Event}
    {delivered : MediaPlayer × Bool} (other : isStartup event = false)
    (delivers : player.deliver event = some delivered) : Follows player delivered.1 := by
  have idle {changed : MediaPlayer} (described : changed.described = player.described)
      (joined : changed.joined = player.joined) (streams : changed.streams = player.streams)
      (state : changed.state = player.state) (pending : changed.pending = player.pending)
      (reported : changed.reportedMediaState = player.reportedMediaState) :
      Follows player changed :=
    ⟨described, joined, .same streams,
      fun waiting none => ⟨state.trans waiting, pending.trans none, reported⟩⟩
  cases event with
  | describe enabled => cases other
  | connected index => cases other
  | joined => cases other
  | play | pause | seek position =>
    cases delivers
    exact idle rfl rfl rfl rfl rfl rfl
  | sinkStatus index status =>
    simp only [MediaPlayer.deliver] at delivers
    split at delivers
    next stream found =>
      split_ifs at delivers with prepared
      cases status with
      | none =>
        cases delivers
        exact idle rfl rfl rfl rfl rfl rfl
      | some state =>
        simp only at delivers
        split_ifs at delivers with reports
        · cases delivers
          exact ⟨rfl, rfl, .reported index stream state found prepared.2 reports rfl,
            fun waiting none => ⟨waiting, none, rfl⟩⟩
        · cases delivers
          exact idle rfl rfl rfl rfl rfl rfl
    next => cases delivers
  | answer index =>
    simp only [MediaPlayer.deliver] at delivers
    split at delivers
    next call found =>
      have some : player.pending ≠ [] := by
        rintro none
        simp [none] at found
      cases call <;> cases delivers <;>
        exact ⟨rfl, rfl, .same rfl, fun _ none => absurd none some⟩
    next => cases delivers

theorem step_follows {player next : MediaPlayer} {event : MediaPlayer.Event}
    (other : isStartup event = false) (taken : player.step event = some next) :
    Follows player next := by
  obtain ⟨delivered, delivers, rfl⟩ := Option.map_eq_some_iff.mp taken
  have follows := deliver_follows other delivers
  rw [MediaPlayer.settle]
  split
  · exact follows.update
  · exact follows

theorem Streams.follow {player : MediaPlayer} (streams : Streams startup)
    (follows : SameOrReported startup.player player) : Streams { startup with player } := by
  rcases follows with same | ⟨index, stream, state, found, before, after, changed⟩
  · refine ⟨?_, streams.decoders, ?_, ?_⟩
    · simpa only [same] using streams.asked
    · simpa only [same] using streams.sinks
    · simpa only [same] using streams.states
  · obtain ⟨inside, -⟩ := List.getElem?_eq_some_iff.mp found
    have streamAt (other : Nat) : player.streams[other]? =
        if index = other then some { stream with state } else startup.player.streams[other]? := by
      simp only [changed, List.getElem?_set, inside, if_true]
    have prepared {reached : MediaState} (isPrepared : reached.isPrepared = true) :
        reached ≠ .unprepared := by
      rintro rfl
      cases isPrepared
    refine ⟨?_, streams.decoders, ?_, ?_⟩
    · intro call member
      obtain ⟨asked, present, enabled⟩ := streams.asked call member
      simp only [streamAt]
      split
      next here =>
        subst here
        exact ⟨_, rfl, Option.some.inj (present.symm.trans found) ▸ enabled⟩
      next => exact ⟨asked, present, enabled⟩
    · intro other reached present enabled
      simp only [streamAt] at present
      split at present
      next here =>
        subst here
        cases present
        have none := streams.sinks index stream found enabled
        rw [if_neg (prepared before)] at none
        rw [if_neg (prepared after)]
        exact none
      next => exact streams.sinks other reached present enabled
    · intro reached member
      simp only [changed] at member
      rcases List.mem_or_eq_of_mem_set member with before | rfl
      · exact streams.states reached before
      · exact .inr after

theorem Waiting.follow {player : MediaPlayer} (waiting : Waiting startup)
    (follows : Follows startup.player player) : Waiting { startup with player } := by
  obtain ⟨state, pending, reported⟩ := follows.waiting waiting.state waiting.demux
  exact ⟨follows.joined.trans waiting.joined, state, reported.trans waiting.reported, pending,
    waiting.factory, waiting.preparations⟩

def Invariant (startup : PlayerStartup) : Prop := Undescribed startup ∨ Started startup

theorem Invariant.follow {player : MediaPlayer} (invariant : Invariant startup)
    (follows : Follows startup.player player) : Invariant { startup with player } := by
  rcases invariant with undescribed | started
  · refine .inl ⟨follows.described.trans undescribed.described, undescribed.waiting.follow follows,
      undescribed.pending, ?_, undescribed.mediaTypes⟩
    rcases follows.streams with same | ⟨index, stream, state, found, -, -, -⟩
    · exact same.trans undescribed.streams
    · simp [undescribed.streams] at found
  · refine .inr ⟨follows.described.trans started.described, started.streams.follow follows.streams,
      started.joiners, started.outer, fun some => (started.waiting some).follow follows, ?_⟩
    intro none
    obtain ⟨joined, preparations⟩ := started.prepared none
    exact ⟨follows.joined.trans joined, preparations⟩

theorem invariant_step (invariant : Invariant startup) (event : Event) :
    ∃ next, startup.step event = some next ∧ Invariant next ∧ Refines startup next := by
  cases event with
  | described mediaTypes =>
    rcases invariant with undescribed | started
    · obtain ⟨next, done, started, refines⟩ := describe_started undescribed mediaTypes
      exact ⟨next, by simp [step, undescribed.described, done], .inr started, refines⟩
    · exact ⟨startup, by simp [step, started.described], .inr started, .refl _⟩
  | answered position =>
    cases pending : startup.pending[position]? with
    | none => exact ⟨startup, by simp [step, pending], invariant, .refl _⟩
    | some call =>
      rcases invariant with undescribed | started
      · simp [undescribed.pending] at pending
      · obtain ⟨next, done, after, refines⟩ := answer_started started pending
        refine ⟨next, ?_, .inr after, refines⟩
        simp only [step, pending]
        exact done
  | player event =>
    by_cases startsUp : isStartup event = true
    · exact ⟨startup, by simp [step, startsUp], invariant, .refl _⟩
    · have other : isStartup event = false := by simpa using startsUp
      cases taken : startup.player.step event with
      | none => exact ⟨startup, by simp [step, other, taken], invariant, .refl _⟩
      | some player =>
        refine ⟨{ startup with player }, by simp [step, other, taken],
          invariant.follow (step_follows other taken), refines_step event taken⟩

theorem invariant_start : Invariant { } :=
  .inl ⟨rfl, ⟨rfl, rfl, rfl, rfl, rfl, rfl⟩, rfl, rfl, rfl⟩

-- Whatever the order in which decoders, sinks and the demux answer, no assertion fails, the
-- player is one that is told from outside when its streams are prepared, and it is told so once,
-- when no answer is missing.
theorem prepared_once (events : List Event) :
    ∃ final, Runs.run step { } events = some final ∧
      (∃ calls, Runs.run MediaPlayer.step { } calls = some final.player) ∧
      (final.player.joined = true ↔ final.player.described = true ∧ final.pending = []) ∧
      final.preparations = if final.player.joined = true then 1 else 0 := by
  obtain ⟨final, reached, invariant, refines⟩ := Runs.run_of_step step (fun _ _ => True)
    (fun startup => Invariant startup ∧ Refines { } startup)
    (fun startup event kept _ => by
      obtain ⟨next, taken, invariant, refines⟩ := invariant_step kept.1 event
      exact ⟨next, taken, invariant, kept.2.trans refines⟩)
    { } events ⟨invariant_start, .refl _⟩
    (Runs.meets_of_forall step _ { } events fun _ _ _ => trivial)
  refine ⟨final, reached, refines, ?_⟩
  rcases invariant with undescribed | started
  · simp [undescribed.described, undescribed.waiting.joined, undescribed.waiting.preparations]
  · by_cases none : final.pending = []
    · obtain ⟨joined, preparations⟩ := started.prepared none
      simp [joined, started.described, none, preparations]
    · have waiting := started.waiting none
      simp [waiting.joined, none, waiting.preparations]

end MojoMedia.PlayerStartup
