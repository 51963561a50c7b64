import MojoMedia.Shared.Runs
import MojoMedia.Audio.TrackLinks

set_option autoImplicit false

namespace MojoMedia.Audio.AudioServer

open Runs

def Selected (server : AudioServer) (track : Track) (link : Link) : Prop :=
  track.format = some link.format ∧
    ∃ output, server.outputs link.output = some output ∧
      Mixer.select link.format output.format = some link.mixer

structure TrackInv (server : AudioServer) (index : Nat) (track : Track) : Prop where
  single : track.outputs.Pairwise fun first second => first.output ≠ second.output
  own : ∀ link ∈ track.outputs, link.track = index
  selected : ∀ link ∈ track.outputs, server.Selected track link

structure OutputInv (server : AudioServer) (index : Nat) (output : Output) : Prop where
  single : output.links.Pairwise fun first second => first.track ≠ second.track
  own : ∀ link ∈ output.links, link.output = index
  created : ∀ link ∈ output.links, link.track < server.nextTrack
  shared : ∀ link ∈ output.links, ∀ track, server.tracks link.track = some track →
    link ∈ track.outputs

structure Inv (server : AudioServer) : Prop where
  tracks : ∀ index track, server.tracks index = some track → server.TrackInv index track
  outputs : ∀ index output, server.outputs index = some output → server.OutputInv index output
  created : ∀ index track, server.tracks index = some track → index < server.nextTrack
  managed : server.managed.Nodup

structure OneLink (server : AudioServer) : Prop where
  ofTrack : ∀ index track, server.tracks index = some track →
    track.outputs.Pairwise fun first second => first.output ≠ second.output
  ofOutput : ∀ index output, server.outputs index = some output →
    output.links.Pairwise fun first second => first.track ≠ second.track
  mixers : ∀ index track, server.tracks index = some track → ∀ link,
    (link ∈ track.outputs ∨
      ∃ outputIndex output, server.outputs outputIndex = some output ∧ link ∈ output.links ∧
        link.track = index) → server.Selected track link

theorem Inv.oneLink {server : AudioServer} (inv : server.Inv) : server.OneLink := by
  refine ⟨?_, ?_, ?_⟩
  · intro index track isTrack
    exact (inv.tracks index track isTrack).single
  · intro index output isOutput
    exact (inv.outputs index output isOutput).single
  · intro index track isTrack link present
    rcases present with inTrack | ⟨outputIndex, output, isOutput, inOutput, rfl⟩
    · exact (inv.tracks index track isTrack).selected link inTrack
    · have inTrack := (inv.outputs outputIndex output isOutput).shared link inOutput track isTrack
      exact (inv.tracks link.track track isTrack).selected link inTrack

@[simp] theorem setTrack_tracks (server : AudioServer) (index other : Nat) (track : Option Track) :
    (server.setTrack index track).tracks other =
      if other = index then track else server.tracks other := by
  simp [setTrack, Function.update_apply]

@[simp] theorem setOutput_outputs (server : AudioServer) (index other : Nat) (output : Output) :
    (server.setOutput index output).outputs other =
      if other = index then some output else server.outputs other := by
  simp [setOutput, Function.update_apply]

@[simp] theorem setTrack_outputs (server : AudioServer) (index : Nat) (track : Option Track) :
    (server.setTrack index track).outputs = server.outputs := rfl

@[simp] theorem setOutput_tracks (server : AudioServer) (index : Nat) (output : Output) :
    (server.setOutput index output).tracks = server.tracks := rfl

theorem Selected.congr {server next : AudioServer} {track : Track} {link : Link}
    (selected : server.Selected track link)
    (formats : ∀ index output, server.outputs index = some output →
      ∃ other, next.outputs index = some other ∧ other.format = output.format) :
    next.Selected track link := by
  obtain ⟨format, output, isOutput, mixer⟩ := selected
  obtain ⟨other, isOther, same⟩ := formats link.output output isOutput
  exact ⟨format, other, isOther, by rw [same]; exact mixer⟩

theorem Inv.congr {server next : AudioServer} (inv : server.Inv)
    (tracks : next.tracks = server.tracks) (outputs : next.outputs = server.outputs)
    (nextTrack : next.nextTrack = server.nextTrack) (managed : next.managed.Nodup) : next.Inv := by
  refine ⟨?_, ?_, ?_, managed⟩
  · intro index track isTrack
    rw [tracks] at isTrack
    have before := inv.tracks index track isTrack
    refine ⟨before.single, before.own, fun link member => (before.selected link member).congr ?_⟩
    rw [outputs]
    exact fun _ output isOutput => ⟨output, isOutput, rfl⟩
  · intro index output isOutput
    rw [outputs] at isOutput
    have before := inv.outputs index output isOutput
    refine ⟨before.single, before.own, ?_, ?_⟩
    · rw [nextTrack]
      exact before.created
    · rw [tracks]
      exact before.shared
  · rw [tracks, nextTrack]
    exact inv.created

theorem Inv.setTrack {server : AudioServer} (inv : server.Inv) {index : Nat} {old : Track}
    (there : server.tracks index = some old) (track : Option Track)
    (good : ∀ next ∈ track, server.TrackInv index next ∧
      ∀ link ∈ old.outputs, link ∈ next.outputs ∨ ∀ outputIndex output,
        server.outputs outputIndex = some output → link ∉ output.links) :
    (server.setTrack index track).Inv := by
  refine ⟨?_, ?_, ?_, inv.managed⟩
  · intro other otherTrack isOther
    rw [setTrack_tracks] at isOther
    have kept : server.TrackInv other otherTrack := by
      split at isOther
      next same => exact same ▸ (good otherTrack isOther).1
      next => exact inv.tracks other otherTrack isOther
    exact ⟨kept.single, kept.own, fun link member =>
      (kept.selected link member).congr fun _ output isOutput => ⟨output, isOutput, rfl⟩⟩
  · intro outputIndex output isOutput
    have before := inv.outputs outputIndex output isOutput
    refine ⟨before.single, before.own, before.created, ?_⟩
    intro link member otherTrack isOther
    rw [setTrack_tracks] at isOther
    split at isOther
    next same =>
      have inOld := before.shared link member old (same ▸ there)
      rcases (good otherTrack isOther).2 link inOld with inNext | gone
      · exact inNext
      · exact absurd member (gone outputIndex output isOutput)
    next => exact before.shared link member otherTrack isOther
  · intro other otherTrack isOther
    rw [setTrack_tracks] at isOther
    split at isOther
    next same => exact same ▸ inv.created index old there
    next => exact inv.created other otherTrack isOther

theorem Inv.shutdownTrack {server : AudioServer} (inv : server.Inv) {index : Nat} {old : Track}
    (there : server.tracks index = some old) : (server.shutdownTrack index).Inv :=
  inv.setTrack there none nofun

theorem Inv.pipeReset {server : AudioServer} (inv : server.Inv) {index : Nat} {old : Track}
    (there : server.tracks index = some old) :
    (server.setTrack index (some { old with pipeInitialized := false })).Inv := by
  refine inv.setTrack there _ ?_
  rintro next ⟨⟩
  have before := inv.tracks index old there
  exact ⟨⟨before.single, before.own, before.selected⟩, fun link member => .inl member⟩

theorem Inv.createTrack {server : AudioServer} (inv : server.Inv) : server.createTrack.Inv := by
  refine ⟨?_, ?_, ?_, inv.managed⟩
  · intro index track isTrack
    simp only [AudioServer.createTrack, setTrack_tracks] at isTrack
    split at isTrack
    next =>
      obtain rfl := Option.some.inj isTrack
      exact ⟨.nil, List.forall_mem_nil _, List.forall_mem_nil _⟩
    next =>
      have before := inv.tracks index track isTrack
      exact ⟨before.single, before.own, fun link member =>
        (before.selected link member).congr fun _ output isOutput => ⟨output, isOutput, rfl⟩⟩
  · intro index output isOutput
    have before := inv.outputs index output isOutput
    refine ⟨before.single, before.own, fun link member => ?_, ?_⟩
    · exact Nat.lt_succ_of_lt (before.created link member)
    · intro link member track isTrack
      simp only [AudioServer.createTrack, setTrack_tracks] at isTrack
      rw [if_neg (Nat.ne_of_lt (before.created link member))] at isTrack
      exact before.shared link member track isTrack
  · intro index track isTrack
    simp only [AudioServer.createTrack, setTrack_tracks] at isTrack ⊢
    split at isTrack
    next same => omega
    next => exact Nat.lt_succ_of_lt (inv.created index track isTrack)

theorem Inv.setOutput {server : AudioServer} (inv : server.Inv) {index : Nat} {old next : Output}
    (there : server.outputs index = some old) (fewer : next.links.Sublist old.links)
    (format : next.format = old.format) : (server.setOutput index next).Inv := by
  refine ⟨?_, ?_, inv.created, inv.managed⟩
  · intro other track isTrack
    have before := inv.tracks other track isTrack
    refine ⟨before.single, before.own, fun link member => (before.selected link member).congr ?_⟩
    intro outputIndex output isOutput
    rw [setOutput_outputs]
    split
    next same =>
      rw [same, there] at isOutput
      obtain rfl := Option.some.inj isOutput
      exact ⟨next, rfl, format⟩
    next => exact ⟨output, isOutput, rfl⟩
  · intro other output isOutput
    rw [setOutput_outputs] at isOutput
    split at isOutput
    next same =>
      obtain rfl := Option.some.inj isOutput
      have before := inv.outputs index old there
      refine ⟨before.single.sublist fewer, ?_, ?_, ?_⟩
      · exact fun link member => same ▸ before.own link (fewer.subset member)
      · exact fun link member => before.created link (fewer.subset member)
      · exact fun link member => before.shared link (fewer.subset member)
    next =>
      have before := inv.outputs other output isOutput
      exact ⟨before.single, before.own, before.created, before.shared⟩

theorem Inv.removeOutput {server : AudioServer} (inv : server.Inv) {link : Link}
    (gone : ∀ index output, server.outputs index = some output → link ∉ output.links) :
    (server.removeOutput link).Inv := by
  rw [AudioServer.removeOutput]
  split
  next track there =>
    have before := inv.tracks link.track track there
    refine inv.setTrack there _ ?_
    rintro next ⟨⟩
    refine ⟨⟨before.single.filter _, ?_, ?_⟩, ?_⟩
    · exact fun other member => before.own other (List.mem_of_mem_filter member)
    · exact fun other member => before.selected other (List.mem_of_mem_filter member)
    · intro other member
      by_cases same : other = link
      · exact .inr (same ▸ gone)
      · exact .inl (by simp [member, same])
  next => exact inv

theorem removeOutput_outputs (server : AudioServer) (link : Link) :
    (server.removeOutput link).outputs = server.outputs := by
  rw [removeOutput]
  split
  next => rfl
  next => rfl

theorem setOutput_removeOutput (server : AudioServer) (link : Link) (index : Nat)
    (output : Output) :
    (server.removeOutput link).setOutput index output =
      (server.setOutput index output).removeOutput link := by
  simp only [removeOutput, setOutput_tracks]
  split
  next => rfl
  next => rfl

theorem setOutput_foldl (links : List Link) (server : AudioServer) (index : Nat)
    (output : Output) :
    (links.foldl removeOutput server).setOutput index output =
      links.foldl removeOutput (server.setOutput index output) := by
  induction links generalizing server with
  | nil => rfl
  | cons link rest ih => rw [List.foldl_cons, List.foldl_cons, ih, setOutput_removeOutput]

theorem Inv.foldl_removeOutput (links : List Link) {server : AudioServer} (inv : server.Inv)
    (gone : ∀ link ∈ links, ∀ index output, server.outputs index = some output →
      link ∉ output.links) : (links.foldl AudioServer.removeOutput server).Inv := by
  induction links generalizing server with
  | nil => exact inv
  | cons link rest ih =>
    refine ih (inv.removeOutput (gone link (by simp))) ?_
    intro other member
    rw [removeOutput_outputs]
    exact gone other (by simp [member])

theorem Inv.shutdownOutput {server : AudioServer} (inv : server.Inv) {index : Nat}
    {output : Output} (there : server.outputs index = some output) :
    (server.shutdownOutput index output).Inv := by
  rw [AudioServer.shutdownOutput, setOutput_foldl]
  have cleared : (server.setOutput index
      { output with shuttingDown := true, links := [] }).Inv :=
    inv.setOutput there (List.nil_sublist _) rfl
  have unlinked := cleared.foldl_removeOutput output.links (by
    -- The links of the output belong to no other output.
    intro link member other otherOutput isOther inOther
    rw [setOutput_outputs] at isOther
    split at isOther
    next =>
      obtain rfl := Option.some.inj isOther
      cases inOther
    next different =>
      have here := (inv.outputs index output there).own link member
      have elsewhere := (inv.outputs other otherOutput isOther).own link inOther
      exact different (elsewhere.symm.trans here))
  exact unlinked.congr rfl rfl rfl (inv.managed.erase index)

theorem formats_linked {server : AudioServer} {output : Output} {link : Link}
    (isOutput : server.outputs link.output = some output) (index : Nat) (before : Output)
    (isBefore : server.outputs index = some before) :
    ∃ after, (server.setOutput link.output { output with links := link :: output.links }).outputs
      index = some after ∧ after.format = before.format := by
  rw [setOutput_outputs]
  split
  next same =>
    rw [same, isOutput] at isBefore
    obtain rfl := Option.some.inj isBefore
    exact ⟨_, rfl, rfl⟩
  next => exact ⟨before, isBefore, rfl⟩

theorem shared_linked {server : AudioServer} {track : Track} {output : Output} {link other : Link}
    (there : server.tracks link.track = some track)
    (shared : ∀ old, server.tracks other.track = some old → other ∈ old.outputs) (next : Track)
    (isNext : ((server.setOutput link.output output).setTrack link.track
      (some { track with outputs := link :: track.outputs })).tracks other.track = some next) :
    other ∈ next.outputs := by
  rw [setTrack_tracks] at isNext
  split at isNext
  next same =>
    obtain rfl := Option.some.inj isNext
    exact List.mem_cons_of_mem _ (shared track (same ▸ there))
  next => exact shared next isNext

theorem Inv.link {server : AudioServer} (inv : server.Inv) {track : Track} {output : Output}
    {link : Link} (there : server.tracks link.track = some track)
    (isOutput : server.outputs link.output = some output)
    (isFormat : track.format = some link.format)
    (selected : Mixer.select link.format output.format = some link.mixer)
    (unlinked : ∀ other ∈ track.outputs, other.output ≠ link.output) :
    ((server.setOutput link.output { output with links := link :: output.links }).setTrack
      link.track (some { track with outputs := link :: track.outputs })).Inv := by
  have trackInv := inv.tracks link.track track there
  have outputInv := inv.outputs link.output output isOutput
  have formats := formats_linked isOutput
  -- The output's links for this track would be links of the track.
  have others (other : Link) (member : other ∈ output.links) : link.track ≠ other.track := by
    intro same
    have shared := outputInv.shared other member track (same ▸ there)
    exact unlinked other shared (outputInv.own other member)
  refine ⟨?_, ?_, ?_, inv.managed⟩
  · intro index other isTrack
    rw [setTrack_tracks] at isTrack
    split at isTrack
    next same =>
      obtain rfl := Option.some.inj isTrack
      refine ⟨List.pairwise_cons.mpr ⟨fun other member => (unlinked other member).symm,
        trackInv.single⟩, ?_, ?_⟩
      · intro other member
        rcases List.mem_cons.mp member with rfl | before
        · exact same.symm
        · exact same ▸ trackInv.own other before
      · intro other member
        rcases List.mem_cons.mp member with rfl | before
        · refine ⟨isFormat, ?_⟩
          obtain ⟨after, isAfter, sameFormat⟩ := formats _ output isOutput
          exact ⟨after, isAfter, by rw [sameFormat]; exact selected⟩
        · exact (trackInv.selected other before).congr formats
    next =>
      have before := inv.tracks index other isTrack
      exact ⟨before.single, before.own, fun link member =>
        (before.selected link member).congr formats⟩
  · intro index after isAfter
    rw [setTrack_outputs, setOutput_outputs] at isAfter
    split at isAfter
    next same =>
      obtain rfl := Option.some.inj isAfter
      refine ⟨List.pairwise_cons.mpr ⟨others, outputInv.single⟩, ?_, ?_, ?_⟩
      · intro other member
        rcases List.mem_cons.mp member with rfl | before
        · exact same.symm
        · exact same ▸ outputInv.own other before
      · intro other member
        rcases List.mem_cons.mp member with rfl | before
        · exact inv.created _ track there
        · exact outputInv.created other before
      · intro other member next isNext
        rcases List.mem_cons.mp member with rfl | before
        · rw [setTrack_tracks, if_pos rfl] at isNext
          obtain rfl := Option.some.inj isNext
          exact List.mem_cons_self
        · exact shared_linked there (outputInv.shared other before) next isNext
    next =>
      have before := inv.outputs index after isAfter
      exact ⟨before.single, before.own, before.created, fun other member next isNext =>
        shared_linked there (before.shared other member) next isNext⟩
  · intro index other isTrack
    rw [setTrack_tracks] at isTrack
    split at isTrack
    next same => exact same ▸ inv.created link.track track there
    next => exact inv.created index other isTrack

structure Linking (server : AudioServer) (index : Nat) (format : AudioFormat)
    (left : List Nat) : Prop where
  inv : server.Inv
  distinct : left.Nodup
  configured : ∃ track, server.tracks index = some track ∧ track.format = some format ∧
    ∀ link ∈ track.outputs, link.output ∉ left

theorem Linking.addLink {server : AudioServer} {index : Nat} {format : AudioFormat}
    {outputIndex : Nat} {left : List Nat} {track : Track}
    (linking : server.Linking index format (outputIndex :: left))
    (there : server.tracks index = some track) (isFormat : track.format = some format) :
    (server.addLink index track format outputIndex).Linking index format left := by
  obtain ⟨inv, distinct, other, isOther, -, unlinked⟩ := linking
  obtain rfl := Option.some.inj (there.symm.trans isOther)
  obtain ⟨notLeft, distinctLeft⟩ := List.nodup_cons.mp distinct
  have skipped : server.Linking index format left :=
    ⟨inv, distinctLeft, track, there, isFormat, fun link member inLeft =>
      unlinked link member (List.mem_cons_of_mem _ inLeft)⟩
  rw [AudioServer.addLink]
  split
  next => exact skipped
  next output isOutput =>
    split
    next => exact skipped
    next mixer selected =>
      split
      next => exact skipped
      next =>
        let link : Link :=
          { id := server.nextLink, track := index, output := outputIndex, mixer, format }
        have linked : ((server.setOutput outputIndex
            { output with links := link :: output.links }).setTrack index
            (some { track with outputs := link :: track.outputs })).Inv := by
          refine Inv.link inv (show server.tracks link.track = some track from there) isOutput
            isFormat selected ?_
          exact fun other member same => unlinked other member (same ▸ List.mem_cons_self)
        refine ⟨linked.congr rfl rfl rfl inv.managed, distinctLeft, _, if_pos rfl, isFormat, ?_⟩
        intro other member
        rcases List.mem_cons.mp member with rfl | before
        · exact notLeft
        · exact fun inLeft => unlinked other before (List.mem_cons_of_mem _ inLeft)

theorem Linking.selectOutputs {index : Nat} {format : AudioFormat} (left : List Nat)
    {server : AudioServer} (linking : server.Linking index format left) :
    (server.selectOutputsForTrack index left).Inv := by
  induction left generalizing server with
  | nil => exact linking.inv
  | cons output rest ih =>
    obtain ⟨track, there, isFormat, -⟩ := linking.configured
    simp only [selectOutputsForTrack, there, isFormat]
    exact ih (linking.addLink there isFormat)

theorem accept_format {configuration : Configuration} {track configured : Track}
    (accepted : configuration.accept track = some configured) :
    (∃ format, configured.format = some format) ∧ configured.outputs = track.outputs := by
  simp only [Configuration.accept, Option.bind_eq_bind, Option.bind_eq_some_iff] at accepted
  obtain ⟨format, -, rest⟩ := accepted
  split at rest
  next => cases rest
  next =>
    split at rest
    next => cases rest
    next =>
      split at rest
      next => cases rest
      next =>
        split at rest
        next => cases rest
        next =>
          obtain rfl := Option.some.inj rest
          exact ⟨⟨format, rfl⟩, rfl⟩

theorem Inv.configure {server : AudioServer} (inv : server.Inv) {index : Nat} {track : Track}
    (there : server.tracks index = some track) (configuration : Configuration)
    (unlinked : track.pipeInitialized ∨ configuration.accept track = none ∨ track.outputs = []) :
    (server.configure index track configuration).Inv := by
  rw [AudioServer.configure]
  split
  next => exact inv.shutdownTrack there
  next notBound =>
    split
    next => exact inv.shutdownTrack there
    next configured accepted =>
      obtain ⟨⟨format, isFormat⟩, sameOutputs⟩ := accept_format accepted
      have noLinks : track.outputs = [] := by simpa [notBound, accepted] using unlinked
      refine Linking.selectOutputs server.managed ⟨inv.setTrack there _ ?_, inv.managed,
        configured, if_pos rfl, isFormat, ?_⟩
      · rintro next ⟨⟩
        rw [noLinks] at sameOutputs ⊢
        refine ⟨⟨?_, ?_, ?_⟩, List.forall_mem_nil _⟩
        · rw [sameOutputs]
          exact .nil
        · rw [sameOutputs]
          exact List.forall_mem_nil _
        · rw [sameOutputs]
          exact List.forall_mem_nil _
      · rw [sameOutputs, noLinks]
        exact List.forall_mem_nil _

def Unlinked (server : AudioServer) : Event → Prop
  | .configure index configuration => ∀ track ∈ server.tracks index,
      track.pipeInitialized ∨ (configuration.accept track).isNone ∨ track.outputs.isEmpty
  | _ => True

instance decidableUnlinked (server : AudioServer) :
    (event : Event) → Decidable (server.Unlinked event)
  | .configure _ _ => inferInstanceAs (Decidable (∀ track ∈ _, _))
  | .createTrack => isTrue trivial
  | .pipeReset _ => isTrue trivial
  | .trackShutdown _ => isTrue trivial
  | .beginShutdown _ => isTrue trivial
  | .finishShutdown _ => isTrue trivial
  | .dropLink _ _ => isTrue trivial
  | .removeTrackLink _ _ => isTrue trivial

theorem step_inv (server : AudioServer) (event : Event) (next : AudioServer) (inv : server.Inv)
    (guard : server.Unlinked event) (taken : step server event = some next) : next.Inv := by
  cases event with
  | createTrack =>
    obtain rfl := Option.some.inj taken
    exact inv.createTrack
  | configure index configuration =>
    obtain ⟨track, there, result⟩ := Option.bind_eq_some_iff.mp taken
    obtain rfl := Option.some.inj result
    exact inv.configure there configuration (by simpa using guard track there)
  | pipeReset index =>
    obtain ⟨track, there, result⟩ := Option.bind_eq_some_iff.mp taken
    obtain rfl := Option.some.inj result
    exact inv.pipeReset there
  | trackShutdown index =>
    obtain ⟨track, there, result⟩ := Option.bind_eq_some_iff.mp taken
    obtain rfl := Option.some.inj result
    exact inv.shutdownTrack there
  | beginShutdown index =>
    obtain ⟨output, there, result⟩ := Option.bind_eq_some_iff.mp taken
    obtain rfl := Option.some.inj result
    exact inv.setOutput there (List.Sublist.refl _) rfl
  | finishShutdown index =>
    obtain ⟨output, there, result⟩ := Option.bind_eq_some_iff.mp taken
    split at result
    next =>
      obtain rfl := Option.some.inj result
      exact inv.shutdownOutput there
    next => cases result
  | dropLink index link =>
    obtain ⟨output, there, result⟩ := Option.bind_eq_some_iff.mp taken
    split at result
    next =>
      obtain rfl := Option.some.inj result
      exact inv.setOutput there List.filter_sublist rfl
    next => cases result
  | removeTrackLink index link =>
    obtain ⟨output, there, result⟩ := Option.bind_eq_some_iff.mp taken
    split at result
    next =>
      obtain rfl := Option.some.inj result
      exact inv
    next =>
      obtain rfl := Option.some.inj result
      exact inv.setOutput there List.filter_sublist rfl

theorem initialized_inv (formats : List (Option AudioFormat)) : (initialized formats).Inv := by
  refine ⟨nofun, ?_, nofun, List.nodup_range⟩
  intro index output isOutput
  obtain ⟨format, -, rfl⟩ := Option.map_eq_some_iff.mp isOutput
  exact ⟨.nil, List.forall_mem_nil _, List.forall_mem_nil _, List.forall_mem_nil _⟩

theorem one_link_while_unlinked (formats : List (Option AudioFormat)) (events : List Event)
    (server : AudioServer) (meets : Meets step Unlinked (initialized formats) events)
    (reached : run step (initialized formats) events = some server) : server.OneLink :=
  (invariant_of_step step Unlinked Inv step_inv (initialized formats) server events
    (initialized_inv formats) meets reached).oneLink

def stereoConfiguration : Configuration :=
  { medium := .audio
    encoding := "lpcm"
    details := some { sampleFormat := .signed16, channels := 2, framesPerSecond := 48000 }
    audioFrameRatio := 1
    mediaTimeRatio := 1 }

def outputLost : List Event :=
  [.createTrack, .configure 0 stereoConfiguration, .pipeReset 0, .finishShutdown 0,
    .configure 0 stereoConfiguration]

theorem one_link_after_output_lost :
    ∃ server, run step (initialized [none]) outputLost = some server ∧ server.OneLink := by
  have runs : (run step (initialized [none]) outputLost).isSome := by decide +kernel
  obtain ⟨server, reached⟩ := Option.isSome_iff_exists.mp runs
  exact ⟨server, reached, one_link_while_unlinked [none] outputLost server (by decide +kernel)
    reached⟩

def pipeLost : List Event :=
  [.createTrack, .configure 0 stereoConfiguration, .pipeReset 0, .configure 0 stereoConfiguration]

theorem two_links_after_pipe_lost :
    ∃ server, run step (initialized [none]) pipeLost = some server ∧ ¬ server.OneLink := by
  have twice : ((run step (initialized [none]) pipeLost).bind fun server => server.tracks 0).any
      fun track => ¬ track.outputs.Pairwise fun first second => first.output ≠ second.output := by
    decide +kernel
  obtain ⟨track, isTrack, linkedTwice⟩ := (Option.any_eq_true _ _).mp twice
  obtain ⟨server, reached, there⟩ := Option.bind_eq_some_iff.mp isTrack
  refine ⟨server, reached, fun oneLink => ?_⟩
  exact (of_decide_eq_true linkedTwice) (oneLink.ofTrack 0 track there)

end MojoMedia.Audio.AudioServer
