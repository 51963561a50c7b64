import MojoMedia.FrameworkMojo.MojoReader

set_option autoImplicit false

namespace MojoMedia

open MachineInt Runs

def readCount (size : Nat) (request : Nat × Nat) : Nat :=
  min (request.1 + request.2) size - request.1

structure Completion.Delivers (content : List UInt8) (size : Nat) (completion : Completion) :
    Prop where
  bytes : completion.bytes = slice content completion.position (readCount size completion.request)
  length : completion.bytes.length = readCount size completion.request
  bytesRead : completion.bytesRead = completion.bytes.length

namespace MojoReader

structure Readable (size : Nat) (request : Nat × Nat) : Prop where
  inside : request.1 < size
  positive : 0 < request.2
  small : request.1 + request.2 < 2 ^ 64
  narrow : readCount size request < 2 ^ 32

instance (size : Nat) (request : Nat × Nat) : Decidable (Readable size request) :=
  decidable_of_iff (request.1 < size ∧ 0 < request.2 ∧ request.1 + request.2 < 2 ^ 64 ∧
      readCount size request < 2 ^ 32)
    ⟨fun ⟨inside, positive, small, narrow⟩ => ⟨inside, positive, small, narrow⟩,
      fun ⟨inside, positive, small, narrow⟩ => ⟨inside, positive, small, narrow⟩⟩

def Allowed (content : List UInt8) (size : Nat) (reader : MojoReader) : Event → Prop
  | .describe result described canSeek _ =>
    result = .ok → described = size ∧ canSeek = true
  | .readAt position bytesToRead => Readable size (position, bytesToRead)
  | .opened result pipe _ => result = .ok → pipe = some (content.drop reader.readAtPosition)
  | .task _ | .readable _ _ => True

instance (content : List UInt8) (size : Nat) (reader : MojoReader) :
    DecidablePred (Allowed content size reader)
  | .describe result described canSeek _ =>
    inferInstanceAs (Decidable (result = .ok → described = size ∧ canSeek = true))
  | .readAt position bytesToRead =>
    inferInstanceAs (Decidable (Readable size (position, bytesToRead)))
  | .opened result pipe _ =>
    inferInstanceAs (Decidable (result = .ok → pipe = some (content.drop reader.readAtPosition)))
  | .task _ => isTrue trivial
  | .readable _ _ => isTrue trivial

def Unfailing (_ : MojoReader) : Event → Prop
  | .describe result _ _ read => result = .ok ∧ (read.result = .ok ∨ read.result = .shouldWait)
  | .readAt _ _ => True
  | .task read => read.result = .ok ∨ read.result = .shouldWait
  | .opened result _ read => result = .ok ∧ (read.result = .ok ∨ read.result = .shouldWait)
  | .readable result read => result = .ok ∧ (read.result = .ok ∨ read.result = .shouldWait)

def Aligned (content : List UInt8) (reader : MojoReader) : Prop :=
  reader.consumerHandlePosition = kUnknownSize ∨
    reader.consumerHandle = some (content.drop reader.consumerHandlePosition)

structure Started (content : List UInt8) (size : Nat) (reader : MojoReader)
    (request : Nat × Nat) : Prop where
  asked : reader.request = some request
  readable : Readable size request
  position : reader.readAtPosition = request.1
  bytesToRead : reader.readAtBytesToRead = readCount size request
  counts : reader.readAtBuffer.length + reader.readAtBytesRemaining = readCount size request
  copied : reader.readAtBuffer = slice content request.1 reader.readAtBuffer.length

structure Open (content : List UInt8) (reader : MojoReader) (request : Nat × Nat) : Prop where
  handle : reader.consumerHandle = some (content.drop (request.1 + reader.readAtBuffer.length))
  position : reader.consumerHandlePosition = request.1 + reader.readAtBuffer.length

structure Waits (size : Nat) (reader : MojoReader) (request : Nat × Nat) : Prop where
  asked : reader.request = some request
  readable : Readable size request
  position : reader.readAtPosition = request.1
  bytesToRead : reader.readAtBytesToRead = request.2
  empty : reader.readAtBuffer = []

def Progress (content : List UInt8) (size : Nat) (reader : MojoReader) : Pending → Prop
  | .nothing => reader.request = none
  | .task => ∃ request, Waits size reader request
  | .ready => reader.ready = false ∧ ∃ request, Waits size reader request
  | .seekingReader => reader.ready = true ∧ reader.result = .ok ∧
      ∃ request, Started content size reader request ∧ reader.readAtBuffer = []
  | .readable => reader.ready = true ∧ ∃ request, Started content size reader request ∧
      Open content reader request ∧ 0 < reader.readAtBytesRemaining

structure Kept (content : List UInt8) (size : Nat) (reader : MojoReader) : Prop where
  delivered : ∀ completion ∈ reader.completions, completion.result = .ok →
    completion.Delivers content size
  conserved : reader.completions.map Completion.request ++ reader.request.toList = reader.requests
  aligned : Aligned content reader
  described : reader.ready = true → reader.result = .ok →
    reader.size = size ∧ reader.canSeek = true

structure Inv (content : List UInt8) (size : Nat) (reader : MojoReader) : Prop where
  kept : Kept content size reader
  progress : Progress content size reader reader.pending

structure Fine (reader : MojoReader) : Prop where
  ok : reader.result = .ok
  completions : ∀ completion ∈ reader.completions, completion.result = .ok

def Leaves (content : List UInt8) (size : Nat) (reader next : MojoReader) (fine : Prop) : Prop :=
  Inv content size next ∧ (Fine reader → fine → Fine next)

variable {content : List UInt8} {size : Nat} {reader next : MojoReader} {request : Nat × Nat}

theorem Readable.count (readable : Readable size request) :
    0 < readCount size request ∧ readCount size request ≤ request.2 := by
  obtain ⟨inside, positive, -, -⟩ := readable
  simp only [readCount]
  omega

theorem Readable.known (readable : Readable size request) : request.1 ≠ kUnknownSize := by
  have small := readable.small
  have positive := readable.positive
  simp only [kUnknownSize]
  omega

theorem convertResult_ne_ok {result : MojoResult} (failed : result ≠ .ok) :
    convertResult result ≠ .ok := by
  cases result with
  | ok => exact absurd rfl failed
  | _ => simp [convertResult]

theorem Kept.completed (kept : Kept content size reader) (asked : reader.request = some request)
    (result : Result) (bytesRead : Nat)
    (delivers : result = .ok → Completion.Delivers content size
      ⟨request.1, request.2, result, bytesRead, reader.readAtBuffer⟩) :
    Leaves content size reader (reader.completeReadAt result bytesRead) (result = .ok) := by
  obtain ⟨delivered, conserved, aligned, described⟩ := kept
  have completed : (reader.completeReadAt result bytesRead).completions = reader.completions ++
      [⟨request.1, request.2, result, bytesRead, reader.readAtBuffer⟩] := by
    simp [completeReadAt, asked]
  refine ⟨⟨⟨?_, ?_, aligned, described⟩, rfl⟩, ?_⟩
  · rw [completed]
    intro completion member ok
    rcases List.mem_append.mp member with before | now
    · exact delivered completion before ok
    · obtain rfl := List.mem_singleton.mp now
      exact delivers ok
  · rw [completed]
    rw [asked] at conserved
    simpa [completeReadAt, Completion.request] using conserved
  · intro fine ok
    refine ⟨fine.ok, ?_⟩
    rw [completed]
    intro completion member
    rcases List.mem_append.mp member with before | now
    · exact fine.completions completion before
    · obtain rfl := List.mem_singleton.mp now
      exact ok

theorem Kept.failed (kept : Kept content size reader) (asked : reader.request = some request)
    {result : MojoResult} (failed : result ≠ .ok) :
    Leaves content size reader (reader.failReadAt result) False := by
  have notOk := convertResult_ne_ok failed
  have closed : Kept content size { reader with
      result := convertResult result
      consumerHandle := none
      consumerHandlePosition := kUnknownSize } :=
    ⟨kept.delivered, kept.conserved, .inl rfl, fun _ ok => absurd ok notOk⟩
  exact ⟨(closed.completed asked _ 0 fun ok => absurd ok notOk).1, fun _ => False.elim⟩

theorem Started.advance (started : Started content size reader request)
    (opened : Open content reader request) {byteCount : Nat}
    (asked : byteCount ≤ reader.readAtBytesRemaining)
    (there : byteCount ≤ (content.drop (request.1 + reader.readAtBuffer.length)).length) :
    Started content size (reader.advance
        (content.drop (request.1 + reader.readAtBuffer.length)) byteCount) request ∧
      Open content (reader.advance
        (content.drop (request.1 + reader.readAtBuffer.length)) byteCount) request := by
  obtain ⟨isRequest, readable, position, bytesToRead, counts, copied⟩ := started
  have few := readable.count.2
  have small := readable.small
  have length : (reader.readAtBuffer ++
      (content.drop (request.1 + reader.readAtBuffer.length)).take byteCount).length =
        reader.readAtBuffer.length + byteCount := by
    rw [List.length_append, List.length_take, Nat.min_eq_left there]
  refine ⟨⟨isRequest, readable, position, bytesToRead, ?_, ?_⟩, ?_, ?_⟩
  · simp only [MojoReader.advance, length]
    rw [subU64_of_le _ _ (by omega) asked]
    omega
  · simp only [MojoReader.advance, length]
    rw [← slice_append, ← copied]
    rfl
  · simp only [MojoReader.advance, length, List.drop_drop]
    congr 2
    omega
  · simp only [MojoReader.advance, length, opened.position]
    rw [u64_of_lt _ (by omega)]
    omega

theorem Kept.advance (kept : Kept content size reader) {pipe : Pipe} {byteCount : Nat}
    (opened : Open content (reader.advance pipe byteCount) request) :
    Kept content size (reader.advance pipe byteCount) := by
  refine ⟨kept.delivered, kept.conserved, .inr ?_, kept.described⟩
  rw [opened.handle, opened.position]

theorem Kept.continueOrComplete (kept : Kept content size reader) (ready : reader.ready = true)
    (started : Started content size reader request) (opened : Open content reader request) :
    Leaves content size reader reader.continueOrComplete True := by
  rw [MojoReader.continueOrComplete]
  split
  next finished =>
    have counts := started.counts
    have length : reader.readAtBuffer.length = readCount size request := by omega
    obtain ⟨inv, fine⟩ := kept.completed started.asked .ok reader.readAtBytesToRead fun _ => by
      refine ⟨?_, length, started.bytesToRead.trans length.symm⟩
      have copied := started.copied
      rw [length] at copied
      exact copied
    exact ⟨inv, fun before _ => fine before rfl⟩
  next more =>
    have open' : Open content { reader with pending := .readable } request :=
      ⟨opened.handle, opened.position⟩
    refine ⟨⟨⟨kept.delivered, kept.conserved, kept.aligned, kept.described⟩, ready, request,
      ⟨started.asked, started.readable, started.position, started.bytesToRead, started.counts,
        started.copied⟩, open', Nat.pos_of_ne_zero more⟩, fun fine _ => ⟨fine.ok, fine.completions⟩⟩

theorem Kept.readResponseBody (kept : Kept content size reader) (ready : reader.ready = true)
    (started : Started content size reader request) (opened : Open content reader request)
    {read : ReadData} (taken : reader.readResponseBody read = some next) :
    Leaves content size reader next (read.result = .ok ∨ read.result = .shouldWait) := by
  have counts := started.counts
  have narrow := started.readable.narrow
  -- The count fits in the pipe's 32 bits.
  have width : u32 reader.readAtBytesRemaining = reader.readAtBytesRemaining :=
    u32_of_lt _ (by omega)
  have goesOn {byteCount : Nat} (fine : Prop) (asked : byteCount ≤ reader.readAtBytesRemaining)
      (there : byteCount ≤ (content.drop (request.1 + reader.readAtBuffer.length)).length) :
      Leaves content size reader
        (reader.advance (content.drop (request.1 + reader.readAtBuffer.length))
          byteCount).continueOrComplete fine := by
    obtain ⟨further, stillOpen⟩ := started.advance opened asked there
    obtain ⟨inv, stillFine⟩ := (kept.advance stillOpen).continueOrComplete ready further stillOpen
    exact ⟨inv, fun before _ => stillFine ⟨before.ok, before.completions⟩ trivial⟩
  simp only [MojoReader.readResponseBody, opened.handle, width] at taken
  cases outcome : read.result with
  | ok =>
    simp only [outcome, Option.ite_none_right_eq_some] at taken
    obtain ⟨⟨asked, there⟩, same⟩ := taken
    obtain rfl := Option.some.inj same
    exact goesOn _ asked there
  | shouldWait =>
    simp only [outcome] at taken
    obtain rfl := Option.some.inj taken
    exact goesOn _ (Nat.zero_le _) (Nat.zero_le _)
  | _ =>
    simp only [outcome] at taken
    obtain rfl := Option.some.inj taken
    obtain ⟨inv, -⟩ := @Kept.failed _ _ _ _ kept started.asked read.result (by simp [outcome])
    rw [outcome] at inv
    exact ⟨inv, fun _ => by simp⟩

theorem Waits.bounded (waits : Waits size reader request) (sized : reader.size = size) :
    Started content size reader.bounded request := by
  obtain ⟨asked, readable, position, bytesToRead, empty⟩ := waits
  have count : reader.bounded.readAtBytesToRead = readCount size request := by
    obtain ⟨inside, positive, small, -⟩ := readable
    simp only [MojoReader.bounded, position, bytesToRead, sized, readCount]
    rw [u64_of_lt _ small]
    split
    next => rw [subU64_of_le _ _ (by omega) (by omega)]; omega
    next => omega
  refine ⟨asked, readable, position, count, ?_, ?_⟩
  · have none : reader.bounded.readAtBuffer = [] := empty
    rw [none, List.length_nil, Nat.zero_add]
    exact count
  · have none : reader.bounded.readAtBuffer = [] := empty
    simp [none, slice]

theorem Kept.startReadAt (kept : Kept content size reader) (ready : reader.ready = true)
    (waits : Waits size reader request) {read : ReadData}
    (taken : reader.startReadAt read = some next) :
    Leaves content size reader next (read.result = .ok ∨ read.result = .shouldWait) := by
  rw [MojoReader.startReadAt] at taken
  split at taken
  next failed =>
    obtain rfl := Option.some.inj taken
    obtain ⟨inv, -⟩ := kept.completed waits.asked reader.result 0 fun ok => absurd ok failed
    exact ⟨inv, fun fine _ => absurd fine.ok failed⟩
  next notFailed =>
    have ok : reader.result = .ok := not_not.mp notFailed
    obtain ⟨sized, canSeek⟩ := kept.described ready ok
    have started : Started content size reader.bounded request := waits.bounded sized
    have bounded : Kept content size reader.bounded :=
      ⟨kept.delivered, kept.conserved, kept.aligned, kept.described⟩
    have fineBounded (fine : Fine reader) : Fine reader.bounded := ⟨fine.ok, fine.completions⟩
    simp only at taken
    split at taken
    next same =>
      -- The read goes on where the last one ended.
      have known : reader.bounded.consumerHandlePosition ≠ kUnknownSize := by
        rw [← same, started.position]
        exact started.readable.known
      have empty : reader.bounded.readAtBuffer = [] := waits.empty
      have opened : Open content reader.bounded request := by
        refine ⟨?_, ?_⟩
        · have handle := bounded.aligned.resolve_left known
          rw [← same, started.position] at handle
          rw [empty]
          exact handle
        · rw [empty, ← same, started.position]
          rfl
      obtain ⟨inv, fine⟩ := bounded.readResponseBody ready started opened taken
      exact ⟨inv, fun before => fine (fineBounded before)⟩
    next =>
      split at taken
      next wrong =>
        have seeks : reader.canSeek = false := wrong.1
        rw [canSeek] at seeks
        cases seeks
      next =>
        obtain rfl := Option.some.inj taken
        refine ⟨⟨⟨kept.delivered, kept.conserved, .inl rfl, kept.described⟩, ready, ok, request,
          ⟨started.asked, started.readable, started.position, started.bytesToRead, started.counts,
            started.copied⟩, waits.empty⟩, fun fine _ => ⟨fine.ok, fine.completions⟩⟩

theorem Inv.describe (inv : Inv content size reader) (notReady : reader.ready = false)
    {result : Result} {described : Nat} {canSeek : Bool} {read : ReadData}
    (allowed : result = .ok → described = size ∧ canSeek = true)
    (taken : reader.describe result described canSeek read = some next) :
    Leaves content size reader next
      (result = .ok ∧ (read.result = .ok ∨ read.result = .shouldWait)) := by
  obtain ⟨⟨delivered, conserved, aligned, -⟩, progress⟩ := inv
  -- Whatever the answer is, it becomes known, and a read that waits for it starts.
  have answered (after : MojoReader) (kept : Kept content size after)
      (ready : after.ready = true) (same : after.pending = reader.pending)
      (sameRequest : after.request = reader.request)
      (waits : ∀ request, Waits size reader request → Waits size after request)
      (fine : Fine reader → result = .ok → Fine after)
      (result' : (if after.pending = .ready then after.startReadAt read else some after) =
        some next) :
      Leaves content size reader next
        (result = .ok ∧ (read.result = .ok ∨ read.result = .shouldWait)) := by
    cases pending : reader.pending with
    | ready =>
      rw [pending] at progress
      obtain ⟨-, request, isWaiting⟩ := progress
      rw [if_pos (same.trans pending)] at result'
      obtain ⟨inv, stillFine⟩ := kept.startReadAt ready (waits request isWaiting) result'
      exact ⟨inv, fun before now => stillFine (fine before now.1) now.2⟩
    | nothing =>
      rw [pending] at progress
      rw [if_neg (by simp [same, pending])] at result'
      obtain rfl := Option.some.inj result'
      refine ⟨⟨kept, ?_⟩, fun before now => fine before now.1⟩
      rw [same, pending]
      exact sameRequest.trans progress
    | task =>
      rw [pending] at progress
      obtain ⟨request, isWaiting⟩ := progress
      rw [if_neg (by simp [same, pending])] at result'
      obtain rfl := Option.some.inj result'
      refine ⟨⟨kept, ?_⟩, fun before now => fine before now.1⟩
      rw [same, pending]
      exact ⟨request, waits request isWaiting⟩
    | seekingReader =>
      rw [pending] at progress
      exact absurd (progress.1.symm.trans notReady) (by simp)
    | readable =>
      rw [pending] at progress
      exact absurd (progress.1.symm.trans notReady) (by simp)
  rw [MojoReader.describe] at taken
  by_cases ok : result = .ok
  · rw [if_pos ok] at taken
    refine answered { reader with result, size := described, canSeek, ready := true }
      ⟨delivered, conserved, aligned, fun _ _ => allowed ok⟩ rfl rfl rfl
      (fun request waits => ⟨waits.asked, waits.readable, waits.position, waits.bytesToRead,
        waits.empty⟩) (fun fine now => ⟨now, fine.completions⟩) taken
  · rw [if_neg ok] at taken
    refine answered { reader with result, ready := true }
      ⟨delivered, conserved, aligned, fun _ now => absurd now ok⟩ rfl rfl rfl
      (fun request waits => ⟨waits.asked, waits.readable, waits.position, waits.bytesToRead,
        waits.empty⟩) (fun _ now => absurd now ok) taken

theorem Inv.readAt (inv : Inv content size reader) (free : reader.request = none)
    {position bytesToRead : Nat} (readable : Readable size (position, bytesToRead)) :
    Leaves content size reader (reader.readAt position bytesToRead) True := by
  obtain ⟨⟨delivered, conserved, aligned, described⟩, -⟩ := inv
  refine ⟨⟨⟨delivered, ?_, aligned, described⟩, (position, bytesToRead),
    ⟨rfl, readable, rfl, rfl, rfl⟩⟩, fun fine _ => ⟨fine.ok, fine.completions⟩⟩
  rw [free] at conserved
  simpa [MojoReader.readAt] using conserved

theorem Inv.continueReadAt (inv : Inv content size reader) (pending : reader.pending = .task)
    {read : ReadData} (taken : reader.continueReadAt read = some next) :
    Leaves content size reader next (read.result = .ok ∨ read.result = .shouldWait) := by
  obtain ⟨kept, progress⟩ := inv
  rw [pending] at progress
  obtain ⟨request, waits⟩ := progress
  rw [MojoReader.continueReadAt] at taken
  split at taken
  next ready => exact kept.startReadAt ready waits taken
  next notReady =>
    obtain rfl := Option.some.inj taken
    refine ⟨⟨⟨kept.delivered, kept.conserved, kept.aligned, kept.described⟩, ?_, request,
      ⟨waits.asked, waits.readable, waits.position, waits.bytesToRead, waits.empty⟩⟩,
      fun fine _ => ⟨fine.ok, fine.completions⟩⟩
    simpa using notReady

theorem Inv.opened (inv : Inv content size reader) (pending : reader.pending = .seekingReader)
    {result : Result} {pipe : Option Pipe} {read : ReadData}
    (allowed : result = .ok → pipe = some (content.drop reader.readAtPosition))
    (taken : reader.opened result pipe read = some next) :
    Leaves content size reader next
      (result = .ok ∧ (read.result = .ok ∨ read.result = .shouldWait)) := by
  obtain ⟨kept, progress⟩ := inv
  rw [pending] at progress
  obtain ⟨ready, wasOk, request, started, empty⟩ := progress
  rw [MojoReader.opened] at taken
  split at taken
  next failed =>
    obtain rfl := Option.some.inj taken
    have answered : Kept content size { reader with result } :=
      ⟨kept.delivered, kept.conserved, kept.aligned, fun _ ok => absurd ok failed⟩
    exact ⟨(answered.completed started.asked result 0 fun ok => absurd ok failed).1,
      fun _ now => absurd now.1 failed⟩
  next notFailed =>
    have ok : result = .ok := not_not.mp notFailed
    obtain rfl := allowed ok
    let after : MojoReader :=
      { reader with
        result
        consumerHandle := some (content.drop reader.readAtPosition)
        consumerHandlePosition := reader.readAtPosition }
    have opens : Open content after request := by
      refine ⟨?_, ?_⟩
      · simp only [after, empty, started.position]
        rfl
      · simp only [after, empty, started.position]
        rfl
    have open' : Kept content size after :=
      ⟨kept.delivered, kept.conserved, .inr rfl, fun isReady _ => kept.described isReady wasOk⟩
    have further : Started content size after request :=
      ⟨started.asked, started.readable, started.position, started.bytesToRead, started.counts,
        started.copied⟩
    obtain ⟨left, fine⟩ := open'.readResponseBody ready further opens taken
    exact ⟨left, fun before now => fine ⟨ok, before.completions⟩ now.2⟩

theorem Inv.readable (inv : Inv content size reader) (pending : reader.pending = .readable)
    {result : MojoResult} {read : ReadData} (taken : reader.readable result read = some next) :
    Leaves content size reader next
      (result = .ok ∧ (read.result = .ok ∨ read.result = .shouldWait)) := by
  obtain ⟨kept, progress⟩ := inv
  rw [pending] at progress
  obtain ⟨ready, request, started, opens, -⟩ := progress
  rw [MojoReader.readable] at taken
  split at taken
  next failed =>
    obtain rfl := Option.some.inj taken
    exact ⟨(kept.failed started.asked failed).1, fun _ now => absurd now.1 failed⟩
  next =>
    obtain ⟨left, fine⟩ := kept.readResponseBody ready started opens taken
    exact ⟨left, fun before now => fine before now.2⟩

theorem Inv.step (inv : Inv content size reader) {event : Event}
    (allowed : Allowed content size reader event) (taken : step reader event = some next) :
    Leaves content size reader next (Unfailing reader event) := by
  cases event with
  | describe result described canSeek read =>
    simp only [MojoReader.step, Option.ite_none_left_eq_some] at taken
    exact inv.describe (by simpa using taken.1) allowed taken.2
  | readAt position bytesToRead =>
    simp only [MojoReader.step, Option.ite_none_right_eq_some] at taken
    obtain ⟨free, same⟩ := taken
    obtain rfl := Option.some.inj same
    exact inv.readAt free allowed
  | task read =>
    simp only [MojoReader.step, Option.ite_none_right_eq_some] at taken
    exact inv.continueReadAt taken.1 taken.2
  | opened result pipe read =>
    simp only [MojoReader.step, Option.ite_none_right_eq_some] at taken
    exact inv.opened taken.1 allowed taken.2
  | readable result read =>
    simp only [MojoReader.step, Option.ite_none_right_eq_some] at taken
    exact inv.readable taken.1 taken.2

theorem inv_start (content : List UInt8) (size : Nat) : Inv content size { } :=
  ⟨⟨nofun, rfl, .inl rfl, nofun⟩, rfl⟩

def outstanding (size : Nat) (reader : MojoReader) : Nat :=
  if reader.pending = .readable then reader.readAtBytesRemaining
  else reader.request.elim 0 (readCount size)

def Event.yields : Event → Bool
  | .readable .ok read => read.result = .ok ∧ 0 < read.byteCount
  | _ => false

def Nears (size : Nat) (reader next : MojoReader) (bytes : Nat) : Prop :=
  reader.completions.length < next.completions.length ∨
    next.request = reader.request ∧ next.completions = reader.completions ∧
      outstanding size next + bytes ≤ outstanding size reader

theorem completed_longer (asked : reader.request = some request) (result : Result)
    (bytesRead : Nat) :
    reader.completions.length < (reader.completeReadAt result bytesRead).completions.length := by
  simp [completeReadAt, asked]

theorem readResponseBody_remaining (asked : reader.request = some request)
    (narrow : reader.readAtBytesRemaining < 2 ^ 32) {read : ReadData}
    (taken : reader.readResponseBody read = some next) :
    reader.completions.length < next.completions.length ∨
      next.request = reader.request ∧ next.completions = reader.completions ∧
        next.pending = .readable ∧
          next.readAtBytesRemaining + (if read.result = .ok then read.byteCount else 0) ≤
            reader.readAtBytesRemaining := by
  have goesOn {pipe : Pipe} {byteCount : Nat} (few : byteCount ≤ reader.readAtBytesRemaining)
      (same : (reader.advance pipe byteCount).continueOrComplete = next) :
      reader.completions.length < next.completions.length ∨
        next.request = reader.request ∧ next.completions = reader.completions ∧
          next.pending = .readable ∧
            next.readAtBytesRemaining + byteCount ≤ reader.readAtBytesRemaining := by
    rw [continueOrComplete] at same
    split at same
    next =>
      obtain rfl := same
      exact .inl (@completed_longer (reader.advance pipe byteCount) _ asked _ _)
    next =>
      obtain rfl := same
      refine .inr ⟨rfl, rfl, rfl, ?_⟩
      simp only [MojoReader.advance]
      rw [subU64_of_le _ _ (by omega) few]
      omega
  rw [MojoReader.readResponseBody, u32_of_lt _ narrow] at taken
  split at taken
  next =>
    obtain rfl := Option.some.inj taken
    exact .inl (completed_longer (by exact asked) _ _)
  next pipe handle =>
    cases outcome : read.result with
    | ok =>
      simp only [outcome, Option.ite_none_right_eq_some] at taken
      simpa using goesOn taken.1.1 (Option.some.inj taken.2)
    | shouldWait =>
      simp only [outcome] at taken
      simpa using goesOn (Nat.zero_le _) (Option.some.inj taken)
    | _ =>
      simp only [outcome] at taken
      obtain rfl := Option.some.inj taken
      exact .inl (completed_longer (by exact asked) _ _)

theorem startReadAt_nears (sized : reader.result = .ok → reader.size = size)
    (waits : Waits size reader request) (early : reader.pending ≠ .readable) {read : ReadData}
    (taken : reader.startReadAt read = some next) : Nears size reader next 0 := by
  have whole : outstanding size reader = readCount size request := by
    rw [outstanding, if_neg early, waits.asked]
    rfl
  rw [MojoReader.startReadAt] at taken
  split at taken
  next =>
    obtain rfl := Option.some.inj taken
    exact .inl (completed_longer waits.asked _ _)
  next notFailed =>
    have started : Started [] size reader.bounded request :=
      waits.bounded (sized (not_not.mp notFailed))
    have counts := started.counts
    have narrow := waits.readable.narrow
    simp only at taken
    split at taken
    next =>
      rcases readResponseBody_remaining started.asked (by omega) taken with
        completed | ⟨same, sameCompletions, pending, less⟩
      · exact .inl completed
      · refine .inr ⟨same, sameCompletions, ?_⟩
        rw [whole, outstanding, if_pos pending]
        omega
    next =>
      split at taken
      next =>
        obtain rfl := Option.some.inj taken
        exact .inl (completed_longer (by exact waits.asked) _ _)
      next =>
        obtain rfl := Option.some.inj taken
        refine .inr ⟨rfl, rfl, ?_⟩
        rw [whole, outstanding, if_neg (by simp)]
        simp [bounded, waits.asked]

theorem Inv.describe_nears (inv : Inv content size reader) (asked : reader.request ≠ none)
    (notReady : reader.ready = false) {result : Result} {described : Nat} {canSeek : Bool}
    {read : ReadData} (allowed : result = .ok → described = size ∧ canSeek = true)
    (taken : reader.describe result described canSeek read = some next) :
    Nears size reader next 0 := by
  obtain ⟨-, progress⟩ := inv
  -- The reader, with its result, size and ability to seek known.
  have answered (result : Result) (described : Nat) (canSeek : Bool)
      (sized : result = .ok → described = size)
      (taken : (if reader.pending = .ready then
          MojoReader.startReadAt { reader with result, size := described, canSeek, ready := true }
            read
        else some { reader with result, size := described, canSeek, ready := true }) =
          some next) : Nears size reader next 0 := by
    cases pending : reader.pending with
    | ready =>
      rw [pending] at progress
      obtain ⟨-, request, waits⟩ := progress
      rw [if_pos pending] at taken
      let after : MojoReader := { reader with result, size := described, canSeek, ready := true }
      have still : Waits size after request :=
        ⟨waits.asked, waits.readable, waits.position, waits.bytesToRead, waits.empty⟩
      have early : after.pending ≠ .readable := by simp [after, pending]
      have nears : Nears size after next 0 := startReadAt_nears sized still early taken
      exact nears
    | nothing =>
      rw [pending] at progress
      exact absurd progress asked
    | task =>
      rw [if_neg (by simp [pending])] at taken
      obtain rfl := Option.some.inj taken
      exact .inr ⟨rfl, rfl, Nat.le_refl _⟩
    | seekingReader =>
      rw [pending] at progress
      exact absurd (progress.1.symm.trans notReady) (by simp)
    | readable =>
      rw [pending] at progress
      exact absurd (progress.1.symm.trans notReady) (by simp)
  rw [MojoReader.describe] at taken
  by_cases ok : result = .ok
  · rw [if_pos ok] at taken
    exact answered result described canSeek (fun _ => (allowed ok).1) taken
  · rw [if_neg ok] at taken
    exact answered result reader.size reader.canSeek (fun now => absurd now ok) taken

theorem Inv.opened_nears (inv : Inv content size reader) (pending : reader.pending = .seekingReader)
    {result : Result} {pipe : Option Pipe} {read : ReadData}
    (taken : reader.opened result pipe read = some next) : Nears size reader next 0 := by
  obtain ⟨-, progress⟩ := inv
  rw [pending] at progress
  obtain ⟨-, -, request, started, -⟩ := progress
  have counts : reader.readAtBuffer.length + reader.readAtBytesRemaining =
      readCount size request := started.counts
  have narrow := started.readable.narrow
  have whole : outstanding size reader = readCount size request := by
    simp [outstanding, pending, started.asked]
  rw [MojoReader.opened] at taken
  split at taken
  next =>
    obtain rfl := Option.some.inj taken
    exact .inl (@completed_longer { reader with result } _ started.asked _ _)
  next =>
    let answered : MojoReader :=
      { reader with
        result
        consumerHandle := pipe
        consumerHandlePosition := reader.readAtPosition }
    have asked : answered.request = some request := started.asked
    have fits : answered.readAtBytesRemaining < 2 ^ 32 :=
      Nat.lt_of_le_of_lt (Nat.le_of_add_left_le (Nat.le_of_eq counts)) narrow
    rcases readResponseBody_remaining asked fits taken with
      completed | ⟨same, sameCompletions, readable, less⟩
    · exact .inl completed
    · refine .inr ⟨same, sameCompletions, ?_⟩
      rw [whole, outstanding, if_pos readable]
      have less : next.readAtBytesRemaining ≤ reader.readAtBytesRemaining :=
        Nat.le_trans (Nat.le_add_right _ _) less
      omega

theorem Inv.readable_nears (inv : Inv content size reader) (pending : reader.pending = .readable)
    {result : MojoResult} {read : ReadData} (taken : reader.readable result read = some next) :
    Nears size reader next (if (Event.readable result read).yields then 1 else 0) := by
  obtain ⟨-, progress⟩ := inv
  rw [pending] at progress
  obtain ⟨-, request, started, -, -⟩ := progress
  have counts := started.counts
  have narrow := started.readable.narrow
  have whole : outstanding size reader = reader.readAtBytesRemaining := by
    rw [outstanding, if_pos pending]
  rw [MojoReader.readable] at taken
  split at taken
  next =>
    obtain rfl := Option.some.inj taken
    exact .inl (@completed_longer
      { reader with
        result := convertResult result
        consumerHandle := none
        consumerHandlePosition := kUnknownSize } _ started.asked _ _)
  next isOk =>
    rcases readResponseBody_remaining started.asked (by omega) taken with
      completed | ⟨same, sameCompletions, readable, less⟩
    · exact .inl completed
    · refine .inr ⟨same, sameCompletions, ?_⟩
      rw [whole, outstanding, if_pos readable]
      obtain rfl := not_not.mp isOk
      have counted : (if (Event.readable .ok read).yields then 1 else 0) ≤
          if read.result = .ok then read.byteCount else 0 := by
        simp only [Event.yields, decide_eq_true_eq]
        split
        next yields =>
          rw [if_pos yields.1]
          exact yields.2
        next => exact Nat.zero_le _
      omega

theorem Inv.nears (inv : Inv content size reader) (asked : reader.request ≠ none)
    {event : Event} (allowed : Allowed content size reader event)
    (taken : MojoReader.step reader event = some next) :
    Nears size reader next (if event.yields then 1 else 0) := by
  cases event with
  | describe result described canSeek read =>
    simp only [MojoReader.step, Option.ite_none_left_eq_some] at taken
    exact inv.describe_nears asked (by simpa using taken.1) allowed taken.2
  | readAt position bytesToRead =>
    simp [MojoReader.step, asked] at taken
  | task read =>
    simp only [MojoReader.step, Option.ite_none_right_eq_some] at taken
    obtain ⟨pending, taken⟩ := taken
    obtain ⟨kept, progress⟩ := inv
    rw [pending] at progress
    obtain ⟨request, waits⟩ := progress
    rw [MojoReader.continueReadAt] at taken
    split at taken
    next ready =>
      exact startReadAt_nears (fun ok => (kept.described ready ok).1) waits (by simp [pending])
        taken
    next =>
      obtain rfl := Option.some.inj taken
      refine .inr ⟨rfl, rfl, ?_⟩
      simp [outstanding, pending, Event.yields]
  | opened result pipe read =>
    simp only [MojoReader.step, Option.ite_none_right_eq_some] at taken
    exact inv.opened_nears taken.1 taken.2
  | readable result read =>
    simp only [MojoReader.step, Option.ite_none_right_eq_some] at taken
    exact inv.readable_nears taken.1 taken.2

theorem Inv.outstanding_pos (inv : Inv content size reader) (asked : reader.request ≠ none) :
    0 < outstanding size reader := by
  obtain ⟨-, progress⟩ := inv
  have whole {request : Nat × Nat} (early : reader.pending ≠ .readable)
      (isRequest : reader.request = some request) (readable : Readable size request) :
      0 < outstanding size reader := by
    rw [outstanding, if_neg early, isRequest]
    exact readable.count.1
  cases pending : reader.pending with
  | nothing =>
    rw [pending] at progress
    exact absurd progress asked
  | task =>
    rw [pending] at progress
    obtain ⟨request, waits⟩ := progress
    exact whole (by simp [pending]) waits.asked waits.readable
  | ready =>
    rw [pending] at progress
    obtain ⟨-, request, waits⟩ := progress
    exact whole (by simp [pending]) waits.asked waits.readable
  | seekingReader =>
    rw [pending] at progress
    obtain ⟨-, -, request, started, -⟩ := progress
    exact whole (by simp [pending]) started.asked started.readable
  | readable =>
    rw [pending] at progress
    obtain ⟨-, request, -, -, more⟩ := progress
    rw [outstanding, if_pos pending]
    exact more

-- By induction over the run: a read is completed once the pipe has yielded often enough.
theorem completes_by_yields (later : List Event) (final : MojoReader)
    (inv : Inv content size reader) (asked : reader.request ≠ none)
    (meets : Meets step (Allowed content size) reader later)
    (reached : run step reader later = some final)
    (enough : outstanding size reader ≤ later.countP Event.yields) :
    ∃ early middle, early <+: later ∧ run step reader early = some middle ∧
      reader.completions.length < middle.completions.length := by
  induction later generalizing reader with
  | nil =>
    have more := inv.outstanding_pos asked
    simp only [List.countP_nil] at enough
    omega
  | cons event rest ih =>
    obtain ⟨allowed, meetsRest⟩ := meets
    obtain ⟨next, taken, further⟩ := (run_cons step reader final event rest).mp reached
    rcases inv.nears asked allowed taken with completed | ⟨same, sameCompletions, less⟩
    · exact ⟨[event], next, by simp, (run_cons step reader next event []).mpr ⟨next, taken, rfl⟩,
        completed⟩
    · have stillAsked : next.request ≠ none := by rwa [same]
      have fewer : outstanding size next ≤ rest.countP Event.yields := by
        rw [List.countP_cons] at enough
        omega
      obtain ⟨early, middle, front, reachedEarly, completed⟩ :=
        ih (inv.step allowed taken).1 stillAsked (meetsRest next taken) further fewer
      refine ⟨event :: early, middle, List.cons_prefix_cons.mpr ⟨rfl, front⟩,
        (run_cons step reader middle event early).mpr ⟨next, taken, reachedEarly⟩, ?_⟩
      rw [← sameCompletions]
      exact completed

theorem readResponseBody_waits (reader : MojoReader) :
    ∃ next, reader.readResponseBody ⟨.shouldWait, 0⟩ = some next := by
  rw [MojoReader.readResponseBody]
  split
  next => exact ⟨_, rfl⟩
  next => exact ⟨_, rfl⟩

theorem startReadAt_waits (reader : MojoReader) :
    ∃ next, reader.startReadAt ⟨.shouldWait, 0⟩ = some next := by
  rw [MojoReader.startReadAt]
  split
  next => exact ⟨_, rfl⟩
  next =>
    simp only
    split
    next => exact readResponseBody_waits _
    next =>
      split
      next => exact ⟨_, rfl⟩
      next => exact ⟨_, rfl⟩

theorem Inv.yields (inv : Inv content size reader) (pending : reader.pending = .readable)
    (enough : size ≤ content.length) :
    ∃ next, reader.readable .ok ⟨.ok, 1⟩ = some next := by
  obtain ⟨-, progress⟩ := inv
  rw [pending] at progress
  obtain ⟨-, request, started, opens, more⟩ := progress
  have counts := started.counts
  have narrow := started.readable.narrow
  have some : 1 ≤ (content.drop (request.1 + reader.readAtBuffer.length)).length := by
    have inside := started.readable.inside
    simp only [readCount] at counts
    rw [List.length_drop]
    omega
  have asked : 1 ≤ u32 reader.readAtBytesRemaining := by
    rw [u32_of_lt _ (by omega)]
    exact more
  rw [MojoReader.readable, if_neg (by simp)]
  simp only [MojoReader.readResponseBody, opens.handle]
  exact ⟨_, if_pos ⟨asked, some⟩⟩

theorem Inv.not_stuck (inv : Inv content size reader) (asked : reader.request ≠ none)
    (enough : size ≤ content.length) :
    ∃ event next, Allowed content size reader event ∧ Unfailing reader event ∧
      (reader.pending = .readable → event.yields) ∧ MojoReader.step reader event = some next := by
  have progress := inv.progress
  cases pending : reader.pending with
  | nothing =>
    rw [pending] at progress
    exact absurd progress asked
  | task =>
    have ⟨next, taken⟩ : ∃ next, reader.continueReadAt ⟨.shouldWait, 0⟩ = some next := by
      rw [MojoReader.continueReadAt]
      split
      next => exact startReadAt_waits reader
      next => exact ⟨_, rfl⟩
    exact ⟨.task ⟨.shouldWait, 0⟩, next, trivial, .inr rfl, nofun, by
      rw [MojoReader.step, if_pos pending, taken]⟩
  | ready =>
    rw [pending] at progress
    have ⟨next, taken⟩ : ∃ next, reader.describe .ok size true ⟨.shouldWait, 0⟩ = some next := by
      simp only [MojoReader.describe, if_true, pending]
      exact startReadAt_waits _
    exact ⟨.describe .ok size true ⟨.shouldWait, 0⟩, next, fun _ => ⟨rfl, rfl⟩, ⟨rfl, .inr rfl⟩,
      nofun, by simp [MojoReader.step, progress.1, taken]⟩
  | seekingReader =>
    have ⟨next, taken⟩ : ∃ next, reader.opened .ok (some (content.drop reader.readAtPosition))
        ⟨.shouldWait, 0⟩ = some next := by
      rw [MojoReader.opened, if_neg (by simp)]
      exact readResponseBody_waits _
    exact ⟨.opened .ok (some (content.drop reader.readAtPosition)) ⟨.shouldWait, 0⟩, next,
      fun _ => rfl, ⟨rfl, .inr rfl⟩, nofun, by rw [MojoReader.step, if_pos pending, taken]⟩
  | readable =>
    obtain ⟨next, taken⟩ := inv.yields pending enough
    exact ⟨.readable .ok ⟨.ok, 1⟩, next, trivial, ⟨rfl, .inl rfl⟩, fun _ => rfl, by
      rw [MojoReader.step, if_pos pending, taken]⟩

theorem Inv.outstanding_le (inv : Inv content size reader) (asked : reader.request = some request) :
    outstanding size reader ≤ readCount size request := by
  by_cases pending : reader.pending = .readable
  · have progress := inv.progress
    rw [pending] at progress
    obtain ⟨-, other, started, -, -⟩ := progress
    obtain rfl := Option.some.inj (asked.symm.trans started.asked)
    have counts := started.counts
    rw [outstanding, if_pos pending]
    omega
  · rw [outstanding, if_neg pending, asked]
    exact Nat.le_refl _

-- However the service and the pipe fail, what is reported as read is the content. Only a failure
-- makes a read fail, and a read is completed once the pipe has yielded as often as it has bytes.
theorem reads_deliver (content : List UInt8) (size : Nat) (events : List Event)
    (allowed : Meets step (Allowed content size) { } events) (reader : MojoReader)
    (reached : run step { } events = some reader) :
    (∀ completion ∈ reader.completions, completion.result = .ok →
        completion.Delivers content size) ∧
      reader.completions.map Completion.request ++ reader.request.toList = reader.requests ∧
      Aligned content reader ∧
      (Meets step Unfailing { } events →
        ∀ completion ∈ reader.completions, completion.result = .ok) ∧
      (reader.request ≠ none → size ≤ content.length →
        ∃ event next, Allowed content size reader event ∧ Unfailing reader event ∧
          (reader.pending = .readable → event.yields) ∧ step reader event = some next) ∧
      ∀ request, reader.request = some request →
        ∀ later final, Meets step (Allowed content size) reader later →
          run step reader later = some final →
          readCount size request ≤ later.countP Event.yields →
          ∃ early middle, early <+: later ∧ run step reader early = some middle ∧
            reader.completions.length < middle.completions.length := by
  have inv : Inv content size reader :=
    invariant_of_step step (Allowed content size) (Inv content size)
      (fun _ _ _ before allowed taken => (before.step allowed taken).1) { } reader events
      (inv_start content size) allowed reached
  refine ⟨inv.kept.delivered, inv.kept.conserved, inv.kept.aligned, ?_, inv.not_stuck, ?_⟩
  · intro unfailing
    have fine : Inv content size reader ∧ Fine reader := by
      apply invariant_of_step step
        (fun reader event => Allowed content size reader event ∧ Unfailing reader event)
        (fun reader => Inv content size reader ∧ Fine reader) _ { } reader events
        ⟨inv_start content size, rfl, nofun⟩
        ((meets_and step _ _ _ events).mpr ⟨allowed, unfailing⟩) reached
      intro before event after holds guard taken
      obtain ⟨left, fine⟩ := holds.1.step guard.1 taken
      exact ⟨left, fine holds.2 guard.2⟩
    exact fine.2.completions
  · intro request asked later final meets further enough
    exact completes_by_yields later final inv (by simp [asked]) meets further
      (Nat.le_trans (inv.outstanding_le asked) enough)

def fragmented : List Event :=
  [.describe .ok 4 true ⟨.shouldWait, 0⟩, .readAt 0 3, .task ⟨.shouldWait, 0⟩,
    .opened .ok (some [1, 2, 3, 4]) ⟨.shouldWait, 0⟩, .readable .ok ⟨.ok, 1⟩,
    .readable .ok ⟨.shouldWait, 0⟩, .readable .ok ⟨.ok, 2⟩, .readAt 3 5, .task ⟨.ok, 1⟩]

theorem fragmented_delivers :
    ∃ reader, run step { } fragmented = some reader ∧ reader.completions.length = 2 ∧
      ∀ completion ∈ reader.completions, completion.result = .ok →
        completion.Delivers [1, 2, 3, 4] 4 := by
  have reached : ∃ reader, run step { } fragmented = some reader ∧
      reader.completions.length = 2 := ⟨_, rfl, rfl⟩
  obtain ⟨reader, reached, twice⟩ := reached
  exact ⟨reader, reached, twice,
    (reads_deliver [1, 2, 3, 4] 4 fragmented (by decide +kernel) reader reached).1⟩

def wideRead : List Event :=
  [.describe .ok (2 ^ 32) true ⟨.shouldWait, 0⟩, .readAt 0 (2 ^ 32), .task ⟨.shouldWait, 0⟩,
    .opened .ok (some (List.replicate (2 ^ 32) 0)) ⟨.shouldWait, 0⟩]

structure Stalled (reader : MojoReader) : Prop where
  ready : reader.ready = true
  asked : reader.request ≠ none
  pending : reader.pending = .readable
  remaining : reader.readAtBytesRemaining = 2 ^ 32
  handle : reader.consumerHandle ≠ none
  completions : reader.completions = []

theorem Stalled.advance (stalled : Stalled reader) (pipe : Pipe) :
    Stalled (reader.advance pipe 0).continueOrComplete := by
  have remaining : (reader.advance pipe 0).readAtBytesRemaining = 2 ^ 32 := by
    simp only [MojoReader.advance, stalled.remaining]
    decide
  rw [continueOrComplete, if_neg (by rw [remaining]; decide)]
  exact ⟨stalled.ready, stalled.asked, rfl, remaining, nofun, stalled.completions⟩

theorem Stalled.step (stalled : Stalled reader) {event : Event}
    (unfailing : Unfailing reader event) (taken : MojoReader.step reader event = some next) :
    Stalled next := by
  cases event with
  | describe => simp [MojoReader.step, stalled.ready] at taken
  | readAt => simp [MojoReader.step, stalled.asked] at taken
  | task => simp [MojoReader.step, stalled.pending] at taken
  | opened => simp [MojoReader.step, stalled.pending] at taken
  | readable result read =>
    obtain ⟨ok, outcome⟩ := unfailing
    obtain ⟨pipe, handle⟩ := Option.ne_none_iff_exists'.mp stalled.handle
    rw [MojoReader.step, if_pos stalled.pending, MojoReader.readable,
      if_neg (by simp [ok])] at taken
    have width : u32 reader.readAtBytesRemaining = 0 := by
      rw [stalled.remaining]
      decide
    simp only [readResponseBody, handle, width] at taken
    rcases outcome with isOk | waits
    · simp only [isOk, Option.ite_none_right_eq_some] at taken
      obtain ⟨⟨none, -⟩, same⟩ := taken
      obtain rfl := Option.some.inj same
      rw [Nat.le_zero.mp none]
      exact stalled.advance pipe
    · simp only [waits] at taken
      obtain rfl := Option.some.inj taken
      exact stalled.advance pipe

theorem wide_read_stalls :
    ∃ reader, run step { } wideRead = some reader ∧ Meets step Unfailing { } wideRead ∧
      reader.request = some (0, 2 ^ 32) ∧
      ∀ later final, Meets step Unfailing reader later → run step reader later = some final →
        final.completions = [] := by
  refine ⟨_, rfl, ?_, rfl, ?_⟩
  · refine ⟨⟨rfl, .inr rfl⟩, fun _ _ => ⟨trivial, fun _ _ => ⟨.inr rfl, fun _ _ => ⟨⟨rfl, .inr rfl⟩,
      fun _ _ => trivial⟩⟩⟩⟩
  · intro later final unfailing reached
    refine (invariant_of_step step Unfailing Stalled (fun _ _ _ stalled => stalled.step) _ final
      later ?_ unfailing reached).completions
    exact ⟨rfl, nofun, rfl, rfl, nofun, rfl⟩

end MojoReader

end MojoMedia
