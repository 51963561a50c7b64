import Mathlib.Data.List.Range
import Mathlib.Data.List.Infix
import Mathlib.Logic.Function.Basic

set_option autoImplicit false

namespace ReleaseOrder

universe u

variable {Thread : Type u}

theorem range_of_suffix {numbers : List Nat} {bound : Nat}
    (suffix : numbers <:+ List.range bound) :
    ∃ first, first ≤ bound ∧ numbers = List.range' first (bound - first) := by
  obtain ⟨front, split⟩ := suffix
  have lengths : front.length + numbers.length = bound := by
    simpa using congrArg List.length split
  refine ⟨front.length, by omega, ?_⟩
  have dropped : numbers = (List.range bound).drop front.length := by simp [← split]
  rw [dropped, List.range_eq_range', List.drop_range']
  simp

theorem suffix_append_last {numbers : List Nat} {bound : Nat}
    (suffix : numbers <:+ List.range bound) :
    numbers ++ [bound] <:+ List.range (bound + 1) := by
  obtain ⟨front, split⟩ := suffix
  exact ⟨front, by rw [List.range_succ, ← split, List.append_assoc]⟩

-- `coming` is what a thread has still to be handed of the newest object. The last
-- reference to a claimed object is gone, but the object is not retired yet.
@[ext] structure Ledger (Thread : Type u) where
  received : Nat
  retired : List Nat
  held : Thread → List Nat
  coming : Thread → List Nat
  claimed : Thread → Option Nat

structure Ledger.Sound (ledger : Ledger Thread) : Prop where
  window : ∀ thread, ledger.held thread ++ ledger.coming thread <:+ List.range ledger.received
  ordered : ledger.retired = List.range ledger.retired.length
  within : ledger.retired.length ≤ ledger.received
  live : ∀ thread, ∀ number ∈ ledger.held thread, ledger.retired.length ≤ number
  covered : ∀ number, ledger.retired.length ≤ number → number < ledger.received →
    ∃ thread, number ∈ ledger.held thread
  alone : ∀ thread number, ledger.claimed thread = some number →
    (ledger.held thread).head? = some number ∧
      ∀ other, other ≠ thread → number ∉ ledger.held other
  lent : ∀ thread, ∀ number ∈ ledger.coming thread,
    ∃ lender, ledger.claimed lender = none ∧ number ∈ ledger.held lender

namespace Ledger.Sound

variable {ledger : Ledger Thread}

theorem range (sound : ledger.Sound) (thread : Thread) :
    ∃ first, first ≤ ledger.received ∧
      ledger.held thread ++ ledger.coming thread =
        List.range' first (ledger.received - first) :=
  range_of_suffix (sound.window thread)

theorem mem_lt (sound : ledger.Sound) {thread : Thread} {number : Nat}
    (member : number ∈ ledger.held thread) : number < ledger.received := by
  have later := (sound.window thread).subset (List.mem_append_left _ member)
  simpa using later

theorem mem_later (sound : ledger.Sound) {thread : Thread} {number later : Nat}
    (member : number ∈ ledger.held thread) (le : number ≤ later)
    (lt : later < ledger.received) :
    later ∈ ledger.held thread ∨ later ∈ ledger.coming thread := by
  obtain ⟨first, -, split⟩ := sound.range thread
  have within : number ∈ List.range' first (ledger.received - first) := by
    rw [← split]
    exact List.mem_append_left _ member
  rw [List.mem_range'_1] at within
  rw [← List.mem_append, split, List.mem_range'_1]
  omega

theorem head_le (sound : ledger.Sound) {thread : Thread} {number other : Nat}
    {rest : List Nat} (held : ledger.held thread = number :: rest)
    (member : other ∈ ledger.held thread) : number ≤ other := by
  obtain ⟨first, -, split⟩ := sound.range thread
  have within : other ∈ List.range' first (ledger.received - first) := by
    rw [← split]
    exact List.mem_append_left _ member
  have front : (List.range' first (ledger.received - first)).head? = some number := by
    simp [← split, held]
  rw [List.head?_range'] at front
  rw [List.mem_range'_1] at within
  split at front
  · simp at front
  · simp only [Option.some.injEq] at front
    omega

theorem not_mem_rest (sound : ledger.Sound) {thread : Thread} {number : Nat}
    {rest : List Nat} (held : ledger.held thread = number :: rest) : number ∉ rest := by
  have nodup : (ledger.held thread).Nodup :=
    (List.nodup_append.mp ((sound.window thread).sublist.nodup List.nodup_range)).1
  rw [held] at nodup
  exact (List.nodup_cons.mp nodup).1

theorem not_coming_of_claimed (sound : ledger.Sound) {thread other : Thread} {number : Nat}
    (claimed : ledger.claimed thread = some number) : number ∉ ledger.coming other := by
  intro coming
  obtain ⟨lender, unclaimed, member⟩ := sound.lent other number coming
  by_cases same : lender = thread
  · simp [same, claimed] at unclaimed
  · exact (sound.alone thread number claimed).2 lender same member

theorem claimed_eq (sound : ledger.Sound) {thread : Thread} {number : Nat}
    (claimed : ledger.claimed thread = some number) : number = ledger.retired.length := by
  obtain ⟨head, alone⟩ := sound.alone thread number claimed
  obtain ⟨rest, held⟩ : ∃ rest, ledger.held thread = number :: rest := by
    cases cases_held : ledger.held thread with
    | nil => simp [cases_held] at head
    | cons first rest =>
      obtain rfl : first = number := by simpa [cases_held] using head
      exact ⟨rest, rfl⟩
  have member : number ∈ ledger.held thread := by simp [held]
  have lt := sound.mem_lt member
  have oldest := sound.live thread number member
  obtain ⟨owner, owned⟩ := sound.covered ledger.retired.length le_rfl (by omega)
  rcases sound.mem_later owned oldest lt with also | coming
  · have same : owner = thread := by
      by_contra different
      exact alone owner different also
    have le := sound.head_le held (same ▸ owned)
    omega
  · exact absurd coming (sound.not_coming_of_claimed claimed)

end Ledger.Sound

variable [DecidableEq Thread]

inductive Ledger.Step (ledger : Ledger Thread) : Ledger Thread → Prop where
  | receive (owner : Thread) (coming : Thread → List Nat)
      (settled : ∀ thread, ledger.coming thread = [])
      (free : ledger.held owner = []) (unclaimed : ledger.claimed owner = none)
      (targets : ∀ thread, coming thread = [ledger.received] ∧ thread ≠ owner ∨
        coming thread = [] ∧ ledger.held thread = []) :
      Step ledger { ledger with
        received := ledger.received + 1
        held := Function.update ledger.held owner [ledger.received]
        coming := coming }
  | give (thread : Thread) (number : Nat) (coming : ledger.coming thread = [number]) :
      Step ledger { ledger with
        held := Function.update ledger.held thread (ledger.held thread ++ [number])
        coming := Function.update ledger.coming thread [] }
  | drop (thread other : Thread) (number : Nat) (rest : List Nat)
      (held : ledger.held thread = number :: rest) (unclaimed : ledger.claimed thread = none)
      (different : other ≠ thread) (shared : number ∈ ledger.held other)
      (lent : ∀ target, ∀ newest ∈ ledger.coming target, ∃ lender, lender ≠ thread ∧
        ledger.claimed lender = none ∧ newest ∈ ledger.held lender) :
      Step ledger { ledger with held := Function.update ledger.held thread rest }
  | claim (thread : Thread) (number : Nat) (rest : List Nat)
      (held : ledger.held thread = number :: rest)
      (alone : ∀ other, other ≠ thread → number ∉ ledger.held other)
      (lent : ∀ target, ∀ newest ∈ ledger.coming target, ∃ lender, lender ≠ thread ∧
        ledger.claimed lender = none ∧ newest ∈ ledger.held lender) :
      Step ledger { ledger with claimed := Function.update ledger.claimed thread (some number) }
  | retire (thread : Thread) (number : Nat) (rest : List Nat)
      (held : ledger.held thread = number :: rest)
      (claimed : ledger.claimed thread = some number) :
      Step ledger { ledger with
        retired := ledger.retired ++ [number]
        held := Function.update ledger.held thread rest
        claimed := Function.update ledger.claimed thread none }
  | move (source target : Thread) (moved : Thread → List Nat)
      (left : moved source = []) (taken : moved target = ledger.held source)
      (others : ∀ other, other ≠ source → other ≠ target → moved other = ledger.held other)
      (empty : ledger.held target = []) (settled : ∀ thread, ledger.coming thread = [])
      (unclaimed : ledger.claimed source = none) (free : ledger.claimed target = none) :
      Step ledger { ledger with held := moved }

namespace Ledger.Sound

variable {ledger : Ledger Thread}

theorem receive (sound : ledger.Sound) (owner : Thread) (coming : Thread → List Nat)
    (settled : ∀ thread, ledger.coming thread = []) (free : ledger.held owner = [])
    (unclaimed : ledger.claimed owner = none)
    (targets : ∀ thread, coming thread = [ledger.received] ∧ thread ≠ owner ∨
      coming thread = [] ∧ ledger.held thread = []) :
    Ledger.Sound { ledger with
      received := ledger.received + 1
      held := Function.update ledger.held owner [ledger.received]
      coming := coming } where
  window := by
    intro thread
    have before : ledger.held thread <:+ List.range ledger.received := by
      simpa [settled] using sound.window thread
    rcases targets thread with ⟨handed, different⟩ | ⟨passed, nothing⟩
    · simp only [handed, Function.update_of_ne different]
      exact suffix_append_last before
    · by_cases same : thread = owner
      · subst same
        simpa [passed] using suffix_append_last (List.nil_suffix (l := List.range ledger.received))
      · simp [passed, nothing, Function.update_of_ne same]
  ordered := sound.ordered
  within := Nat.le_succ_of_le sound.within
  live := by
    intro thread number member
    by_cases same : thread = owner
    · subst same
      obtain rfl : number = ledger.received := by simpa using member
      exact sound.within
    · exact sound.live thread number (by simpa [Function.update_of_ne same] using member)
  covered := by
    intro number oldest lt
    by_cases newest : number = ledger.received
    · exact ⟨owner, by simp [newest]⟩
    · obtain ⟨thread, member⟩ := sound.covered number oldest (by dsimp only at lt; omega)
      refine ⟨thread, ?_⟩
      have different : thread ≠ owner := by
        rintro rfl
        simp [free] at member
      simpa [Function.update_of_ne different] using member
  alone := by
    intro thread number claimed
    obtain ⟨head, alone⟩ := sound.alone thread number claimed
    have different : thread ≠ owner := by
      rintro rfl
      simp [free] at head
    refine ⟨by simpa [Function.update_of_ne different] using head, ?_⟩
    intro other apart
    by_cases same : other = owner
    · subst same
      have lt := sound.mem_lt (List.mem_of_mem_head? head)
      simp only [Function.update_self, List.mem_singleton]
      omega
    · simpa [Function.update_of_ne same] using alone other apart
  lent := by
    intro thread number member
    refine ⟨owner, unclaimed, ?_⟩
    rcases targets thread with ⟨handed, -⟩ | ⟨passed, -⟩
    · simpa [handed] using member
    · simp [passed] at member

theorem give (sound : ledger.Sound) (thread : Thread) (number : Nat)
    (coming : ledger.coming thread = [number]) :
    Ledger.Sound { ledger with
      held := Function.update ledger.held thread (ledger.held thread ++ [number])
      coming := Function.update ledger.coming thread [] } := by
  obtain ⟨lender, unclaimed, lends⟩ := sound.lent thread number (by simp [coming])
  -- Nothing that was held is let go of.
  have grows : ∀ other, ∀ held ∈ ledger.held other,
      held ∈ Function.update ledger.held thread (ledger.held thread ++ [number]) other := by
    intro other held member
    by_cases same : other = thread
    · subst same
      simp [member]
    · simpa [Function.update_of_ne same] using member
  refine ⟨?_, sound.ordered, sound.within, ?_, ?_, ?_, ?_⟩
  · intro other
    by_cases same : other = thread
    · subst same
      simpa [coming] using sound.window other
    · simpa [Function.update_of_ne same] using sound.window other
  · intro other held member
    by_cases same : other = thread
    · subst same
      rcases (by simpa using member : held ∈ ledger.held other ∨ held = number) with old | new
      · exact sound.live other held old
      · exact sound.live lender held (new ▸ lends)
    · exact sound.live other held (by simpa [Function.update_of_ne same] using member)
  · intro held oldest lt
    obtain ⟨other, member⟩ := sound.covered held oldest lt
    exact ⟨other, grows other held member⟩
  · intro other held claimed
    obtain ⟨head, alone⟩ := sound.alone other held claimed
    constructor
    · by_cases same : other = thread
      · subst same
        simp [head]
      · simpa [Function.update_of_ne same] using head
    · intro third apart member
      by_cases same : third = thread
      · subst same
        rcases (by simpa using member : held ∈ ledger.held third ∨ held = number) with old | new
        · exact alone third apart old
        · have handed : held ∈ ledger.coming third := by simp [coming, new]
          exact sound.not_coming_of_claimed claimed handed
      · exact alone third apart (by simpa [Function.update_of_ne same] using member)
  · intro other held member
    by_cases same : other = thread
    · subst same
      simp at member
    · obtain ⟨keeper, free, kept⟩ := sound.lent other held
        (by simpa [Function.update_of_ne same] using member)
      exact ⟨keeper, free, grows keeper held kept⟩

theorem window_rest (sound : ledger.Sound) {thread : Thread} {number : Nat} {rest : List Nat}
    (held : ledger.held thread = number :: rest) (other : Thread) :
    Function.update ledger.held thread rest other ++ ledger.coming other <:+
      List.range ledger.received := by
  by_cases same : other = thread
  · subst same
    have window := sound.window other
    rw [held, List.cons_append] at window
    simpa using (List.suffix_cons number _).trans window
  · simpa [Function.update_of_ne same] using sound.window other

theorem mem_of_rest {thread other : Thread} {number member : Nat} {rest : List Nat}
    (held : ledger.held thread = number :: rest)
    (kept : member ∈ Function.update ledger.held thread rest other) :
    member ∈ ledger.held other := by
  by_cases same : other = thread
  · subst same
    rw [held]
    exact List.mem_cons_of_mem _ (by simpa using kept)
  · simpa [Function.update_of_ne same] using kept

theorem mem_rest {thread other : Thread} {number member : Nat} {rest : List Nat}
    (held : ledger.held thread = number :: rest) (kept : member ∈ ledger.held other)
    (different : member ≠ number ∨ other ≠ thread) :
    member ∈ Function.update ledger.held thread rest other := by
  by_cases same : other = thread
  · subst same
    simpa [held, different.resolve_right (by simp)] using kept
  · simpa [Function.update_of_ne same] using kept

theorem drop (sound : ledger.Sound) (thread other : Thread) (number : Nat) (rest : List Nat)
    (held : ledger.held thread = number :: rest) (unclaimed : ledger.claimed thread = none)
    (different : other ≠ thread) (shared : number ∈ ledger.held other)
    (lent : ∀ target, ∀ newest ∈ ledger.coming target, ∃ lender, lender ≠ thread ∧
      ledger.claimed lender = none ∧ newest ∈ ledger.held lender) :
    Ledger.Sound { ledger with held := Function.update ledger.held thread rest } where
  window := sound.window_rest held
  ordered := sound.ordered
  within := sound.within
  live := fun owner member kept => sound.live owner member (mem_of_rest held kept)
  covered := by
    intro member oldest lt
    by_cases same : member = number
    · exact ⟨other, mem_rest held (same ▸ shared) (.inr different)⟩
    · obtain ⟨owner, kept⟩ := sound.covered member oldest lt
      exact ⟨owner, mem_rest held kept (.inl same)⟩
  alone := by
    intro owner member claimed
    obtain ⟨head, alone⟩ := sound.alone owner member claimed
    have apart : owner ≠ thread := by
      rintro rfl
      simp [unclaimed] at claimed
    refine ⟨by simpa [Function.update_of_ne apart] using head, ?_⟩
    exact fun third away kept => alone third away (mem_of_rest held kept)
  lent := by
    intro target newest coming
    obtain ⟨lender, apart, free, kept⟩ := lent target newest coming
    exact ⟨lender, free, mem_rest held kept (.inr apart)⟩

theorem claim (sound : ledger.Sound) (thread : Thread) (number : Nat) (rest : List Nat)
    (held : ledger.held thread = number :: rest)
    (alone : ∀ other, other ≠ thread → number ∉ ledger.held other)
    (lent : ∀ target, ∀ newest ∈ ledger.coming target, ∃ lender, lender ≠ thread ∧
      ledger.claimed lender = none ∧ newest ∈ ledger.held lender) :
    Ledger.Sound { ledger with
      claimed := Function.update ledger.claimed thread (some number) } where
  window := sound.window
  ordered := sound.ordered
  within := sound.within
  live := sound.live
  covered := sound.covered
  alone := by
    intro owner member claimed
    by_cases same : owner = thread
    · subst same
      obtain rfl : number = member := by simpa using claimed
      exact ⟨by simp [held], alone⟩
    · exact sound.alone owner member (by simpa [Function.update_of_ne same] using claimed)
  lent := by
    intro target newest coming
    obtain ⟨lender, apart, free, kept⟩ := lent target newest coming
    exact ⟨lender, by simpa [Function.update_of_ne apart] using free, kept⟩

theorem retire (sound : ledger.Sound) (thread : Thread) (number : Nat) (rest : List Nat)
    (held : ledger.held thread = number :: rest)
    (claimed : ledger.claimed thread = some number) :
    Ledger.Sound { ledger with
      retired := ledger.retired ++ [number]
      held := Function.update ledger.held thread rest
      claimed := Function.update ledger.claimed thread none } := by
  have next := sound.claimed_eq claimed
  have alone := (sound.alone thread number claimed).2
  refine ⟨sound.window_rest held, ?_, ?_, ?_, ?_, ?_, ?_⟩
  · simp only [List.length_append, List.length_singleton, List.range_succ]
    rw [← sound.ordered, next]
  · have lt : number < ledger.received := sound.mem_lt (held ▸ List.mem_cons_self)
    simp only [List.length_append, List.length_singleton]
    omega
  · intro owner member kept
    have oldest := sound.live owner member (mem_of_rest held kept)
    have different : member ≠ number := by
      rintro rfl
      by_cases same : owner = thread
      · subst same
        exact sound.not_mem_rest held (by simpa using kept)
      · exact alone owner same (mem_of_rest held kept)
    simp only [List.length_append, List.length_singleton]
    omega
  · intro member oldest lt
    simp only [List.length_append, List.length_singleton] at oldest
    obtain ⟨owner, kept⟩ := sound.covered member (by omega) lt
    exact ⟨owner, mem_rest held kept (.inl (by omega))⟩
  · intro owner member taken
    by_cases same : owner = thread
    · simp [same] at taken
    · obtain ⟨head, only⟩ := sound.alone owner member
        (by simpa [Function.update_of_ne same] using taken)
      refine ⟨by simpa [Function.update_of_ne same] using head, ?_⟩
      exact fun third away kept => only third away (mem_of_rest held kept)
  · intro target newest coming
    obtain ⟨lender, free, kept⟩ := sound.lent target newest coming
    have apart : lender ≠ thread := by
      rintro rfl
      simp [claimed] at free
    refine ⟨lender, by simpa [Function.update_of_ne apart] using free, ?_⟩
    exact mem_rest held kept (.inr apart)

theorem move (sound : ledger.Sound) (source target : Thread) (moved : Thread → List Nat)
    (left : moved source = []) (taken : moved target = ledger.held source)
    (others : ∀ other, other ≠ source → other ≠ target → moved other = ledger.held other)
    (empty : ledger.held target = []) (settled : ∀ thread, ledger.coming thread = [])
    (unclaimed : ledger.claimed source = none) (free : ledger.claimed target = none) :
    Ledger.Sound { ledger with held := moved } := by
  -- Who held an object before, of those that hold it now.
  have before : ∀ other, ∀ number ∈ moved other,
      number ∈ ledger.held source ∨ number ∈ ledger.held other := by
    intro other number kept
    by_cases away : other = source
    · simp [away, left] at kept
    · by_cases apart : other = target
      · exact .inl (taken ▸ apart ▸ kept)
      · exact .inr (others other away apart ▸ kept)
  refine ⟨?_, sound.ordered, sound.within, ?_, ?_, ?_, ?_⟩
  · intro other
    by_cases away : other = source
    · simp [away, left, settled]
    · by_cases apart : other = target
      · simpa [apart, taken, settled] using sound.window source
      · simpa [others other away apart] using sound.window other
  · intro other number kept
    rcases before other number kept with old | old
    · exact sound.live source number old
    · exact sound.live other number old
  · intro number oldest lt
    obtain ⟨owner, kept⟩ := sound.covered number oldest lt
    by_cases away : owner = source
    · exact ⟨target, by simpa [taken] using away ▸ kept⟩
    · have apart : owner ≠ target := by
        rintro rfl
        simp [empty] at kept
      exact ⟨owner, by simpa [others owner away apart] using kept⟩
  · intro owner number claimed
    obtain ⟨head, alone⟩ := sound.alone owner number claimed
    have away : owner ≠ source := by
      rintro rfl
      simp [unclaimed] at claimed
    have apart : owner ≠ target := by
      rintro rfl
      simp [free] at claimed
    refine ⟨by simpa [others owner away apart] using head, ?_⟩
    intro other elsewhere kept
    rcases before other number kept with old | old
    · exact alone source away.symm old
    · exact alone other elsewhere old
  · intro thread number coming
    simp [settled] at coming

theorem step {next : Ledger Thread} (sound : ledger.Sound) (taken : ledger.Step next) :
    next.Sound := by
  cases taken with
  | receive owner coming settled free unclaimed targets =>
    exact sound.receive owner coming settled free unclaimed targets
  | give thread number coming => exact sound.give thread number coming
  | drop thread other number rest held unclaimed different shared lent =>
    exact sound.drop thread other number rest held unclaimed different shared lent
  | claim thread number rest held alone lent =>
    exact sound.claim thread number rest held alone lent
  | retire thread number rest held claimed => exact sound.retire thread number rest held claimed
  | move source target moved left taken others empty settled unclaimed free =>
    exact sound.move source target moved left taken others empty settled unclaimed free

end Ledger.Sound

end ReleaseOrder
