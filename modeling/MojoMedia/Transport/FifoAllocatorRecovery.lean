import MojoMedia.Transport.FifoAllocatorSafety

set_option autoImplicit false

namespace MojoMedia.FifoAllocator

open LinkedList Ring Runs

def Apart (left right : Nat × Nat) : Prop :=
  left.2 + left.1 ≤ right.2 ∨ right.2 + right.1 ≤ left.2

theorem Apart.symm {left right : Nat × Nat} (apart : Apart left right) : Apart right left :=
  Or.symm apart

theorem ledger_apart {regions : List Region} {size : Nat} (tiles : Chain Tile 0 regions size) :
    (ledger regions).Pairwise Apart := by
  have ordered : regions.Pairwise fun left right => left.offset + left.size ≤ right.offset := by
    refine chain_pairwise tiles ?_
    rintro left right a b c d - order - ⟨leftOffset, rfl⟩ ⟨rightOffset, -⟩
    rw [leftOffset, rightOffset]
    exact order
  rw [ledger, List.pairwise_map]
  exact (ordered.filter _).imp fun order => .inl order

theorem ledger_inside {regions : List Region} {size : Nat} (tiles : Chain Tile 0 regions size)
    (entry : Nat × Nat) (listed : entry ∈ ledger regions) : entry.2 + entry.1 ≤ size := by
  simp only [ledger, List.mem_map, List.mem_filter] at listed
  obtain ⟨region, ⟨member, -⟩, rfl⟩ := listed
  obtain ⟨before, after, -, -, bound, rfl, rfl⟩ := chain_mem tiles region member
  exact bound

section Operations

variable {self : Allocator} {nodes frees : List Nat}

theorem reached_sound {size : Nat} (small : size < 2 ^ 64) {events : List Event} {client : Client}
    (permitted : Meets Client.step Client.Permitted (.start size) events)
    (reached : run Client.step (.start size) events = some client) : Sound client := by
  obtain ⟨final, same, sound⟩ := run_of_step Client.step Client.Permitted Sound step_sound _
    events (start_sound size small) permitted
  obtain rfl : final = client := Option.some.inj (same.symm.trans reached)
  exact sound

-- A request that is granted lies in the buffer, apart from the regions that are allocated, and
-- these stay what they are.
structure Granted (before after : Allocator) (nodes nodes' : List Nat)
    (request offset : Nat) : Prop where
  inside : offset + request ≤ before.size
  sized : after.size = before.size
  apart : ∀ held ∈ before.outstanding nodes, Apart (request, offset) held
  others : (after.outstanding nodes').Perm ((request, offset) :: before.outstanding nodes)

theorem granted_of_successor {next : Allocator} {nodes' frees' : List Nat} {request offset : Nat}
    (successor : Successor self next nodes' frees')
    (added : (next.outstanding nodes').Perm ((request, offset) :: self.outstanding nodes)) :
    Granted self next nodes nodes' request offset := by
  have tiles := successor.wellFormed.layout.tiles
  have listed : (request, offset) ∈ next.outstanding nodes' :=
    added.symm.subset List.mem_cons_self
  refine ⟨?_, successor.sized, ?_, added⟩
  · rw [← successor.sized]
    exact ledger_inside tiles _ listed
  · have apart := (added.pairwise_iff fun both => Apart.symm both).mp (ledger_apart tiles)
    exact (List.pairwise_cons.mp apart).1

-- In every reachable state a request is refused, with nothing changed, exactly when no
-- unallocated region is as large, and granted otherwise.
theorem allocates_iff_room (size : Nat) (small : size < 2 ^ 64) (events : List Event)
    (client : Client) (permitted : Meets Client.step Client.Permitted (.start size) events)
    (reached : run Client.step (.start size) events = some client) (request : Nat)
    (positive : 0 < request) :
    ∃ nodes offset next nodes',
      Path client.allocator.next client.allocator.front nodes none ∧
      client.allocator.allocateRegion request = some (offset, next) ∧
      Path next.next next.front nodes' none ∧
      (offset = kNullOffset ↔ ∀ node ∈ nodes, (client.allocator.region node).allocated = false →
        (client.allocator.region node).size < request) ∧
      (offset = kNullOffset → next = client.allocator) ∧
      (offset ≠ kNullOffset → Granted client.allocator next nodes nodes' request offset) := by
  obtain ⟨nodes, frees, wellFormed, -⟩ := reached_sound small permitted reached
  have isLarge (node : Nat) : client.allocator.isLarge request node = true ↔
      (client.allocator.region node).allocated = false ∧
        request ≤ (client.allocator.region node).size := by
    simp [Allocator.isLarge]
  rcases allocateRegion_wellFormed wellFormed request positive with
    ⟨missed, none⟩ | ⟨offset, next, nodes', frees', taken, found, successor, bound, added⟩
  · refine ⟨nodes, kNullOffset, client.allocator, nodes, wellFormed.shape.forwards, missed,
      wellFormed.shape.forwards, ?_, fun _ => rfl, fun other => absurd rfl other⟩
    refine iff_of_true rfl fun node listed unallocated => ?_
    by_contra large
    have is := (isLarge node).mpr ⟨unallocated, Nat.le_of_not_lt large⟩
    rw [none node listed] at is
    cases is
  · obtain ⟨node, listed, is⟩ := found
    obtain ⟨unallocated, large⟩ := (isLarge node).mp is
    have taken' : offset ≠ kNullOffset := Nat.ne_of_lt bound
    refine ⟨nodes, offset, next, nodes', wellFormed.shape.forwards, taken,
      successor.wellFormed.shape.forwards, ?_, fun refused => absurd refused taken',
      fun _ => granted_of_successor successor added⟩
    refine iff_of_false taken' fun none => ?_
    have short := none node listed unallocated
    omega

theorem allocates_round_the_list :
    ∃ client, run Client.step (.start 10) [.allocateRegion 4, .allocateRegion 2,
        .allocateRegion 4, .releaseRegion 4 0] = some client ∧
      ∃ nodes offset next nodes',
        Path client.allocator.next client.allocator.front nodes none ∧
        client.allocator.allocateRegion 3 = some (offset, next) ∧
        Path next.next next.front nodes' none ∧
        (offset = kNullOffset ↔ ∀ node ∈ nodes, (client.allocator.region node).allocated = false →
          (client.allocator.region node).size < 3) ∧
        (offset = kNullOffset → next = client.allocator) ∧
        (offset ≠ kNullOffset → Granted client.allocator next nodes nodes' 3 offset) := by
  have permitted : Meets Client.step Client.Permitted (.start 10) [.allocateRegion 4,
      .allocateRegion 2, .allocateRegion 4, .releaseRegion 4 0] := by
    decide
  obtain ⟨client, reached, -⟩ := run_of_step Client.step Client.Permitted Sound step_sound _ _
    (start_sound 10 (by decide)) permitted
  exact ⟨client, reached,
    allocates_iff_room 10 (by decide) _ client permitted reached 3 (by decide)⟩

def Finds (client : Client) : Event → Prop
  | .releaseRegion size offset =>
    ∃ nodes, Path client.allocator.next client.allocator.front nodes none ∧
      ∃ node ∈ nodes, client.allocator.region node = ⟨true, size, offset⟩ ∧
        client.allocator.foundRegion offset = some node ∧
        client.allocator.releaseRegion size offset = client.allocator.releaseFound node
  | _ => True

def releases (order : List (Nat × Nat)) : List Event :=
  order.map fun held => .releaseRegion held.1 held.2

theorem finds_of_held {client : Client} (wellFormed : WellFormed client.allocator nodes frees)
    (size offset : Nat) (held : (size, offset) ∈ client.allocator.outstanding nodes) :
    Finds client (.releaseRegion size offset) := by
  obtain ⟨node, listed, region, found⟩ := found_of_held wellFormed size offset held
  exact ⟨nodes, wellFormed.shape.forwards, node, listed, region, found,
    releaseRegion_of_found size offset found⟩

theorem releases_run (order : List (Nat × Nat)) (client : Client)
    (wellFormed : WellFormed client.allocator nodes frees)
    (all : order.Perm (client.allocator.outstanding nodes)) :
    Meets Client.step Finds client (releases order) ∧
      ∃ last nodes' frees', run Client.step client (releases order) = some last ∧
        Successor client.allocator last.allocator nodes' frees' ∧
        last.allocator.outstanding nodes' = [] := by
  induction order generalizing client nodes frees with
  | nil => exact ⟨trivial, client, nodes, frees, rfl, ⟨wellFormed, rfl⟩, all.nil_eq.symm⟩
  | cons held rest ih =>
    obtain ⟨size, offset⟩ := held
    have listed : (size, offset) ∈ client.allocator.outstanding nodes :=
      all.subset List.mem_cons_self
    obtain ⟨next, nodes', frees', released, successor, removed⟩ :=
      releaseRegion_wellFormed wellFormed size offset listed
    have taken : client.step (.releaseRegion size offset) =
        some { allocator := next, held := client.held.erase (size, offset) } := by
      simp only [Client.step, released, Option.bind_eq_bind, Option.bind_some]
    obtain ⟨finds, last, final, lookaside, reached, later, none⟩ :=
      ih { allocator := next, held := client.held.erase (size, offset) } successor.wellFormed
        ((all.trans removed).cons_inv)
    refine ⟨⟨finds_of_held wellFormed size offset listed, ?_⟩, last, final, lookaside, ?_,
      successor.trans later, none⟩
    · intro other same
      obtain rfl := Option.some.inj (taken.symm.trans same)
      exact finds
    · exact (run_cons _ _ _ _ _).mpr ⟨_, taken, reached⟩

-- Two neighbours are never both unallocated, so nothing but one region is left.
theorem single_region (wellFormed : WellFormed self nodes frees)
    (none : self.outstanding nodes = []) :
    ∃ node, nodes = [node] ∧ self.region node = ⟨false, self.size, 0⟩ := by
  have unallocated : ∀ node ∈ nodes, (self.region node).allocated = false := by
    intro node listed
    have empty := List.filter_eq_nil_iff.mp (List.map_eq_nil_iff.mp none) (self.region node)
      (List.mem_map_of_mem listed)
    simpa using empty
  have coalesced := wellFormed.layout.coalesced
  have tiles := wellFormed.layout.tiles
  cases nodes with
  | nil =>
    obtain ⟨active, listed, -⟩ := wellFormed.layout.available
    cases listed
  | cons node rest =>
    cases rest with
    | nil =>
      obtain ⟨offset, whole⟩ := (tiles_cons _ _ _ _).mp tiles
      refine ⟨node, rfl, ?_⟩
      rw [← unallocated node (by simp), ← offset]
      have sized : (self.region node).size = self.size := by simpa [Chain] using whole
      rw [← sized]
    | cons second others =>
      rw [List.map_cons, List.map_cons, Coalesced, List.isChain_cons_cons] at coalesced
      have first := unallocated node (by simp)
      have next := unallocated second (by simp)
      simp [first, next] at coalesced

-- However the allocated regions are released, every release finds its own region, and the last
-- one leaves a single region that can serve every request.
theorem released_recovers (size : Nat) (small : size < 2 ^ 64) (events : List Event)
    (client : Client) (permitted : Meets Client.step Client.Permitted (.start size) events)
    (reached : run Client.step (.start size) events = some client) :
    ∃ nodes, Path client.allocator.next client.allocator.front nodes none ∧
      ∀ order, order.Perm (client.allocator.outstanding nodes) →
        Meets Client.step Finds client (releases order) ∧
        ∃ last, run Client.step client (releases order) = some last ∧
          last.allocator.size = client.allocator.size ∧
          (∃ node, Path last.allocator.next last.allocator.front [node] none ∧
            last.allocator.region node = ⟨false, client.allocator.size, 0⟩) ∧
          ∀ request, 0 < request → request ≤ client.allocator.size →
            ∃ offset next, last.allocator.allocateRegion request = some (offset, next) ∧
              offset ≠ kNullOffset := by
  obtain ⟨nodes, frees, wellFormed, -⟩ := reached_sound small permitted reached
  refine ⟨nodes, wellFormed.shape.forwards, fun order all => ?_⟩
  obtain ⟨finds, last, nodes', frees', released, ⟨final, sized⟩, none⟩ :=
    releases_run order client wellFormed all
  obtain ⟨node, rfl, region⟩ := single_region final none
  rw [sized] at region
  refine ⟨finds, last, released, sized, ⟨node, final.shape.forwards, region⟩, ?_⟩
  intro request positive fits
  rcases allocateRegion_wellFormed final request positive with
    ⟨-, refused⟩ | ⟨offset, next, _, _, taken, -, -, bound, -⟩
  · have large := refused node (by simp)
    simp [Allocator.isLarge, region, fits] at large
  · exact ⟨offset, next, taken, Nat.ne_of_lt bound⟩

theorem released_recovers_out_of_order :
    ∃ client, run Client.step (.start 10) [.allocateRegion 4, .allocateRegion 2,
        .allocateRegion 4] = some client ∧
      ∃ nodes, Path client.allocator.next client.allocator.front nodes none ∧
        ∀ order, order.Perm (client.allocator.outstanding nodes) →
          Meets Client.step Finds client (releases order) ∧
          ∃ last, run Client.step client (releases order) = some last ∧
            last.allocator.size = client.allocator.size ∧
            (∃ node, Path last.allocator.next last.allocator.front [node] none ∧
              last.allocator.region node = ⟨false, client.allocator.size, 0⟩) ∧
            ∀ request, 0 < request → request ≤ client.allocator.size →
              ∃ offset next, last.allocator.allocateRegion request = some (offset, next) ∧
                offset ≠ kNullOffset := by
  have permitted : Meets Client.step Client.Permitted (.start 10) [.allocateRegion 4,
      .allocateRegion 2, .allocateRegion 4] := by
    decide
  obtain ⟨client, reached, -⟩ := run_of_step Client.step Client.Permitted Sound step_sound _ _
    (start_sound 10 (by decide)) permitted
  exact ⟨client, reached, released_recovers 10 (by decide) _ client permitted reached⟩

end Operations

end MojoMedia.FifoAllocator
