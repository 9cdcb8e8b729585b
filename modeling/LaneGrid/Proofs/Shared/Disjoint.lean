import LaneGrid.Proofs.Shared.Allocators
import LaneGrid.Proofs.Shared.Serving

namespace LaneGrid

namespace SharedSlice

/-- The elements are aligned, and end within so many bytes. -/
structure Inside (s : SharedSlice) (bytes : Nat) : Prop where
  size_dvd : s.kind.size ∣ s.offset
  stop_eq : s.stop = .ok (s.offset + s.length * s.kind.size)
  stop_le : s.offset + s.length * s.kind.size ≤ bytes

def Before (s s' : SharedSlice) : Prop :=
  s.offset + s.length * s.kind.size ≤ s'.offset

theorem stop_eq_ok {s : SharedSlice} (h : s.offset + s.length * s.kind.size ≤ wordMax) :
    s.stop = .ok (s.offset + s.length * s.kind.size) := by
  rw [stop, word_mul (by omega), ok_bind, word_add h]

end SharedSlice

namespace Arena

variable {machine : Machine} {a : Arena} {capacity dynamic : Nat}

/-- An arena of so many bytes and behind it a dynamic area, in memory that was provided. -/
structure Laid (machine : Machine) (a : Arena) (capacity dynamic : Nat) : Prop where
  capacity_eq : a.capacity = capacity
  dynamicBytes_eq : a.dynamicBytes = dynamic
  capacity_le : capacity ≤ a.dynamicOffset
  provided : machine.provide (a.dynamicOffset + a.dynamicBytes) = .ok ()
  total_le : a.dynamicOffset + a.dynamicBytes ≤ wordMax
  dvd_offset : dynamic ≠ 0 → baseAlignment ∣ a.dynamicOffset

theorem laid_of_make (h : make machine capacity dynamic = .ok a) :
    Laid machine a capacity dynamic := by
  have hstart : ∀ start, dynamicStart? capacity dynamic = some start →
      capacity ≤ start ∧ (dynamic ≠ 0 → baseAlignment ∣ start) := by
    intro start hstart
    rw [dynamicStart?] at hstart
    split at hstart
    · rename_i hzero
      obtain rfl := Option.some.inj hstart
      exact ⟨Nat.le_refl _, fun hne => absurd hzero hne⟩
    · obtain ⟨hdvd, hle⟩ := le_nextMultiple? (by decide) hstart
      exact ⟨hle, fun _ => hdvd⟩
  simp only [make] at h
  split at h
  · rename_i start hsome
    obtain ⟨hle, hdvd⟩ := hstart start hsome
    cases hadd : wordArithmetic.add start dynamic with
    | error f =>
        rw [hadd] at h
        cases h
    | ok total =>
        rw [hadd] at h
        obtain ⟨⟨⟩, hprovide, hlaid⟩ := bind_eq_ok.mp h
        obtain rfl := Except.ok.inj hlaid
        obtain ⟨htotal, rfl⟩ := keepWord_eq_ok.mp hadd
        exact ⟨rfl, rfl, hle, hprovide, htotal, hdvd⟩
  · cases h

/-- The dynamic area as elements of a kind: all that fit, behind the arena and within what was
provided. -/
structure Beside (machine : Machine) (a : Arena) (capacity dynamic : Nat) (s : SharedSlice) :
    Prop where
  length_eq : s.length = dynamic / s.kind.size
  capacity_le : capacity ≤ s.offset
  stop_eq : s.stop = .ok (s.offset + s.length * s.kind.size)
  stop_le : s.offset + s.length * s.kind.size ≤ a.dynamicOffset + a.dynamicBytes
  provided : machine.provide (a.dynamicOffset + a.dynamicBytes) = .ok ()
  aligned : 0 < s.length → baseAlignment ∣ s.offset

theorem Laid.beside (h : Laid machine a capacity dynamic) (k : ElementKind) :
    Beside machine a capacity dynamic (a.dynamicSlice k) := by
  have hstop : a.dynamicOffset + a.dynamicBytes / k.size * k.size ≤
      a.dynamicOffset + a.dynamicBytes :=
    Nat.add_le_add_left (Nat.div_mul_le_self _ _) _
  constructor
  case length_eq => exact congrArg (· / k.size) h.dynamicBytes_eq
  case capacity_le => exact h.capacity_le
  case stop_eq => exact SharedSlice.stop_eq_ok (Nat.le_trans hstop h.total_le)
  case stop_le => exact hstop
  case provided => exact h.provided
  case aligned =>
    intro hpos
    apply h.dvd_offset
    rintro rfl
    have hzero : a.dynamicBytes / k.size = 0 := by rw [h.dynamicBytes_eq, Nat.zero_div]
    exact absurd hzero (Nat.ne_of_gt hpos)

theorem Laid.capacity_word (h : Laid machine a capacity dynamic) : capacity ≤ wordMax :=
  Nat.le_trans h.capacity_le (Nat.le_trans (Nat.le_add_right _ _) h.total_le)

theorem apart_serve {capacity : Nat} (hcapacity : capacity ≤ wordMax)
    (requests : List (ElementKind × Nat)) :
    (∀ s, .ok s ∈ (serve capacity 0 requests).1 → s.Inside capacity) ∧
      (serve capacity 0 requests).1.Pairwise
        fun x y => ∀ s s', x = .ok s → y = .ok s' → s.Before s' := by
  obtain ⟨answers, hslices, hreservations⟩ := exists_reservations capacity requests
  have hresult : ∀ (x : Answer) s, x.slice = .ok s →
      x.result = .ok s.offset ∧ s.kind = x.kind ∧ s.length = x.length := by
    intro x s hx
    rw [Answer.slice] at hx
    split at hx
    · rename_i offset hoffset
      obtain rfl := Except.ok.inj hx
      exact ⟨hoffset, rfl, rfl⟩
    · cases hx
  rw [hslices]
  constructor
  · intro s hs
    obtain ⟨x, hx, hslice⟩ := List.mem_map.mp hs
    obtain ⟨hoffset, hkind, hlength⟩ := hresult x s hslice
    obtain ⟨hdvd, hstop⟩ := hreservations.inside hx hoffset
    rw [Answer.stop, ← hkind, ← hlength] at hstop
    exact ⟨hkind ▸ hdvd, SharedSlice.stop_eq_ok (Nat.le_trans hstop hcapacity), hstop⟩
  · rw [List.pairwise_map]
    refine hreservations.pairwise.imp fun {x y} hbefore s s' hs hs' => ?_
    obtain ⟨hoffset, hkind, hlength⟩ := hresult x s hs
    obtain ⟨hoffset', -⟩ := hresult y s' hs'
    have hle := hbefore _ _ hoffset hoffset'
    rwa [Answer.stop, ← hkind, ← hlength] at hle

end Arena

namespace Transcript

variable {β ω : Type} [Gate β] [Gate ω] {d d' : Transcript β ω} {n lane : Nat}
  {member member' : Member}

theorem Run.requests_isPrefix (h : Run n d d') (lane : Nat) :
    d.requests lane <+: d'.requests lane := by
  apply h.induction (P := fun d' => d.requests lane <+: d'.requests lane)
  on_goal 2 => exact List.prefix_refl _
  intro d₁ peer d₂ hprefix hstep
  obtain ⟨m, t', -, -, rfl⟩ := step_eq_some.mp hstep
  exact hprefix.trans ((begun_isPrefix_after d₁ peer m t' lane).filterMap _)

omit [Gate β] [Gate ω] in
theorem Alone.served_reserved (h : d.Alone) (hmember : d.team.members[lane]? = some member) :
    Arena.serve d.team.plan.arena.capacity 0 (d.requests lane) =
      (d.slices lane, d.team.reserved member) := by
  rw [h.served, Team.tops_scene hmember, Team.reserved, h.reserver]

theorem Alone.reserved_le (h : d.Alone)
    (hcapacity : d.team.plan.arena.capacity ≤ wordMax) (hrun : Run n d d')
    (hmember : d.team.members[lane]? = some member)
    (hmember' : d'.team.members[lane]? = some member') :
    d.team.reserved member ≤ d'.team.reserved member' := by
  have hserved := h.served_reserved hmember
  have hserved' := (h.run hrun).served_reserved hmember'
  obtain ⟨rest, hrest⟩ := hrun.requests_isPrefix lane
  rw [hrun.plan_eq, ← hrest, Arena.serve_append, hserved] at hserved'
  have htop : d.team.reserved member ≤ d.team.plan.arena.capacity := by
    obtain ⟨_, -, hreservations⟩ :=
      Arena.exists_reservations d.team.plan.arena.capacity (d.requests lane)
    rw [hserved] at hreservations
    exact hreservations.top_le
  have hserving := Arena.serving_serve htop hcapacity rest
  have hlast : (Arena.serve _ (d.team.reserved member) rest).2 = d'.team.reserved member' :=
    congrArg Prod.snd hserved'
  exact hlast ▸ hserving.top_le

/-- Whatever a lane that reserves for itself asks for, in an arena with a dynamic area behind it.
Its requests are served one after the other, each refused exactly if its elements would end behind
the arena. Its slices are aligned, lie in the arena and do not overlap. A refused request might as
well not have been made, and the reserved bytes never get fewer. The dynamic area is the same at
any time, and lies behind the arena in the memory that was provided. -/
theorem slices_disjoint {machine : Machine} {b : BlockTask} {g : Grouping} {observed : Bool}
    {barrier : β} {warps : Array ω} {t : Team β ω} {d : Transcript β ω} {capacity dynamic m lane : Nat}
    {member : Member} (harena : Arena.make machine capacity dynamic = .ok b.arena)
    (ht : b.team g .lane observed barrier warps = .ok t) (hrun : Run m (make t) d)
    (hmember : d.team.members[lane]? = some member) :
    Arena.Serving capacity 0 (d.requests lane) (d.slices lane) (d.team.reserved member) ∧
    (∀ s, .ok s ∈ d.slices lane → s.Inside capacity) ∧
    (d.slices lane).Pairwise (fun x y => ∀ s s', x = .ok s → y = .ok s' → s.Before s') ∧
    (∀ i e, (d.slices lane)[i]? = some (.error e) →
      Arena.Serving capacity 0 ((d.requests lane).eraseIdx i) ((d.slices lane).eraseIdx i)
        (d.team.reserved member)) ∧
    (∀ n d' member', Run n d d' → d'.team.members[lane]? = some member' →
      d.team.reserved member ≤ d'.team.reserved member') ∧
    ∃ l, b.lane g lane = .ok l ∧ ∀ k,
      Arena.Beside machine l.arena capacity dynamic (l.arena.dynamicSlice k) := by
  have hlaid := Arena.laid_of_make harena
  have halone := alone_of_team ht hrun
  have hcapacity : d.team.plan.arena.capacity = capacity := by
    obtain ⟨-, hplan, -⟩ := BlockTask.team_starts ht
    rw [hrun.plan_eq, make, hplan]
    exact hlaid.capacity_eq
  have hserved := halone.served_reserved hmember
  rw [hcapacity] at hserved
  have hserving := Arena.serving_serve (Nat.zero_le capacity) hlaid.capacity_word (d.requests lane)
  obtain ⟨hinside, hapart⟩ := Arena.apart_serve hlaid.capacity_word (d.requests lane)
  rw [hserved] at hserving hinside hapart
  refine ⟨hserving, hinside, hapart, fun i e hi => hserving.eraseIdx hi, ?_, ?_⟩
  · intro n d' member' hrest hmember'
    exact halone.reserved_le (hcapacity ▸ hlaid.capacity_word) hrest hmember hmember'
  · obtain ⟨l, hl⟩ := b.exists_lane g lane
    obtain ⟨-, -, -, hsame⟩ := BlockTask.eq_of_lane hl
    exact ⟨l, hl, fun k => (hsame ▸ hlaid).beside k⟩

/-- A lane that asks for three bytes, for more than there is, and for two aligned words. -/
def raggedProgram : Program :=
  .allocate .u8 3 fun _ => .allocate .u64 9 fun _ => .allocate .u32 2 fun _ => .finish (.ok ())

theorem raggedProgram_within : raggedProgram.Within 3 :=
  .allocate fun _ => .allocate fun _ => .allocate fun _ => .finish

def raggedTask : BlockTask where
  division := ⟨[1], [1], [1]⟩
  kernel := ⟨fun _ => raggedProgram, fun _ => 18, fun _ => 13, fun _ => 3,
    fun _ => raggedProgram_within⟩
  block := 0
  arena := ⟨18, 64, 13⟩
  buffers := #[]

def raggedTeam : Team SoloGate SoloGate where
  plan := ⟨0, ⟨18, 64, 13⟩, .lane, 1, true⟩
  members := #[⟨.running raggedProgram, 0, #[]⟩]
  barrier := .mk
  warps := #[.mk]
  memory := ⟨.zeros, #[]⟩
  top := 0
  published := none
  reported := []

def raggedSlices : List (Except Error SharedSlice) :=
  [.ok ⟨.u8, 0, 3⟩, .error (.sharedMemoryExceeded 80 18), .ok ⟨.u32, 4, 2⟩]

theorem soloTeam_ragged : raggedTask.soloTeam true = .ok raggedTeam := by
  rw [BlockTask.soloTeam, BlockTask.team, BlockTask.members, Array.mapM_eq_mapM_toList,
    Array.toList_range]
  rfl

theorem slices_disjoint_ragged :
    ∃ d member, Run 3 (make raggedTeam) d ∧ d.team.members[0]? = some member ∧
      d.slices 0 = raggedSlices ∧
      Arena.Serving 18 0 [(.u8, 3), (.u32, 2)] [.ok ⟨.u8, 0, 3⟩, .ok ⟨.u32, 4, 2⟩] 12 ∧
      ∃ l, raggedTask.lane (BlockTask.soloGrouping 1 1) 0 = .ok l ∧
        Arena.Beside .standard l.arena 18 13 (l.arena.dynamicSlice .u64) := by
  have heval : (alternate raggedTeam 3).map (fun d => (d.requests 0, d.slices 0,
      d.team.members[0]?.map d.team.reserved)) =
      some ([(.u8, 3), (.u64, 9), (.u32, 2)], raggedSlices, some 12) := by decide +kernel
  obtain ⟨d, hd, hall⟩ := Option.map_eq_some_iff.mp heval
  obtain ⟨hrequests, hrest⟩ := Prod.mk.inj hall
  obtain ⟨hslices, hlast⟩ := Prod.mk.inj hrest
  obtain ⟨member, hmember, hreserved⟩ := Option.map_eq_some_iff.mp hlast
  have hrun := run_of_foldlM hd
  have harena : Arena.make .standard 18 13 = .ok raggedTask.arena := by rfl
  obtain ⟨-, -, -, herase, -, l, hl, hbeside⟩ :=
    slices_disjoint harena soloTeam_ragged hrun hmember
  have hrefused := herase 1 _ (by rw [hslices]; rfl)
  rw [hrequests, hslices, hreserved] at hrefused
  exact ⟨d, member, hrun, hmember, hslices, hrefused, l, hl, hbeside .u64⟩

end Transcript

end LaneGrid
