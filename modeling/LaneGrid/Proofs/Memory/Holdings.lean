import LaneGrid.Proofs.Ledger.Accounts
import LaneGrid.Proofs.Memory.Clone

namespace LaneGrid

namespace Workspace

variable {w w' : Workspace} {name other : String} {how : Borrow} {v : View} {b : Bytes}

theorem holdings_put (w : Workspace) (name : String) (h : Holding) :
    (w.put name h).holdings = (name, h) :: w.holdings.filter (·.1 ≠ name) := by
  rw [put]
  cases w.holding? name with
  | none => rfl
  | some old => exact holdings_free _ _

theorem lookup_filter_ne {holdings : List (String × Holding)} (hne : other ≠ name) :
    (holdings.filter (·.1 ≠ name)).lookup other = holdings.lookup other := by
  induction holdings with
  | nil => rfl
  | cons p rest ih =>
      by_cases hp : p.1 = name
      · have hother : (other == p.1) = false := by simpa [hp] using hne
        rw [List.filter_cons_of_neg (by simpa using hp), ih, List.lookup_cons, hother]
      · rw [List.filter_cons_of_pos (by simpa using hp), List.lookup_cons, List.lookup_cons, ih]

theorem holding?_put (w : Workspace) (h : Holding) :
    (w.put name h).holding? other = if other = name then some h else w.holding? other := by
  rw [holding?, holdings_put, List.lookup_cons]
  split
  · rename_i heq
    rw [if_pos (by simpa using heq)]
  · rename_i hne
    have hne : other ≠ name := by simpa using hne
    rw [if_neg hne, lookup_filter_ne hne]
    rfl

theorem holding?_drop (hne : other ≠ name) : (w.drop name).holding? other = w.holding? other := by
  rw [holding?, holdings_drop, lookup_filter_ne hne]
  rfl

theorem holding?_setBytes (w : Workspace) (name other : String) (bytes : Bytes) :
    (w.setBytes name bytes).holding? other =
      if other = name then (w.holding? other).map (·.setBytes bytes) else w.holding? other := by
  simp only [holding?, setBytes]
  induction w.holdings with
  | nil => split <;> rfl
  | cons p rest ih =>
      rw [List.map_cons, List.lookup_cons, List.lookup_cons]
      have hkey : (if p.1 = name then (p.1, p.2.setBytes bytes) else p).1 = p.1 := by
        split <;> rfl
      rw [hkey, ih]
      cases hp : other == p.1 with
      | false => rfl
      | true =>
          obtain rfl : other = p.1 := by simpa using hp
          dsimp only
          split <;> rfl

theorem mem_of_holding? {hold : Holding} (h : w.holding? name = some hold) :
    (name, hold) ∈ w.holdings := by
  rw [holding?, List.lookup_eq_some_iff] at h
  obtain ⟨before, after, hsplit, -⟩ := h
  rw [hsplit]
  exact List.mem_append_right _ List.mem_cons_self

theorem view_congr (h : w'.holding? name = w.holding? name) :
    w'.view name how = w.view name how := by
  rw [view, view, h]

theorem view_setBytes_of_ne (hne : other ≠ name) (bytes : Bytes) :
    (w.setBytes name bytes).view other how = w.view other how := by
  apply view_congr
  rw [holding?_setBytes, if_neg hne]

theorem view_setBytes_self (h : w.view name how = .ok (v, b)) (bytes : Bytes) :
    (w.setBytes name bytes).view name how = .ok (v, bytes) := by
  rw [view] at h ⊢
  rw [holding?_setBytes, if_pos rfl]
  rcases hold : w.holding? name with _ | buffer | slice
  · rw [hold] at h
    cases h
  · rw [hold] at h
    cases h
    rfl
  · rw [hold] at h
    dsimp only [Option.map_some, Holding.setBytes] at h ⊢
    by_cases hchecked : how.checked
    · rw [if_pos hchecked] at h ⊢
      obtain ⟨u, hu, h⟩ := bind_eq_ok.mp h
      cases h
      rw [hu]
      rfl
    · rw [if_neg hchecked] at h ⊢
      obtain ⟨u, hu, h⟩ := bind_eq_ok.mp h
      cases h
      rw [hu]
      rfl

/-- All that changes what a name holds, and no other memory. -/
inductive Change (name : String) (w : Workspace) : Workspace → Prop
  | write (v : View) (bytes : Bytes) (xs : List (Element v.region.kind)) :
      Change name w (w.write name v bytes xs).2
  | fill (v : View) (bytes : Bytes) (x : Element v.region.kind) :
      Change name w (w.fill name v bytes x).2
  | access (v : View) (bytes : Bytes) (index : List Nat) (a : Access v.region.kind) :
      Change name w (w.access name v bytes index a).2
  | copy (v : View) (bytes : Bytes) (source : View) (sourceBytes : Bytes) :
      Change name w (w.copy name v bytes source sourceBytes).2
  /-- Elements are assigned through the slice of all elements. -/
  | assign (bytes : Bytes) : Change name w (w.setBytes name bytes)
  | drop : Change name w (w.drop name)

theorem Change.holding?_eq (h : w.Change name w') (hne : other ≠ name) :
    w'.holding? other = w.holding? other := by
  have hset (bytes : Bytes) : (w.setBytes name bytes).holding? other = w.holding? other := by
    rw [holding?_setBytes, if_neg hne]
  cases h with
  | write v bytes xs =>
      rw [Workspace.write]
      split
      · exact hset _
      · rfl
  | fill v bytes x =>
      rw [Workspace.fill]
      split
      · exact hset _
      · rfl
  | access v bytes index a =>
      rw [Workspace.access]
      split
      · exact hset _
      · rfl
  | copy v bytes source sourceBytes =>
      rw [Workspace.copy]
      split
      · exact hset _
      · rfl
  | assign bytes => exact hset bytes
  | drop => exact holding?_drop hne

theorem holding?_of_changes (h : Relation.ReflTransGen (Change name) w w') (hne : other ≠ name) :
    w'.holding? other = w.holding? other := by
  induction h with
  | refl => rfl
  | tail _ hchange ih => rw [hchange.holding?_eq hne, ih]

/-- The alignment to which a device pads rows. -/
def preferred (settings : Settings) (id : DeviceId) : Nat :=
  match id.kind with
  | .host => 1
  | .accelerator => settings.accelerator.pitchAlignment

/-- Devices pad rows as they were set up to, and buffers have a layout that their device drew. -/
structure Stocked (settings : Settings) (w : Workspace) : Prop where
  aligned : ∀ d ∈ w.devices, d.properties.pitchAlignment = preferred settings d.id
  drawn : ∀ p ∈ w.holdings, ∀ b, p.2 = .buffer b → b.Drawn (preferred settings b.device)

theorem stocked_start (settings : Settings) : (start settings).Stocked settings where
  aligned := by
    intro d hd
    rcases List.mem_append.mp hd with hhost | haccelerator
    · obtain rfl := List.mem_singleton.mp hhost
      rfl
    · obtain ⟨i, -, rfl⟩ := List.mem_map.mp haccelerator
      rfl
  drawn := fun p hp => absurd hp List.not_mem_nil

namespace Stocked

variable {settings : Settings}

theorem report (h : w.Stocked settings) (events : List Event) :
    (w.report events).Stocked settings :=
  ⟨h.aligned, h.drawn⟩

theorem setDevice (h : w.Stocked settings) {d : Device}
    (hd : d.properties.pitchAlignment = preferred settings d.id) :
    (w.setDevice d).Stocked settings where
  aligned := by
    intro e he
    rw [devices_setDevice] at he
    obtain ⟨e', he', rfl⟩ := List.mem_map.mp he
    split
    · exact hd
    · exact h.aligned e' he'
  drawn := h.drawn

theorem free (h : w.Stocked settings) (hold : Holding) : (w.free hold).Stocked settings := by
  cases hold with
  | slice s => exact h
  | buffer b =>
      rw [free.eq_def]
      dsimp only
      split
      · rename_i d hd
        exact (h.report _).setDevice (h.aligned d (List.mem_of_find?_eq_some hd))
      · exact h.report _

theorem ofHoldings (h : w.Stocked settings) {holdings : List (String × Holding)}
    (hdrawn : ∀ p ∈ holdings, ∀ b, p.2 = .buffer b → b.Drawn (preferred settings b.device)) :
    ({ w with holdings } : Workspace).Stocked settings :=
  ⟨h.aligned, hdrawn⟩

theorem take (h : w.Stocked settings) (name : String) : (w.take name).Stocked settings :=
  h.ofHoldings fun p hp => h.drawn p (List.mem_of_mem_filter hp)

theorem drop (h : w.Stocked settings) (name : String) : (w.drop name).Stocked settings := by
  rw [Workspace.drop]
  split
  · exact (h.take name).free _
  · exact h

theorem put (h : w.Stocked settings) (name : String) {hold : Holding}
    (hdrawn : ∀ b, hold = .buffer b → b.Drawn (preferred settings b.device)) :
    (w.put name hold).Stocked settings := by
  have hplaced : Stocked settings
      { w.take name with holdings := (name, hold) :: (w.take name).holdings } := by
    refine (h.take name).ofHoldings fun p hp => ?_
    rcases List.mem_cons.mp hp with rfl | hp
    · exact hdrawn
    · exact (h.take name).drawn p hp
  rw [Workspace.put]
  cases w.holding? name with
  | none => exact hplaced
  | some old => exact hplaced.free old

theorem rename (h : w.Stocked settings) (name target : String) :
    (w.rename name target).Stocked settings := by
  rw [Workspace.rename]
  split
  · rename_i hold hheld
    exact (h.take name).put target (h.drawn _ (mem_of_holding? hheld))
  · exact h

theorem setBytes (h : w.Stocked settings) (name : String) (bytes : Bytes) :
    (w.setBytes name bytes).Stocked settings := by
  apply h.ofHoldings
  intro q hq b hb
  obtain ⟨p, hp, rfl⟩ := List.mem_map.mp hq
  split at hb
  · rcases hhold : p.2 with buffer | slice
    · rw [hhold] at hb
      cases hb
      exact (h.drawn p hp buffer hhold).setBytes bytes
    · rw [hhold] at hb
      cases hb
  · exact h.drawn p hp b hb

theorem keep (h : w.Stocked settings) (name : String) {a : Allocation}
    (ha : ∀ b d, a.result = .ok (b, d) →
      d.properties.pitchAlignment = preferred settings d.id ∧
        b.Drawn (preferred settings b.device)) : (w.keep name a).2.Stocked settings := by
  rw [Workspace.keep]
  rcases hresult : a.result with e | ⟨b, d⟩
  · exact h.report _
  · obtain ⟨hd, hb⟩ := ha b d hresult
    refine ((h.report _).setDevice hd).put name ?_
    rintro c ⟨⟩
    exact hb

theorem step (h : w.Stocked settings) (hstep : w.Step w') : w'.Stocked settings := by
  cases hstep with
  | allocate name family index k indexKind extent padded =>
      rw [Workspace.allocate]
      split
      · exact h
      · rename_i d hd
        apply h.keep
        intro b d' hresult
        have haligned := h.aligned d (device_mem hd)
        obtain ⟨hdrawn, hdevice, hid, hproperties⟩ := Buffer.drawn_of_allocate hresult
        rw [haligned, ← hdevice] at hdrawn
        rw [hproperties, hid]
        exact ⟨haligned, hdrawn⟩
  | clone name target =>
      rw [Workspace.clone]
      split
      · rename_i b hb
        split
        · rename_i d hd
          apply h.keep
          intro c d' hresult
          have haligned := h.aligned d (List.mem_of_find?_eq_some hd)
          have hid : d.id = b.device := by simpa using List.find?_some hd
          have hdrawn := h.drawn _ (mem_of_holding? hb) b rfl
          rw [hid] at haligned
          rw [← haligned] at hdrawn
          obtain ⟨bytes, -, hclone⟩ := hdrawn.clone_eq hid.symm
          rw [hclone] at hresult
          obtain ⟨d'', hacquire, hresult⟩ := bind_eq_ok.mp hresult
          cases hresult
          obtain ⟨hid', hproperties⟩ := Buffer.id_of_acquire (liftError_eq_ok.mp hacquire)
          rw [hproperties, hid', hid, haligned]
          rw [haligned] at hdrawn
          exact ⟨rfl, hdrawn.setBytes bytes⟩
        · exact h
      · exact h
  | rename name target => exact h.rename name target
  | drop name => exact h.drop name
  | hold name s => exact h.put name fun b hb => by cases hb
  | read v bytes =>
      rw [Workspace.read]
      split
      · exact h.report _
      · exact h
  | write name v bytes xs =>
      rw [Workspace.write]
      split
      · exact (h.setBytes name _).report _
      · exact h
  | fill name v bytes x =>
      rw [Workspace.fill]
      split
      · exact h.setBytes name _
      · exact h
  | access name v bytes index a =>
      rw [Workspace.access]
      split
      · exact h.setBytes name _
      · exact h
  | copy name v bytes source sourceBytes =>
      rw [Workspace.copy]
      split
      · exact (h.setBytes name _).report _
      · exact h

end Stocked

theorem Run.stocked {settings : Settings} (h : Run (start settings) w) : w.Stocked settings := by
  induction h with
  | refl => exact stocked_start settings
  | tail _ hstep ih => exact ih.step hstep

end Workspace

end LaneGrid
