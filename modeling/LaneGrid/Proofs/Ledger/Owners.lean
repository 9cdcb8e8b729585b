import LaneGrid.Memory.Workspace
import LaneGrid.Proofs.Ledger.Depot

namespace LaneGrid

/-- The buffer that is held, with its device. -/
def Holding.buffers : Holding → List (DeviceId × Buffer)
  | .buffer b => [(b.device, b)]
  | .slice _ => []

namespace Workspace

def buffers (w : Workspace) : List (DeviceId × Buffer) :=
  w.holdings.flatMap (·.2.buffers)

/-- All that can be done with a workspace. -/
inductive Step (w : Workspace) : Workspace → Prop
  | allocate (name : String) (family : DeviceKind) (index : Nat) (k : ElementKind)
      (indexKind : IndexKind) (extent : List Int) (pitched : Bool) :
      Step w (w.allocate name family index k indexKind extent pitched).2
  | clone (name target : String) : Step w (w.clone name target).2
  | rename (name target : String) : Step w (w.rename name target)
  | drop (name : String) : Step w (w.drop name)
  | hold (name : String) (s : HostSlice) : Step w (w.put name (.slice s))
  | read (v : View) (bytes : Bytes) : Step w (w.read v bytes).2
  | write (name : String) (v : View) (bytes : Bytes) (xs : List (Element v.region.kind)) :
      Step w (w.write name v bytes xs).2
  | fill (name : String) (v : View) (bytes : Bytes) (x : Element v.region.kind) :
      Step w (w.fill name v bytes x).2
  | access (name : String) (v : View) (bytes : Bytes) (index : List Nat)
      (a : Access v.region.kind) : Step w (w.access name v bytes index a).2
  | copy (name : String) (v : View) (bytes : Bytes) (source : View) (sourceBytes : Bytes) :
      Step w (w.copy name v bytes source sourceBytes).2

def Run : Workspace → Workspace → Prop :=
  Relation.ReflTransGen Step

/-- The depot has the devices of the workspace, and its names and `loose` hold what is owned. -/
structure Shows (w : Workspace) (loose : List (DeviceId × Buffer)) (d : Depot DeviceId) : Prop where
  names : (w.holdings.map (·.1)).Nodup
  device_eq : ∀ dev ∈ w.devices, d.devices dev.id = dev
  owned_eq : d.owned = loose ++ w.buffers
  errands_eq : d.errands = []
  home : ∀ p ∈ d.owned, ∃ dev ∈ w.devices, dev.id = p.1

theorem devices_setDevice (w : Workspace) (dev : Device) :
    (w.setDevice dev).devices = w.devices.map fun e => if e.id = dev.id then dev else e := by
  rw [devices, setDevice, ← List.map_append]
  rfl

theorem ids_setDevice (w : Workspace) (dev : Device) :
    (w.setDevice dev).devices.map (·.id) = w.devices.map (·.id) := by
  rw [devices_setDevice, List.map_map]
  refine List.map_congr_left fun e _ => ?_
  by_cases h : e.id = dev.id
  · rw [Function.comp_apply, if_pos h, h]
  · rw [Function.comp_apply, if_neg h]

namespace Shows

variable {w : Workspace} {loose : List (DeviceId × Buffer)} {d : Depot DeviceId}

theorem report (h : w.Shows loose d) (events : List Event) : (w.report events).Shows loose d :=
  ⟨h.names, h.device_eq, h.owned_eq, h.errands_eq, h.home⟩

theorem setDevice (h : w.Shows loose d) (dev : Device) {key : DeviceId} (hkey : dev.id = key)
    (loose' : List (DeviceId × Buffer)) (howned : ∀ p ∈ loose', ∃ e ∈ w.devices, e.id = p.1) :
    (w.setDevice dev).Shows loose' { d with
      devices := Function.update d.devices key dev, owned := loose' ++ w.buffers } where
  names := h.names
  device_eq := by
    intro e he
    rw [devices_setDevice] at he
    obtain ⟨e', he', rfl⟩ := List.mem_map.mp he
    by_cases heq : e'.id = dev.id
    · rw [if_pos heq, hkey]
      exact Function.update_self _ _ _
    · rw [if_neg heq]
      rw [hkey] at heq
      exact (Function.update_of_ne heq _ _).trans (h.device_eq e' he')
  owned_eq := rfl
  errands_eq := h.errands_eq
  home := by
    intro p hp
    have hid : p.1 ∈ w.devices.map (·.id) := by
      rcases List.mem_append.mp hp with hloose | hheld
      · exact List.mem_map.mpr (howned p hloose)
      · refine List.mem_map.mpr (h.home p ?_)
        rw [h.owned_eq]
        exact List.mem_append_right _ hheld
    rw [← ids_setDevice w dev] at hid
    exact List.mem_map.mp hid

theorem move (h : w.Shows loose d) (w' : Workspace) (loose' : List (DeviceId × Buffer))
    (hdevices : w'.devices = w.devices) (hnames : (w'.holdings.map (·.1)).Nodup)
    (hperm : (loose' ++ w'.buffers).Perm d.owned) :
    ∃ d', Depot.Run d d' ∧ w'.Shows loose' d' := by
  refine ⟨{ d with owned := loose' ++ w'.buffers }, .single ⟨none, .move hperm⟩, ?_⟩
  refine ⟨hnames, ?_, rfl, h.errands_eq, fun p hp => ?_⟩
  · rw [hdevices]
    exact h.device_eq
  · rw [hdevices]
    exact h.home p (hperm.subset hp)

theorem setBytes (h : w.Shows [] d) (name : String) (bytes : Bytes) :
    ∃ d', Depot.Run d d' ∧ (w.setBytes name bytes).Shows [] d' := by
  have hsame : List.Forall₂ (fun p q => q = (p.1, { p.2 with bytes := q.2.bytes }))
      d.owned (w.setBytes name bytes).buffers := by
    rw [h.owned_eq, List.nil_append]
    simp only [Workspace.buffers, Workspace.setBytes]
    induction w.holdings with
    | nil => exact .nil
    | cons p rest ih =>
        rw [List.map_cons, List.flatMap_cons, List.flatMap_cons]
        refine List.rel_append ?_ ih
        rcases p with ⟨name', b | s⟩
        · by_cases hname : name' = name
          · simp [hname, Holding.buffers, Holding.setBytes]
          · simp [hname, Holding.buffers]
        · by_cases hname : name' = name
          · simp [hname, Holding.buffers, Holding.setBytes]
          · simp [hname, Holding.buffers]
  refine ⟨{ d with owned := (w.setBytes name bytes).buffers },
    .single ⟨none, .write hsame⟩, ?_, h.device_eq, rfl, h.errands_eq, ?_⟩
  · have hkept : (w.setBytes name bytes).holdings.map (·.1) = w.holdings.map (·.1) := by
      rw [Workspace.setBytes, List.map_map]
      refine List.map_congr_left fun p _ => ?_
      by_cases hname : p.1 = name <;> simp [hname]
    rw [hkept]
    exact h.names
  · intro q hq
    have hkey : q.1 ∈ d.owned.map (·.1) := by
      rw [Depot.devices_rewritten hsame]
      exact List.mem_map_of_mem hq
    obtain ⟨p, hp, hkey⟩ := List.mem_map.mp hkey
    rw [← hkey]
    exact h.home p hp

theorem find?_device (h : w.Shows loose d) {p : DeviceId × Buffer} (hp : p ∈ d.owned) :
    w.devices.find? (·.id = p.1) = some (d.devices p.1) ∧ (d.devices p.1).id = p.1 := by
  obtain ⟨dev, hdev, hid⟩ := h.home p hp
  have hfound : (w.devices.find? (·.id = p.1)).isSome :=
    List.find?_isSome.mpr ⟨dev, hdev, decide_eq_true hid⟩
  obtain ⟨e, he⟩ := Option.isSome_iff_exists.mp hfound
  have hkey : e.id = p.1 := by simpa using List.find?_some he
  have hsame : d.devices p.1 = e := hkey ▸ h.device_eq e (List.mem_of_find?_eq_some he)
  rw [hsame]
  exact ⟨he, hkey⟩

theorem free {hold : Holding} (h : w.Shows hold.buffers d) :
    ∃ d', Depot.Run d d' ∧ (w.free hold).Shows [] d' := by
  cases hold with
  | slice s => exact ⟨d, .refl, h⟩
  | buffer b =>
      have hmem : (b.device, b) ∈ d.owned := by
        rw [h.owned_eq]
        exact List.mem_append_left _ (List.mem_singleton_self _)
      obtain ⟨hfind, hid⟩ := h.find?_device hmem
      let freed : Device :=
        { d.devices b.device with ledger := (d.ledger b.device).release b.sizeBytes }
      have hfree : w.free (.buffer b) =
          (w.report [.released b.device.name b.sizeBytes]).setDevice freed := by
        simp only [Workspace.free]
        rw [show (w.report _).devices.find? (·.id = b.device) = some (d.devices b.device) from hfind]
        rfl
      refine ⟨_, @Depot.run_drop _ _ d b.device b [] w.buffers h.owned_eq, ?_⟩
      rw [hfree]
      exact (h.report _).setDevice freed hid [] fun p hp => absurd hp List.not_mem_nil

end Shows

theorem take_perm {w : Workspace} (hnames : (w.holdings.map (·.1)).Nodup) (name : String) :
    w.buffers.Perm (((w.holding? name).map Holding.buffers).getD [] ++ (w.take name).buffers) := by
  simp only [holding?, take, buffers]
  generalize w.holdings = holdings at hnames
  induction holdings with
  | nil => exact .refl _
  | cons p rest ih =>
      rw [List.map_cons, List.nodup_cons] at hnames
      by_cases hp : p.1 = name
      · have hrest : rest.filter (·.1 ≠ name) = rest := by
          rw [List.filter_eq_self]
          intro q hq
          refine decide_eq_true fun heq => hnames.1 ?_
          rw [hp, ← heq]
          exact List.mem_map_of_mem hq
        have hlookup : List.lookup name (p :: rest) = some p.2 := by
          have hbeq : (name == p.1) = true := by simpa using hp.symm
          rw [List.lookup_cons, hbeq]
        rw [hlookup, List.filter_cons_of_neg (by simp [hp]), hrest, List.flatMap_cons]
        exact .refl _
      · have hlookup : List.lookup name (p :: rest) = List.lookup name rest := by
          have hbeq : (name == p.1) = false := by simpa using Ne.symm hp
          rw [List.lookup_cons, hbeq]
        rw [hlookup, List.filter_cons_of_pos (by simpa using hp), List.flatMap_cons,
          List.flatMap_cons]
        exact ((ih hnames.2).append_left _).trans (List.perm_append_comm_assoc _ _ _)

namespace Shows

variable {w : Workspace} {loose : List (DeviceId × Buffer)} {d : Depot DeviceId}

theorem take (h : w.Shows loose d) (name : String) :
    ∃ d', Depot.Run d d' ∧ (w.take name).Shows
      (((w.holding? name).map Holding.buffers).getD [] ++ loose) d' := by
  refine h.move (w.take name) _ rfl ?_ ?_
  · exact h.names.sublist (List.filter_sublist.map _)
  · rw [h.owned_eq, List.append_assoc]
    exact (List.perm_append_comm_assoc _ _ _).trans ((take_perm h.names name).symm.append_left _)

theorem put (hold : Holding) (h : w.Shows hold.buffers d) (name : String) :
    ∃ d', Depot.Run d d' ∧ (w.put name hold).Shows [] d' := by
  obtain ⟨d₁, hrun₁, htake⟩ := h.take name
  have hfresh : ((name, hold) :: (w.take name).holdings |>.map (·.1)).Nodup := by
    rw [List.map_cons, List.nodup_cons]
    refine ⟨fun hmem => ?_, htake.names⟩
    obtain ⟨p, hp, hname⟩ := List.mem_map.mp hmem
    simpa [hname] using (List.mem_filter.mp hp).2
  obtain ⟨d₂, hrun₂, hplaced⟩ := htake.move
    { w.take name with holdings := (name, hold) :: (w.take name).holdings }
    (((w.holding? name).map Holding.buffers).getD []) rfl hfresh (by
      rw [htake.owned_eq, List.append_assoc]
      exact .refl _)
  simp only [Workspace.put]
  cases hold' : w.holding? name with
  | none =>
      rw [hold'] at hplaced
      exact ⟨d₂, hrun₁.trans hrun₂, hplaced⟩
  | some old =>
      rw [hold'] at hplaced
      obtain ⟨d₃, hrun₃, hfreed⟩ := hplaced.free
      exact ⟨d₃, (hrun₁.trans hrun₂).trans hrun₃, hfreed⟩

theorem drop (h : w.Shows [] d) (name : String) :
    ∃ d', Depot.Run d d' ∧ (w.drop name).Shows [] d' := by
  rw [Workspace.drop]
  cases hold : w.holding? name with
  | none => exact ⟨d, .refl, h⟩
  | some old =>
      obtain ⟨d₁, hrun₁, htake⟩ := h.take name
      rw [hold, Option.map_some, Option.getD_some, List.append_nil] at htake
      obtain ⟨d₂, hrun₂, hfreed⟩ := htake.free
      exact ⟨d₂, hrun₁.trans hrun₂, hfreed⟩

theorem rename (h : w.Shows [] d) (name target : String) :
    ∃ d', Depot.Run d d' ∧ (w.rename name target).Shows [] d' := by
  rw [Workspace.rename]
  cases hold : w.holding? name with
  | none => exact ⟨d, .refl, h⟩
  | some held =>
      obtain ⟨d₁, hrun₁, htake⟩ := h.take name
      rw [hold, Option.map_some, Option.getD_some, List.append_nil] at htake
      obtain ⟨d₂, hrun₂, hput⟩ := Shows.put held htake target
      exact ⟨d₂, hrun₁.trans hrun₂, hput⟩

theorem keep (h : w.Shows [] d) {dev : Device} (hdev : dev ∈ w.devices) {a : Allocation}
    (ha : ∀ b dev', a.result = .ok (b, dev') → ∃ o : Order, ∃ bytes,
      (Buffer.allocateAligned dev o.kind o.indexKind o.extent o.alignment).result =
        .ok ({ b with bytes }, dev')) (name : String) :
    ∃ d', Depot.Run d d' ∧ (w.keep name a).2.Shows [] d' := by
  rw [Workspace.keep]
  cases hresult : a.result with
  | error e => exact ⟨d, .refl, h.report _⟩
  | ok made =>
      obtain ⟨b, dev'⟩ := made
      obtain ⟨o, bytes, hfresh⟩ := ha b dev' hresult
      obtain ⟨hdraft, hacquire⟩ := Depot.allocateAligned_eq_ok hfresh
      have hdevice : ({ b with bytes } : Buffer).device = dev.id := Order.device_draft hdraft
      have hid : dev'.id = dev.id := by
        obtain ⟨l, -, -, rfl⟩ := Depot.acquire_eq_ok hacquire
        rfl
      have hsame := h.device_eq dev hdev
      have hrun₁ := d.run_allocate dev.id (hsame.symm ▸ hfresh)
      have hwrite : Depot.Step { d with
            devices := Function.update d.devices dev.id dev'
            owned := (dev.id, { b with bytes }) :: d.owned } none
          { d with
            devices := Function.update d.devices dev.id dev'
            owned := (dev.id, b) :: d.owned } :=
        .write (.cons rfl (List.forall₂_same.mpr fun p _ => rfl))
      have hshown := (h.report a.events).setDevice dev' hid (Holding.buffer b).buffers (by
          intro p hp
          obtain rfl := List.mem_singleton.mp hp
          exact ⟨dev, hdev, hdevice.symm⟩)
      obtain ⟨d₂, hrun₂, hput⟩ := Shows.put (.buffer b) hshown name
      refine ⟨d₂, .trans (hrun₁.tail ⟨none, hwrite⟩) ?_, hput⟩
      rw [h.owned_eq, ← hdevice] at *
      exact hrun₂

end Shows

theorem device_mem {w : Workspace} {family : DeviceKind} {index : Nat} {dev : Device}
    (h : (w.platform family).device index = .ok dev) : dev ∈ w.devices := by
  rw [Platform.device] at h
  split at h
  · rename_i found hfound
    obtain rfl := Except.ok.inj h
    have hmem := List.mem_of_getElem? hfound
    cases family with
    | host => exact List.mem_append_left _ hmem
    | accelerator => exact List.mem_append_right _ hmem
  · cases h

theorem clone_eq_ok {b c : Buffer} {dev dev' : Device} (h : (b.clone dev).result = .ok (c, dev')) :
    ∃ o : Order, ∃ bytes,
      (Buffer.allocateAligned dev o.kind o.indexKind o.extent o.alignment).result =
        .ok ({ c with bytes }, dev') := by
  obtain ⟨⟨fresh, dev''⟩, hfresh, h⟩ := bind_eq_ok.mp h
  obtain ⟨bytes, -, h⟩ := bind_eq_ok.mp h
  obtain ⟨rfl, rfl⟩ := Prod.mk.inj (Except.ok.inj h)
  exact ⟨⟨b.region.kind, b.indexKind, b.extent, _⟩, fresh.bytes, hfresh⟩

theorem Step.shown {w w' : Workspace} (hstep : w.Step w') {d : Depot DeviceId} (h : w.Shows [] d) :
    ∃ d', Depot.Run d d' ∧ w'.Shows [] d' := by
  cases hstep with
  | allocate name family index k indexKind extent pitched =>
      rw [Workspace.allocate]
      cases hdevice : (w.platform family).device index with
      | error e => exact ⟨d, .refl, h⟩
      | ok dev =>
          exact h.keep (device_mem hdevice) (fun b dev' hb => ⟨⟨k, indexKind, extent, _⟩, b.bytes, hb⟩) name
  | clone name target =>
      rw [Workspace.clone]
      split
      · rename_i b hb
        split
        · rename_i dev hdev
          exact h.keep (List.mem_of_find?_eq_some hdev) (fun c dev' hc => clone_eq_ok hc) target
        · exact ⟨d, .refl, h⟩
      · exact ⟨d, .refl, h⟩
  | rename name target => exact h.rename name target
  | drop name => exact h.drop name
  | hold name s => exact Shows.put (.slice s) h name
  | read v bytes =>
      rw [Workspace.read]
      split
      · exact ⟨d, .refl, h.report _⟩
      · exact ⟨d, .refl, h⟩
  | write name v bytes xs =>
      rw [Workspace.write]
      split
      · obtain ⟨d', hrun, hwritten⟩ := h.setBytes name _
        exact ⟨d', hrun, hwritten.report _⟩
      · exact ⟨d, .refl, h⟩
  | fill name v bytes x =>
      rw [Workspace.fill]
      split
      · exact h.setBytes name _
      · exact ⟨d, .refl, h⟩
  | access name v bytes index a =>
      rw [Workspace.access]
      split
      · exact h.setBytes name _
      · exact ⟨d, .refl, h⟩
  | copy name v bytes source sourceBytes =>
      rw [Workspace.copy]
      split
      · obtain ⟨d', hrun, hwritten⟩ := h.setBytes name _
        exact ⟨d', hrun, hwritten.report _⟩
      · exact ⟨d, .refl, h⟩

end Workspace

end LaneGrid
