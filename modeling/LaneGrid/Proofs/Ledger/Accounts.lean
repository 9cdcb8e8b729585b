import LaneGrid.Proofs.Ledger.Owners

namespace LaneGrid

namespace Depot

variable {κ : Type} [DecidableEq κ] {d d' : Depot κ} {s : κ}

theorem Balanced.eq_zero (h : d.Balanced s) (hquiet : d.Quiet s) (howned : ∀ p ∈ d.owned, p.1 ≠ s) :
    (d.ledger s).used = 0 ∧ (d.ledger s).live = 0 := by
  obtain ⟨hused, hlive⟩ := h.of_quiet hquiet
  have hnone : d.owned.filter (·.1 = s) = [] := by
    rw [List.filter_eq_nil_iff]
    intro p hp hmem
    exact howned p hp (of_decide_eq_true hmem)
  refine ⟨?_, ?_⟩
  · rw [hused, ownedBytes, hnone]
    rfl
  · rw [hlive, ownedCount, List.countP_eq_length_filter, hnone]
    rfl

/-- Requests that fail leave no trace: between two moments at which nothing is under way, an
account changes by what has come to be owned or is no longer owned. -/
theorem Balanced.ledger_eq (h : d.Balanced s) (h' : d'.Balanced s) (hrun : Run d d')
    (hquiet : d.Quiet s) (hquiet' : d'.Quiet s)
    (hbytes : ownedBytes s d'.owned = ownedBytes s d.owned)
    (hcount : ownedCount s d'.owned = ownedCount s d.owned) : d'.ledger s = d.ledger s := by
  obtain ⟨hused, hlive⟩ := h.of_quiet hquiet
  obtain ⟨hused', hlive'⟩ := h'.of_quiet hquiet'
  obtain ⟨hdevice, hcapacity⟩ := hrun.same_account s
  rw [hbytes, ← hused] at hused'
  rw [hcount, ← hlive] at hlive'
  cases hl' : d'.ledger s
  cases hl : d.ledger s
  simp_all

end Depot

namespace Workspace

/-- The depot of a workspace in which nothing is held. -/
def startDepot (settings : Settings) : Depot DeviceId where
  devices id := match id.kind with
    | .host => Device.host settings.host 0
    | .accelerator => Device.accelerator settings.accelerator id.index (id.index + 1)
  owned := []
  errands := []

theorem fresh_startDepot (settings : Settings) : (startDepot settings).Fresh where
  used_eq := by
    rintro ⟨_ | _, index⟩ <;> rfl
  live_eq := by
    rintro ⟨_ | _, index⟩ <;> rfl
  owned_eq := rfl
  errands_eq := rfl

theorem shows_start (settings : Settings) : (start settings).Shows [] (startDepot settings) where
  names := .nil
  device_eq := by
    intro dev hdev
    rcases List.mem_append.mp hdev with hhost | haccelerator
    · obtain rfl := List.mem_singleton.mp hhost
      rfl
    · obtain ⟨i, -, rfl⟩ := List.mem_map.mp haccelerator
      rfl
  owned_eq := rfl
  errands_eq := rfl
  home := fun p hp => absurd hp List.not_mem_nil

theorem Run.shown {settings : Settings} {w : Workspace} (h : Run (start settings) w) :
    ∃ d, Depot.Run (startDepot settings) d ∧ w.Shows [] d := by
  induction h with
  | refl => exact ⟨_, .refl, shows_start settings⟩
  | tail _ hstep ih =>
      obtain ⟨d, hrun, hshows⟩ := ih
      obtain ⟨d', hrun', hshows'⟩ := hstep.shown hshows
      exact ⟨d', hrun.trans hrun', hshows'⟩

/-- The account of each device tells what the names hold there. -/
def Accounted (w : Workspace) : Prop :=
  ∀ dev ∈ w.devices, dev.ledger.used = Depot.ownedBytes dev.id w.buffers ∧
    dev.ledger.live = Depot.ownedCount dev.id w.buffers ∧
    dev.ledger.used ≤ dev.ledger.capacity ∧ dev.ledger.used ≤ wordMax

theorem Run.accounted {settings : Settings} {w : Workspace} (h : Run (start settings) w) :
    w.Accounted := by
  obtain ⟨d, hrun, hshows⟩ := h.shown
  intro dev hdev
  have hbalanced := hrun.balanced ((fresh_startDepot settings).balanced dev.id)
  have hquiet : d.Quiet dev.id := fun e he => by
    rw [hshows.errands_eq] at he
    exact absurd he List.not_mem_nil
  obtain ⟨hused, hlive⟩ := hbalanced.of_quiet hquiet
  have hle := hbalanced.used_le
  have hword := hbalanced.used_word
  rw [Depot.ledger, hshows.device_eq dev hdev] at hused hlive hle hword
  rw [hshows.owned_eq, List.nil_append] at hused hlive
  exact ⟨hused, hlive, hle, hword⟩

theorem devices_keep {w : Workspace} {name : String} {a : Allocation} {e : Failure}
    (h : (w.keep name a).1 = .error e) : (w.keep name a).2.devices = w.devices := by
  rw [keep] at h ⊢
  split at h
  · cases h
  · rfl

theorem devices_allocate {w : Workspace} {name : String} {family : DeviceKind} {index : Nat}
    {k : ElementKind} {indexKind : IndexKind} {extent : List Int} {pitched : Bool} {e : Failure}
    (h : (w.allocate name family index k indexKind extent pitched).1 = .error e) :
    (w.allocate name family index k indexKind extent pitched).2.devices = w.devices := by
  rw [allocate] at h ⊢
  split
  · rfl
  · rename_i dev hdev
    rw [hdev] at h
    exact devices_keep h

theorem devices_clone {w : Workspace} {name target : String} {e : Failure}
    (h : (w.clone name target).1 = .error e) : (w.clone name target).2.devices = w.devices := by
  rw [clone] at h ⊢
  split
  · rename_i b hb
    rw [hb] at h
    simp only at h
    split
    · rename_i dev hdev
      rw [hdev] at h
      exact devices_keep h
    · rfl
  · rfl

theorem holdings_free (w : Workspace) (h : Holding) : (w.free h).holdings = w.holdings := by
  cases h with
  | slice s => rfl
  | buffer b =>
      rw [free.eq_def]
      dsimp only
      split <;> rfl

theorem holdings_drop (w : Workspace) (name : String) :
    (w.drop name).holdings = w.holdings.filter (·.1 ≠ name) := by
  rw [drop]
  split
  · exact holdings_free _ _
  · rename_i hnone
    rw [eq_comm, List.filter_eq_self]
    intro p hp
    refine decide_eq_true fun hname => ?_
    rw [holding?, List.lookup_eq_none_iff] at hnone
    simpa [hname] using hnone p hp

theorem holdings_finish (w : Workspace) : Run w w.finish ∧ w.finish.holdings = [] := by
  have hall (names : List String) (w' : Workspace) : Run w' (names.foldl drop w') ∧
      (names.foldl drop w').holdings = w'.holdings.filter (·.1 ∉ names) := by
    induction names generalizing w' with
    | nil => exact ⟨.refl, by simp⟩
    | cons name names ih =>
        obtain ⟨hrun, hholdings⟩ := ih (w'.drop name)
        refine ⟨.head (.drop name) hrun, ?_⟩
        rw [List.foldl_cons, hholdings, holdings_drop, List.filter_filter]
        refine List.filter_congr fun p _ => ?_
        simp [Bool.and_comm]
  obtain ⟨hrun, hholdings⟩ := hall ((w.holdings.map (·.1)).mergeSort (· ≤ ·)) w
  refine ⟨hrun, hholdings.trans ?_⟩
  rw [List.filter_eq_nil_iff]
  intro p hp hmem
  refine absurd ?_ (of_decide_eq_true hmem)
  rw [(List.mergeSort_perm _ _).mem_iff]
  exact List.mem_map_of_mem hp

end Workspace

/-- Whatever clients do at the same time, the account of a device stays within its capacity, holds
exactly what is owned and what is under way, and is not touched by what happens elsewhere or to
contents. So it is exact whenever nothing is under way, and requests that fail leave no trace. The
same is true of workspaces, whatever is done with them. -/
theorem accounts_follow_owners {κ : Type} [DecidableEq κ] {first d : Depot κ}
    (hfirst : first.Fresh) (hrun : Depot.Run first d) {settings : Settings} {w : Workspace}
    (hw : Workspace.Run (.start settings) w) :
    (∀ s, d.Balanced s ∧ (d.ledger s).capacity = (first.ledger s).capacity ∧
      (∀ n, .releasing s n ∈ d.errands → n ≤ (d.ledger s).used) ∧
      (.refunded s ∈ d.errands → 0 < (d.ledger s).live) ∧
      (d.Quiet s → (d.ledger s).used = Depot.ownedBytes s d.owned ∧
        (d.ledger s).live = Depot.ownedCount s d.owned) ∧
      (d.Quiet s → (∀ p ∈ d.owned, p.1 ≠ s) → (d.ledger s).used = 0 ∧ (d.ledger s).live = 0) ∧
      (∀ on d', d.Step on d' → on ≠ some s → d'.ledger s = d.ledger s) ∧
      ∀ d', Depot.Run d d' → d.Quiet s → d'.Quiet s →
        Depot.ownedBytes s d'.owned = Depot.ownedBytes s d.owned →
        Depot.ownedCount s d'.owned = Depot.ownedCount s d.owned → d'.ledger s = d.ledger s) ∧
    w.Accounted ∧
    (∀ name family index k indexKind extent pitched e,
      (w.allocate name family index k indexKind extent pitched).1 = .error e →
        (w.allocate name family index k indexKind extent pitched).2.devices = w.devices) ∧
    (∀ name target e, (w.clone name target).1 = .error e →
      (w.clone name target).2.devices = w.devices) ∧
    ∀ dev ∈ w.finish.devices, dev.ledger.used = 0 ∧ dev.ledger.live = 0 := by
  refine ⟨fun s => ?_, hw.accounted, fun _ _ _ _ _ _ _ _ => Workspace.devices_allocate,
    fun _ _ _ => Workspace.devices_clone, fun dev hdev => ?_⟩
  · have hbalanced := hrun.balanced (hfirst.balanced s)
    obtain ⟨hrefund, hcount⟩ := hbalanced.covers
    refine ⟨hbalanced, (hrun.same_account s).2, hrefund, hcount, hbalanced.of_quiet,
      hbalanced.eq_zero, fun on d' hstep hs => (hstep.elsewhere hs).1, ?_⟩
    intro d' hrun' hquiet hquiet' hbytes hcount
    exact hbalanced.ledger_eq (hrun'.balanced hbalanced) hrun' hquiet hquiet' hbytes hcount
  · obtain ⟨hfinish, hnone⟩ := w.holdings_finish
    obtain ⟨hused, hlive, -, -⟩ := Workspace.Run.accounted (hw.trans hfinish) dev hdev
    rw [Workspace.buffers, hnone] at hused hlive
    exact ⟨hused, hlive⟩

def smallHost : Settings :=
  ⟨{ HostSettings.standard with memoryLimit := some 4096 }, .standard 1⟩

def pageOrder : Order :=
  ⟨.u64, .word, [256], 1⟩

def pageBuffer : Buffer :=
  ⟨⟨.host, 0⟩, .word, [256], ⟨.u64, ⟨[256], [8]⟩⟩, 2048, .zeros⟩

theorem allocate_page :
    (Buffer.allocateAligned (Device.host smallHost.host 0) .u64 .word [256] 1).result =
      .ok (pageBuffer,
        { Device.host smallHost.host 0 with ledger := ⟨"cpu0", 4096, 2048, 1⟩ }) := by
  have hsizes : Buffer.sizes .word [256] 0 [256] = .ok [256] := rfl
  have hlayout : Layout.pitched [256] ElementKind.u64.size 1 = .ok ⟨[256], [8]⟩ := rfl
  have hbytes : Layout.sizeBytes ⟨[256], [8]⟩ = .ok 2048 := rfl
  have hacquire : Buffer.acquire (Device.host smallHost.host 0) 2048 =
      .ok { Device.host smallHost.host 0 with ledger := ⟨"cpu0", 4096, 2048, 1⟩ } := by
    decide +kernel
  simp only [Buffer.allocateAligned, hsizes, hlayout, ok_bind, Buffer.ofLayout]
  rw [hbytes, lift_ok, ok_bind, hacquire]
  rfl

/-- Half of a small host's memory is owned, and a workspace gives back what it has taken. -/
theorem accounts_of_page :
    ∃ d : Depot DeviceId, Depot.Run (Workspace.startDepot smallHost) d ∧
      (d.ledger ⟨.host, 0⟩).used = 2048 ∧ (d.ledger ⟨.host, 0⟩).live = 1 ∧
      ∀ dev ∈ (((Workspace.start smallHost).allocate "page" .host 0 .u64 .word [256] false).2
        ).finish.devices, dev.ledger.used = 0 ∧ dev.ledger.live = 0 := by
  have hrun := (Workspace.startDepot smallHost).run_allocate ⟨.host, 0⟩ (o := pageOrder)
    allocate_page
  obtain ⟨haccounts, -, -, -, hfinish⟩ := accounts_follow_owners
    (Workspace.fresh_startDepot smallHost) hrun
    (.single (.allocate "page" .host 0 .u64 .word [256] false))
  obtain ⟨-, -, -, -, hquiet, -⟩ := haccounts ⟨.host, 0⟩
  obtain ⟨hused, hlive⟩ := hquiet fun e he => absurd he List.not_mem_nil
  exact ⟨_, hrun, hused, hlive, hfinish⟩

end LaneGrid
