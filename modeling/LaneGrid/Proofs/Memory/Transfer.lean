import LaneGrid.Proofs.Memory.Holdings

namespace LaneGrid

namespace Layout

variable {extent : List Nat} {size : Nat} {l : Layout}

theorem extent_of_withRowPitch {rowPitch : Nat} (hsize : size ≠ 0)
    (h : withRowPitch extent size rowPitch = .ok l) : l.extent = extent := by
  rcases List.eq_nil_or_concat extent with rfl | ⟨axes, length, rfl⟩
  · cases h
  · rw [List.concat_eq_append] at *
    obtain ⟨-, pitch, -, rfl⟩ := withRowPitch_append hsize h
    rfl

theorem exists_rows_of_layout {s : ViewShape} {k : ElementKind} (h : s.layout k = .ok l)
    (hne : ∀ e ∈ l.extent, e ≠ 0) : ∃ g : Rows, g.layout = l ∧ g.size = k.size := by
  obtain ⟨sizes, -, h⟩ := bind_eq_ok.mp h
  split at h
  · rw [extent_of_withRowPitch (Nat.ne_of_gt k.size_pos) h] at hne
    obtain ⟨g, hl, -, hsize, -⟩ :=
      exists_rows_of_withRowPitch (fun e he => Nat.pos_of_ne_zero (hne e he)) k.size_pos h
    exact ⟨g, hl, hsize⟩
  · obtain ⟨-, rowPitch, -, -, hrows⟩ := pitched_eq_ok h
    rw [extent_of_withRowPitch (Nat.ne_of_gt k.size_pos) hrows] at hne
    obtain ⟨g, hl, -, hsize⟩ :=
      exists_rows_of_pitched (fun e he => Nat.pos_of_ne_zero (hne e he)) k.size_pos h
    exact ⟨g, hl, hsize⟩

end Layout

namespace Workspace

/-- A name, and how the memory behind it is reached. -/
abbrev Site :=
  String × Borrow

def viewAt (w : Workspace) (m : Site) : Outcome (View × Bytes) :=
  w.view m.1 m.2

/-- Copies between the memories behind two names. -/
def copyTo (w : Workspace) (target source : Site) : Outcome Unit × Workspace :=
  match w.viewAt target, w.viewAt source with
  | .ok (v, b), .ok (u, c) => w.copy target.1 v b u c
  | .error e, _ => (.error e, w)
  | _, .error e => (.error e, w)

/-- Copies from memory to memory along a chain, until one copy fails. -/
def relay (w : Workspace) (source : Site) : List Site → Outcome Unit × Workspace
  | [] => (.ok (), w)
  | target :: rest =>
    match w.copyTo target source with
    | (.ok (), w) => w.relay target rest
    | (.error e, w) => (.error e, w)

/-- A name shows memory of one kind and extent, with any pitch and on any device. -/
def Spans (w : Workspace) (m : Site) (k : ElementKind) (extent : List Nat) : Prop :=
  ∃ v b l, w.viewAt m = .ok (v, b) ∧ v.region = ⟨k, l⟩ ∧ l.extent = extent

/-- The elements that are read through a name. -/
def Reads (w : Workspace) (m : Site) (k : ElementKind) (xs : List (Element k)) : Prop :=
  ∃ v b l, w.viewAt m = .ok (v, b) ∧ v.region = ⟨k, l⟩ ∧ Region.toList ⟨k, l⟩ b = .ok xs

variable {settings : Settings} {w : Workspace} {m : Site} {v : View} {b : Bytes}

theorem layout_of_view (h : w.viewAt m = .ok (v, b)) :
    (∃ c, w.holding? m.1 = some (.buffer c) ∧ v.region = c.region) ∨
      m.2.shape.layout v.region.kind = .ok v.region.layout := by
  rw [viewAt, view] at h
  rcases hold : w.holding? m.1 with _ | buffer | slice
  · rw [hold] at h
    cases h
  · rw [hold] at h
    cases h
    exact .inl ⟨buffer, rfl, rfl⟩
  · rw [hold] at h
    right
    dsimp only at h
    split at h
    · obtain ⟨u, hu, h⟩ := bind_eq_ok.mp h
      cases h
      obtain ⟨l, hl, hu⟩ := bind_eq_ok.mp hu
      obtain ⟨-, -, hu⟩ := bind_eq_ok.mp hu
      cases hu
      exact hl
    · obtain ⟨u, hu, h⟩ := bind_eq_ok.mp h
      cases h
      obtain ⟨l, hl, hu⟩ := bind_eq_ok.mp hu
      cases hu
      exact hl

theorem Stocked.exists_rows (hw : w.Stocked settings) (h : w.viewAt m = .ok (v, b))
    (hne : ∀ e ∈ v.region.layout.extent, e ≠ 0) :
    ∃ g : Rows, g.layout = v.region.layout ∧ g.size = v.region.kind.size := by
  rcases layout_of_view h with ⟨c, hold, hregion⟩ | hl
  · obtain ⟨g, hg, hsize⟩ := (hw.drawn _ (mem_of_holding? hold) c rfl).exists_rows
    rw [hregion]
    exact ⟨g, (congrArg Region.layout hg).symm, hsize⟩
  · exact Layout.exists_rows_of_layout hl hne

theorem viewAt_of_copied {w' : Workspace} {name : String} {bytes : Bytes}
    (h : w'.holdings = (w.setBytes name bytes).holdings) :
    (m.1 = name → w.viewAt m = .ok (v, b) → w'.viewAt m = .ok (v, bytes)) ∧
      (m.1 ≠ name → w'.viewAt m = w.viewAt m) := by
  have hsame : w'.viewAt m = (w.setBytes name bytes).viewAt m :=
    view_congr (by rw [holding?, holding?, h])
  rw [hsame]
  constructor
  · rintro rfl hv
    exact view_setBytes_self hv bytes
  · intro hne
    exact view_setBytes_of_ne hne bytes

theorem copyTo_eq {target source : Site} {v u : View} {b c : Bytes}
    (hv : w.viewAt target = .ok (v, b)) (hu : w.viewAt source = .ok (u, c)) :
    w.copyTo target source = w.copy target.1 v b u c := by
  rw [copyTo, hv, hu]

section Copy

variable {target source : Site} {v u : View} {b c : Bytes} {k : ElementKind} {l l' : Layout}

theorem Stocked.copy_delivers (hw : w.Stocked settings)
    (hv : w.viewAt target = .ok (v, b)) (hu : w.viewAt source = .ok (u, c))
    (hl : v.region = ⟨k, l⟩) (hl' : u.region = ⟨k, l'⟩) (hne : ∀ e ∈ l.extent, e ≠ 0)
    (hextent : l.extent = l'.extent) :
    ∃ xs bytes, (w.copyTo target source).1 = .ok () ∧
      (w.copyTo target source).2.holdings = (w.setBytes target.1 bytes).holdings ∧
      Region.toList ⟨k, l'⟩ c = .ok xs ∧ Region.toList ⟨k, l⟩ bytes = .ok xs ∧
      ∀ i, ¬ Region.Holds ⟨k, l⟩ i → bytes.get i = b.get i := by
  obtain ⟨g, hg, hsize⟩ := hw.exists_rows hv (by rwa [hl])
  obtain ⟨s, hs, hsize'⟩ := hw.exists_rows hu (by rwa [hl', ← hextent])
  rw [hl] at hg hsize
  rw [hl'] at hs hsize'
  dsimp only at hg hsize hs hsize'
  subst hg hs
  have hsame : g.extent = s.extent := hextent
  have hcopy : v.region.copy u.region b c = .ok (g.copied s b c) := by
    rw [hl, hl']
    exact Rows.copy_region hsame k b c
  refine ⟨s.contents k c, g.copied s b c, ?_, ?_, Rows.toList_region hsize' c, ?_, ?_⟩
  · rw [copyTo_eq hv hu, copy, hcopy]
  · rw [copyTo_eq hv hu, copy, hcopy]
    rfl
  · rw [Rows.toList_region hsize, Rows.contents_copied hsize hsize' hsame]
  · intro i hi
    exact Rows.get_copied_of_not_holds hsize hi b c

theorem copyTo_mismatch (hv : w.viewAt target = .ok (v, b)) (hu : w.viewAt source = .ok (u, c))
    (hne : v.region.layout.extent ≠ u.region.layout.extent) :
    w.copyTo target source =
      (.error (.error (.extentMismatch (.extent v.region.layout.extent)
        (.extent u.region.layout.extent))), w) := by
  rw [copyTo_eq hv hu, copy, Region.copy_of_extent_ne hne]

end Copy

section Relay

variable {k : ElementKind} {extent : List Nat}

theorem Spans.of_copied {w' : Workspace} {name : String} {bytes : Bytes}
    (h : w.Spans m k extent) (hcopied : w'.holdings = (w.setBytes name bytes).holdings) :
    w'.Spans m k extent := by
  obtain ⟨v, b, l, hv, hl, hextent⟩ := h
  by_cases hm : m.1 = name
  · exact ⟨v, bytes, l, (viewAt_of_copied hcopied).1 hm hv, hl, hextent⟩
  · exact ⟨v, b, l, ((viewAt_of_copied (v := v) (b := b) hcopied).2 hm).trans hv, hl, hextent⟩

theorem Stocked.ofHoldings_setBytes {w' : Workspace} {name : String} {bytes : Bytes}
    (hw : w.Stocked settings) (hdevices : w'.devices = w.devices)
    (hholdings : w'.holdings = (w.setBytes name bytes).holdings) : w'.Stocked settings where
  aligned := by
    rw [hdevices]
    exact hw.aligned
  drawn := by
    rw [hholdings]
    exact (hw.setBytes name bytes).drawn

theorem Stocked.relay_preserves (hw : w.Stocked settings) {source : Site} {chain : List Site}
    {xs : List (Element k)} (hne : ∀ e ∈ extent, e ≠ 0)
    (hspans : ∀ m ∈ source :: chain, w.Spans m k extent)
    (hapart : (source :: chain).IsChain fun m n => n.1 ≠ m.1) (hreads : w.Reads source k xs) :
    (w.relay source chain).1 = .ok () ∧
      (w.relay source chain).2.Reads ((source :: chain).getLast (List.cons_ne_nil _ _)) k xs := by
  induction chain generalizing w source with
  | nil => exact ⟨rfl, hreads⟩
  | cons target rest ih =>
      obtain ⟨v, b, l, hv, hl, hextent⟩ := hspans target (by simp)
      obtain ⟨u, c, l', hu, hl', hextent'⟩ := hspans source (by simp)
      obtain ⟨hfirst, hrest⟩ := List.isChain_cons_cons.mp hapart
      obtain ⟨ys, bytes, hok, hholdings, hys, hys', -⟩ :=
        hw.copy_delivers hv hu hl hl' (by rwa [hextent]) (hextent.trans hextent'.symm)
      obtain rfl : ys = xs := by
        obtain ⟨u', c', l'', hu', hl'', hxs⟩ := hreads
        cases hu.symm.trans hu'
        cases hl'.symm.trans hl''
        exact Except.ok.inj (hys.symm.trans hxs)
      have hstep : w.relay source (target :: rest) = (w.copyTo target source).2.relay target rest := by
        rw [relay]
        split
        · rename_i w' hcopy
          rw [hcopy]
        · rename_i e w' hcopy
          rw [hcopy] at hok
          cases hok
      rw [hstep]
      apply ih
      · refine hw.ofHoldings_setBytes ?_ hholdings
        rw [copyTo_eq hv hu, copy]
        split <;> rfl
      · intro m hm
        exact (hspans m (List.mem_cons_of_mem _ hm)).of_copied hholdings
      · exact hrest
      · exact ⟨v, bytes, l, (viewAt_of_copied hholdings).1 rfl hv, hl, hys'⟩

end Relay

section Clone

variable {name target : String} {b : Buffer}

theorem find?_device_of_holding (hw : Run (start settings) w)
    (hb : w.holding? name = some (.buffer b)) :
    ∃ d ∈ w.devices, w.devices.find? (·.id = b.device) = some d ∧ d.id = b.device := by
  obtain ⟨depot, -, hshows⟩ := hw.shown
  have howned : (b.device, b) ∈ depot.owned := by
    rw [hshows.owned_eq, List.nil_append]
    exact List.mem_flatMap.mpr ⟨_, mem_of_holding? hb, List.mem_singleton_self _⟩
  obtain ⟨hfind, hid⟩ := hshows.find?_device howned
  exact ⟨_, List.mem_of_find?_eq_some hfind, hfind, hid⟩

theorem clone_keeps (hw : Run (start settings) w) (hb : w.holding? name = some (.buffer b))
    (hne : name ≠ target) :
    ∃ d ∈ w.devices, d.id = b.device ∧
      (∀ e, Buffer.acquire d b.sizeBytes = .error e →
        (w.clone name target).1 = .error (.error e) ∧
          (w.clone name target).2.holdings = w.holdings) ∧
      ∀ d', Buffer.acquire d b.sizeBytes = .ok d' → ∃ bytes xs,
        (w.clone name target).1 = .ok () ∧
          (w.clone name target).2.holding? name = some (.buffer b) ∧
          (w.clone name target).2.holding? target = some (.buffer { b with bytes }) ∧
          b.region.toList b.bytes = .ok xs ∧ b.region.toList bytes = .ok xs := by
  obtain ⟨d, hd, hfind, hid⟩ := find?_device_of_holding hw hb
  have hdrawn := hw.stocked.drawn _ (mem_of_holding? hb) b rfl
  obtain ⟨g, hg, hsize⟩ := hdrawn.exists_rows
  rw [← hid, ← hw.stocked.aligned d hd] at hdrawn
  obtain ⟨bytes, hbytes, hclone⟩ := hdrawn.clone_eq hid.symm
  have hkeep : w.clone name target = w.keep target (b.clone d) := by
    rw [Workspace.clone, hb]
    dsimp only
    rw [hfind]
  refine ⟨d, hd, hid, ?_, ?_⟩
  · intro e hacquire
    rw [hacquire] at hclone
    rw [hkeep, keep, hclone]
    exact ⟨rfl, rfl⟩
  · intro d' hacquire
    rw [hacquire] at hclone
    obtain ⟨xs, hxs⟩ : ∃ xs, b.region.toList b.bytes = .ok xs := by
      rw [hg]
      exact ⟨_, Rows.toList_region hsize b.bytes⟩
    refine ⟨bytes, xs, ?_, ?_, ?_, hxs, hbytes.trans hxs⟩
    · rw [hkeep, keep, hclone]
      rfl
    · rw [hkeep, keep, hclone]
      exact (holding?_put _ _).trans ((if_neg hne).trans hb)
    · rw [hkeep, keep, hclone]
      exact (holding?_put _ _).trans (if_pos rfl)

end Clone

/-- Whatever was done with the memories of a workspace: a copy between any two of them succeeds
if their extents are equal, and then the target has the source's elements while padding, the
source and all other memories keep every byte; if the extents differ it is refused and nothing
changes. So elements pass unchanged along any chain of memories of one extent. A clone is
refused only for want of memory, has the shape, the pitch and the elements of the original, and
does not see later changes to the original, nor the original those to the clone. -/
theorem copies_preserve_elements (hw : Run (start settings) w) :
    (∀ (target source : Site) v u b c k l l', target.1 ≠ source.1 →
      w.viewAt target = .ok (v, b) → w.viewAt source = .ok (u, c) →
      v.region = ⟨k, l⟩ → u.region = ⟨k, l'⟩ → (∀ e ∈ l.extent, e ≠ 0) →
        (l.extent = l'.extent → ∃ bytes xs,
          (w.copyTo target source).1 = .ok () ∧
            (w.copyTo target source).2.viewAt target = .ok (v, bytes) ∧
            (w.copyTo target source).2.viewAt source = .ok (u, c) ∧
            Region.toList ⟨k, l'⟩ c = .ok xs ∧ Region.toList ⟨k, l⟩ bytes = .ok xs ∧
            (∀ i, ¬ Region.Holds ⟨k, l⟩ i → bytes.get i = b.get i) ∧
            ∀ other ≠ target.1,
              (w.copyTo target source).2.holding? other = w.holding? other) ∧
        (l.extent ≠ l'.extent → w.copyTo target source =
          (.error (.error (.extentMismatch (.extent l.extent) (.extent l'.extent))), w))) ∧
    (∀ k extent (source : Site) (chain : List Site) (xs : List (Element k)),
      (∀ e ∈ extent, e ≠ 0) → (∀ m ∈ source :: chain, w.Spans m k extent) →
      ((source :: chain).IsChain fun m n => n.1 ≠ m.1) → w.Reads source k xs →
        (w.relay source chain).1 = .ok () ∧
          (w.relay source chain).2.Reads
            ((source :: chain).getLast (List.cons_ne_nil _ _)) k xs) ∧
    ∀ name target b, w.holding? name = some (.buffer b) → name ≠ target →
      ∃ d ∈ w.devices, d.id = b.device ∧
        (∀ e, Buffer.acquire d b.sizeBytes = .error e →
          (w.clone name target).1 = .error (.error e) ∧
            (w.clone name target).2.holdings = w.holdings) ∧
        ∀ d', Buffer.acquire d b.sizeBytes = .ok d' → ∃ bytes xs,
          (w.clone name target).1 = .ok () ∧
            b.region.toList b.bytes = .ok xs ∧ b.region.toList bytes = .ok xs ∧
            (∀ w', Relation.ReflTransGen (Change target) (w.clone name target).2 w' →
              w'.holding? name = some (.buffer b)) ∧
            ∀ w', Relation.ReflTransGen (Change name) (w.clone name target).2 w' →
              w'.holding? target = some (.buffer { b with bytes }) := by
  refine ⟨?_, ?_, ?_⟩
  · intro target source v u b c k l l' hapart hv hu hl hl' hne
    constructor
    · intro hextent
      obtain ⟨xs, bytes, hok, hholdings, hxs, hxs', hframe⟩ :=
        hw.stocked.copy_delivers hv hu hl hl' hne hextent
      refine ⟨bytes, xs, hok, (viewAt_of_copied hholdings).1 rfl hv, ?_, hxs, hxs', hframe, ?_⟩
      · exact ((viewAt_of_copied (v := u) (b := c) hholdings).2 hapart.symm).trans hu
      · intro other hother
        rw [holding?, hholdings]
        exact (holding?_setBytes w target.1 other bytes).trans (if_neg hother)
    · intro hextent
      have hmismatch := copyTo_mismatch hv hu (by rwa [hl, hl'])
      rwa [hl, hl'] at hmismatch
  · intro k extent source chain xs hne hspans hapart hreads
    exact hw.stocked.relay_preserves hne hspans hapart hreads
  · intro name target b hb hne
    obtain ⟨d, hd, hid, hrefused, hgranted⟩ := clone_keeps hw hb hne
    refine ⟨d, hd, hid, hrefused, ?_⟩
    intro d' hacquire
    obtain ⟨bytes, xs, hok, hname, htarget, hxs, hxs'⟩ := hgranted d' hacquire
    refine ⟨bytes, xs, hok, hxs, hxs', ?_, ?_⟩
    · intro w' hchanges
      rw [holding?_of_changes hchanges hne, hname]
    · intro w' hchanges
      rw [holding?_of_changes hchanges hne.symm, htarget]

/-- Two lists of host elements, one of them long enough for rows with padding. -/
def twoSlices : Workspace :=
  ((start smallHost).put "dense" (.slice (HostSlice.ofList (k := .u16) [1, 2, 3, 4, 5, 6]))).put
    "padded" (.slice ⟨.u16, 9, .zeros⟩)

def paddedSite : Site :=
  ("padded", ⟨.view, ⟨.word, [2, 3], some 8⟩, true⟩)

def denseSite : Site :=
  ("dense", ⟨.constView, ⟨.word, [2, 3], none⟩, true⟩)

/-- Dense rows are copied into padded ones and back. -/
theorem relay_twoSlices :
    twoSlices.Reads denseSite .u16 [1, 2, 3, 4, 5, 6] ∧
      (twoSlices.relay denseSite [paddedSite, denseSite]).1 = .ok () ∧
      (twoSlices.relay denseSite [paddedSite, denseSite]).2.Reads denseSite .u16
        [1, 2, 3, 4, 5, 6] := by
  have hrun : Run (start smallHost) twoSlices :=
    .tail (.single (.hold "dense" _)) (.hold "padded" _)
  have hdense : twoSlices.viewAt denseSite =
      .ok (⟨.constView, ⟨.host, 0⟩, .word, [2, 3], ⟨.u16, ⟨[2, 3], [6, 2]⟩⟩⟩,
        (HostSlice.ofList (k := .u16) [1, 2, 3, 4, 5, 6]).bytes) := rfl
  have hpadded : twoSlices.viewAt paddedSite =
      .ok (⟨.view, ⟨.host, 0⟩, .word, [2, 3], ⟨.u16, ⟨[2, 3], [8, 2]⟩⟩⟩, .zeros) := rfl
  have hreads : twoSlices.Reads denseSite .u16 [1, 2, 3, 4, 5, 6] :=
    ⟨_, _, _, hdense, rfl, by decide +kernel⟩
  refine ⟨hreads, (copies_preserve_elements hrun).2.1 .u16 [2, 3] denseSite
    [paddedSite, denseSite] [1, 2, 3, 4, 5, 6] (by decide) ?_ (by decide) hreads⟩
  intro m hm
  simp only [List.mem_cons, List.not_mem_nil, or_false] at hm
  rcases hm with rfl | rfl | rfl
  · exact ⟨_, _, _, hdense, rfl, rfl⟩
  · exact ⟨_, _, _, hpadded, rfl, rfl⟩
  · exact ⟨_, _, _, hdense, rfl, rfl⟩

end Workspace

end LaneGrid
