import LaneGrid.Memory.Buffer
import LaneGrid.Proofs.Memory.Copy
import LaneGrid.Proofs.Memory.Request

namespace LaneGrid

namespace View

/-- The memories that can be made: a new buffer, the copy of a buffer, or host elements that are
covered by a shape without empty axes. -/
inductive Built : View → Prop where
  | allocated {d d' : Device} {k : ElementKind} {indexKind : IndexKind} {extent : List Int}
      {alignment : Nat} {b : Buffer}
      (h : (Buffer.allocateAligned d k indexKind extent alignment).result = .ok (b, d'))
      (handle : Handle) : Built (b.view handle)
  | cloned {b c : Buffer} {d d' : Device} (h : (b.clone d).result = .ok (c, d'))
      (handle : Handle) : Built (c.view handle)
  | sliced {handle : Handle} {device : DeviceId} {k : ElementKind} {count : Nat} {s : ViewShape}
      {v : View} (h : ofSlice handle device k count s = .ok v)
      (hextent : ∀ e ∈ s.extent, e ≠ 0) : Built v

end View

namespace Buffer

theorem sizes_pos {k : IndexKind} {extent rest : List Int} {axis : Nat} {dims : List Nat}
    (h : sizes k extent axis rest = .ok dims) : ∀ e ∈ dims, 0 < e := by
  induction rest generalizing axis dims with
  | nil => cases h; simp
  | cons v rest ih =>
      simp only [sizes, bind_eq_ok] at h
      obtain ⟨n, -, h⟩ := h
      split at h
      · cases h
      · rename_i hn
        obtain ⟨dims, hdims, h⟩ := bind_eq_ok.mp h
        cases h
        intro e he
        rcases List.mem_cons.mp he with rfl | he
        · exact Nat.pos_of_ne_zero hn
        · exact ih hdims e he

theorem exists_rows_of_allocateAligned {d d' : Device} {k : ElementKind} {indexKind : IndexKind}
    {extent : List Int} {alignment : Nat} {b : Buffer}
    (h : (allocateAligned d k indexKind extent alignment).result = .ok (b, d')) :
    ∃ g : Rows, b.region = g.region k ∧ g.size = k.size := by
  rw [allocateAligned] at h
  split at h
  · cases h
  · rename_i dims hdims
    simp only [bind_eq_ok] at h
    obtain ⟨l, hl, h⟩ := h
    obtain ⟨g, rfl, -, hsize⟩ := Layout.exists_rows_of_pitched (sizes_pos hdims) k.size_pos hl
    simp only [ofLayout, bind_eq_ok] at h
    obtain ⟨bytes, -, d, -, h⟩ := h
    cases h
    exact ⟨g, rfl, hsize⟩

theorem exists_rows_of_clone {b c : Buffer} {d d' : Device}
    (h : (b.clone d).result = .ok (c, d')) :
    ∃ s : Rows, c.region = s.region b.region.kind ∧ s.size = b.region.kind.size ∧
      ∀ g : Rows, b.region = g.region b.region.kind → g.size = b.region.kind.size →
        s.contents b.region.kind c.bytes = g.contents b.region.kind b.bytes := by
  rw [clone] at h
  simp only [bind_eq_ok] at h
  obtain ⟨⟨fresh, d⟩, hfresh, bytes, hcopy, h⟩ := h
  cases h
  obtain ⟨s, hs, hsize⟩ := exists_rows_of_allocateAligned hfresh
  refine ⟨s, hs, hsize, fun g hregion hg => ?_⟩
  rw [hs, hregion] at hcopy
  have hextent := Rows.extent_eq_of_copy hcopy
  rw [Rows.copy_region hextent] at hcopy
  rw [← Except.ok.inj hcopy]
  exact Rows.contents_copied hsize hg hextent fresh.bytes b.bytes

end Buffer

namespace View

theorem toSizes_pos {k : IndexKind} {extent : List Int} {sizes : List Nat}
    (h : k.toSizes extent = .ok sizes) (hextent : ∀ e ∈ extent, e ≠ 0) : ∀ e ∈ sizes, 0 < e := by
  induction extent generalizing sizes with
  | nil => cases h; simp
  | cons v extent ih =>
      rw [IndexKind.toSizes, List.mapM_cons, bind_eq_ok] at h
      obtain ⟨n, hn, h⟩ := h
      obtain ⟨rest, hrest, h⟩ := bind_eq_ok.mp h
      cases h
      have hpos : 0 < n := by
        rw [IndexKind.toSize] at hn
        split at hn
        · rename_i hholds
          cases hn
          have hv := hextent v (by simp)
          have hleast : (0 : Int) ≤ v := hholds.1
          omega
        · cases hn
      intro e he
      rcases List.mem_cons.mp he with rfl | he
      · exact hpos
      · exact ih hrest (fun x hx => hextent x (by simp [hx])) e he

theorem Built.exists_rows {v : View} (h : v.Built) :
    ∃ g : Rows, v.region = g.region v.region.kind ∧ g.size = v.region.kind.size := by
  rcases h with ⟨h, handle⟩ | ⟨h, handle⟩ | ⟨h, hextent⟩
  · obtain ⟨g, hregion, hsize⟩ := Buffer.exists_rows_of_allocateAligned h
    refine ⟨g, ?_, ?_⟩
    · rw [Buffer.view, hregion]
    · rw [Buffer.view, hregion]
      exact hsize
  · obtain ⟨g, hregion, hsize, -⟩ := Buffer.exists_rows_of_clone h
    refine ⟨g, ?_, ?_⟩
    · rw [Buffer.view, hregion]
    · rw [Buffer.view, hregion]
      exact hsize
  · simp only [ofSlice, bind_eq_ok] at h
    obtain ⟨l, hl, -, -, h⟩ := h
    cases h
    simp only [ViewShape.layout, bind_eq_ok] at hl
    obtain ⟨sizes, hsizes, hl⟩ := hl
    have hpos := toSizes_pos (liftError_eq_ok.mp hsizes) hextent
    split at hl
    · obtain ⟨g, rfl, -, hsize, -⟩ :=
        Layout.exists_rows_of_withRowPitch hpos (ElementKind.size_pos _) hl
      exact ⟨g, rfl, hsize⟩
    · obtain ⟨g, rfl, -, hsize⟩ :=
        Layout.exists_rows_of_pitched hpos (ElementKind.size_pos _) hl
      exact ⟨g, rfl, hsize⟩

/-- Any memory, holding any bytes, is one dense array in row-major order. Every sequence of
requests gets the answers that a list of the elements would give, and leaves the elements that
the list would have; bytes that belong to no element keep what they held. A request that fails
changes nothing, and a copy made at any moment has the elements of that moment. -/
theorem serves_dense_array {v : View} (hv : v.Built) (b : Bytes) (requests : List v.Query) :
    ∃ xs, v.region.toList b = .ok xs ∧ xs.length = v.region.layout.extent.prod ∧
      (serveAll v.serve b requests).1 = (serveAll v.serveDense xs requests).1 ∧
      v.region.toList (serveAll v.serve b requests).2 =
        .ok (serveAll v.serveDense xs requests).2 ∧
      (∀ i, ¬ v.region.Holds i → (serveAll v.serve b requests).2.get i = b.get i) ∧
      (∀ q e, (v.serve (serveAll v.serve b requests).2 q).1 = .error e →
        (v.serve (serveAll v.serve b requests).2 q).2 = (serveAll v.serve b requests).2) ∧
      ∀ (original copy : Buffer) (d d' : Device), original.region = v.region →
        original.bytes = (serveAll v.serve b requests).2 →
        (original.clone d).result = .ok (copy, d') →
        ∃ l, copy.region = ⟨v.region.kind, l⟩ ∧
          Region.toList ⟨v.region.kind, l⟩ copy.bytes =
            .ok (serveAll v.serveDense xs requests).2 := by
  obtain ⟨g, hregion, hk⟩ := hv.exists_rows
  obtain ⟨handle, device, indexKind, extent, ⟨k, l⟩⟩ := v
  obtain rfl : l = g.layout := congrArg Region.layout hregion
  have hstart : (ofRows handle device indexKind extent g k).Stores b b (g.contents k b) :=
    ⟨Rows.toList_region hk b, fun _ _ => rfl⟩
  obtain ⟨hanswers, hlist, hframe⟩ :=
    -- Before each request the list is what the bytes hold, wherever they have padding.
    serveAll_agrees (fun c xs q hstores => by
      obtain ⟨hlist, hframe⟩ := hstores
      obtain rfl := Except.ok.inj ((Rows.toList_region hk c).symm.trans hlist)
      exact agrees_of_rows hk hframe q) requests hstart
  refine ⟨g.contents k b, Rows.toList_region hk b, ?_, hanswers, hlist, hframe, ?_, ?_⟩
  · rw [Rows.length_contents, ← g.prod_extent]
    rfl
  · exact fun q e herror => settle_error herror
  · intro original copy d d' horiginal hbytes hclone
    obtain ⟨s, hcopy, hs, hcontents⟩ := Buffer.exists_rows_of_clone hclone
    rw [horiginal] at hcopy hs hcontents
    refine ⟨s.layout, hcopy, ?_⟩
    rw [Rows.toList_region hs, hcontents g rfl hk, hbytes, ← hlist, Rows.toList_region hk]

/-- Two rows of three elements of four bytes, with four bytes of padding after each row. -/
def twoRows : View :=
  ⟨.view, ⟨.host, 0⟩, .word, [2, 3], ⟨.u32, ⟨[2, 3], [16, 4]⟩⟩⟩

theorem built_twoRows : twoRows.Built := by
  have hslice : ofSlice .view ⟨.host, 0⟩ .u32 7 ⟨.word, [2, 3], some 16⟩ = .ok twoRows := by rfl
  exact .sliced hslice (by decide)

/-- An element is written through one handle, added to and swapped through others, and read in its
row; an index outside is refused, as is the slice of all elements because of the padding. -/
def twoRowsRequests : List twoRows.Query :=
  [(.view, .access [1, 2] rfl (.store 7) true), (.buffer, .access [1, 2] rfl (.update .add 5) false),
    (.view, .access [1, 2] rfl (.swapIf 12 9) false),
    (.buffer, .access [0, 1] rfl (.update .decrement 3) false),
    (.view, .access [2, 0] rfl (.store 1) false), (.constView, .read), (.buffer, .slice)]

theorem serves_twoRows :
    twoRows.Built ∧
      (serveAll twoRows.serve .zeros twoRowsRequests).1 =
        [.ok [0], .ok [7], .ok [12], .ok [0],
          .error (.error (twoRows.region.layout.boundsError [2, 0])), .ok [0, 3, 0, 0, 0, 9],
          .error (.error (.unsupported "as_slice on a pitched buffer"))] := by
  refine ⟨built_twoRows, ?_⟩
  obtain ⟨xs, hlist, -, hanswers, -⟩ := serves_dense_array built_twoRows .zeros twoRowsRequests
  have hzeros : twoRows.region.toList .zeros = .ok [0, 0, 0, 0, 0, 0] := by rfl
  obtain rfl := Except.ok.inj (hzeros.symm.trans hlist)
  rw [hanswers]
  rfl

end View

end LaneGrid
