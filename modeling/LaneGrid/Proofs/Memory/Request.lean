import LaneGrid.Memory.View
import LaneGrid.Proofs.Memory.Numbers
import LaneGrid.Proofs.Memory.RegionRows
import LaneGrid.Script.Kernel

/-!
Requests to memory, served once from bytes, through the addresses of a layout, and once from a
list, through row-major numbers. Step by step the two servers agree.
-/

namespace LaneGrid

/-- What a client asks of the elements behind a view with `rank` axes. -/
inductive Request (k : ElementKind) (rank : Nat) where
  | fill (x : Element k)
  | write (xs : List (Element k))
  | read
  /-- An access to one element, which faults or is refused outside the extent. -/
  | access (index : List Nat) (axes : index.length = rank) (a : Access k) (faulting : Bool)
  | slice
  /-- A write through the dense slice. -/
  | setSlice (i : Nat) (x : Element k)

/-- The answer of a step, and the state that it leaves: the old one if the step fails. -/
def settle {σ α : Type} (s : σ) : Outcome (α × σ) → Outcome α × σ
  | .ok (a, t) => (.ok a, t)
  | .error e => (.error e, s)

/-- Serves requests one after the other. -/
def serveAll {σ ρ α : Type} (serve : σ → ρ → α × σ) : σ → List ρ → List α × σ
  | s, [] => ([], s)
  | s, q :: rest => ((serve s q).1 :: (serveAll serve (serve s q).2 rest).1,
      (serveAll serve (serve s q).2 rest).2)

namespace View

/-- A request and the handle it goes through. -/
abbrev Query (v : View) : Type :=
  Handle × Request v.region.kind v.region.layout.rank

def serve (v : View) (b : Bytes) (q : v.Query) : Outcome (List (Element v.region.kind)) × Bytes :=
  settle b <|
    match q.2 with
    | .fill x => do return ([], ← v.region.fill x b)
    | .write xs => do return ([], ← v.region.copyIn xs b)
    | .read => do return (← v.region.toList b, b)
    | .access index _ a faulting => do
      let (old, b) ← Script.asFault faulting (v.region.access index a b)
      return ([old], b)
    | .slice => do
      let some xs ← v.region.dense b
        | throw (.error ({ v with handle := q.1 }.paddedError "as_slice"))
      return (xs, b)
    | .setSlice i x => do
      let some b ← v.region.setDense i x b
        | throw (.error ({ v with handle := q.1 }.paddedError "as_mut_slice"))
      return ([], b)

/-- Serves a request from a list of all elements in row-major order. -/
def serveDense (v : View) (xs : List (Element v.region.kind)) (q : v.Query) :
    Outcome (List (Element v.region.kind)) × List (Element v.region.kind) :=
  settle xs <|
    match q.2 with
    | .fill x => .ok ([], xs.map fun _ => x)
    | .write ys =>
      if ys.length = xs.length then .ok ([], ys)
      else .error (.error (.extentMismatch (.elements xs.length) (.elements ys.length)))
    | .read => .ok (xs, xs)
    | .access index _ a faulting => Script.asFault faulting do
      if Axes.isWithin index v.region.layout.extent then
        let n ← Axes.linearize wordArithmetic index v.region.layout.extent
        let some old := xs[n]? | throw (.fault (.outOfBounds xs.length n))
        return ([old], xs.set n (← a.entry old))
      else throw (.error (v.region.layout.boundsError index))
    | .slice => do
      if ← v.region.layout.isContiguous then return (xs, xs)
      else throw (.error ({ v with handle := q.1 }.paddedError "as_slice"))
    | .setSlice i x => do
      if ← v.region.layout.isContiguous then
        if i < xs.length then return ([], xs.set i x)
        else throw (.fault (.outOfBounds xs.length i))
      else throw (.error ({ v with handle := q.1 }.paddedError "as_mut_slice"))

end View

theorem settle_error {σ α : Type} {s : σ} {r : Outcome (α × σ)} {e : Failure}
    (h : (settle s r).1 = .error e) : (settle s r).2 = s := by
  rcases r with f | ⟨a, t⟩
  · rfl
  · cases h

/-- Two servers that agree at every step, and keep their states related, agree on every sequence
of requests. -/
theorem serveAll_agrees {σ τ ρ α : Type} {f : σ → ρ → α × σ} {g : τ → ρ → α × τ}
    {R : σ → τ → Prop}
    (hstep : ∀ s t q, R s t → (f s q).1 = (g t q).1 ∧ R (f s q).2 (g t q).2)
    (requests : List ρ) {s : σ} {t : τ} (h : R s t) :
    (serveAll f s requests).1 = (serveAll g t requests).1 ∧
      R (serveAll f s requests).2 (serveAll g t requests).2 := by
  induction requests generalizing s t with
  | nil => exact ⟨rfl, h⟩
  | cons q rest ih =>
      obtain ⟨hanswer, hnext⟩ := hstep s t q h
      obtain ⟨hanswers, hfinal⟩ := ih hnext
      refine ⟨?_, hfinal⟩
      rw [serveAll, serveAll, hanswer, hanswers]

namespace Bytes

variable {k : ElementKind}

theorem access_error {b : Bytes} {offset : Nat} {a : Access k} {f : Fault}
    (h : a.result (b.load k offset) = .error f) : b.access offset a = .error f := by
  cases a with
  | load => cases h
  | store value => cases h
  | update op operand => simp only [access, h]; rfl
  | swapIf current new => cases h

/-- An access that succeeds answers what it found. Storing what is there already changes
nothing, so a plain read counts as storing the element again. -/
theorem access_ok {b : Bytes} {offset : Nat} {a : Access k} {new : Element k}
    (h : a.result (b.load k offset) = .ok new) :
    b.access offset a = .ok (b.load k offset, b.store offset new) ∨
      b.access offset a = .ok (b.load k offset, b) ∧ new = b.load k offset := by
  cases a with
  | load => exact Or.inr ⟨rfl, (Except.ok.inj h).symm⟩
  | store value => exact Or.inl (by simp only [access, h]; rfl)
  | update op operand => exact Or.inl (by simp only [access, h]; rfl)
  | swapIf current value => exact Or.inl (by simp only [access, h]; rfl)

end Bytes

namespace Rows

variable {g : Rows} {k : ElementKind}

theorem set_contents {n : Nat} (hn : n < g.elements) (b : Bytes) :
    (g.contents k b).set n (b.load k (g.place n)) = g.contents k b := by
  have hlength : n < (g.contents k b).length := by rwa [length_contents]
  have hload := getElem?_contents hn b (k := k)
  rw [List.getElem?_eq_getElem hlength, Option.some_inj] at hload
  rw [← hload, List.set_getElem_self]

theorem access_contents (hk : g.size = k.size) {n : Nat} (hn : n < g.elements) {a : Access k}
    {b : Bytes} {new : Element k} (h : a.result (b.load k (g.place n)) = .ok new) :
    ∃ c, b.access (g.place n) a = .ok (b.load k (g.place n), c) ∧
      g.contents k c = (g.contents k b).set n new ∧
      ∀ i, ¬ (g.region k).Holds i → c.get i = b.get i := by
  rcases Bytes.access_ok h with haccess | ⟨haccess, rfl⟩
  · refine ⟨_, haccess, contents_store hk b n new, fun i hi => ?_⟩
    exact Bytes.get_store_of_outside b new (outside_of_not_holds hi hn)
  · exact ⟨b, haccess, (set_contents hn b).symm, fun _ _ => rfl⟩

end Rows

namespace View

/-- Memory holds the listed elements, and every byte outside all elements is as it was in
`start`. -/
def Stores (v : View) (start b : Bytes) (xs : List (Element v.region.kind)) : Prop :=
  v.region.toList b = .ok xs ∧ ∀ i, ¬ v.region.Holds i → b.get i = start.get i

abbrev ofRows (handle : Handle) (device : DeviceId) (indexKind : IndexKind) (extent : List Int)
    (g : Rows) (k : ElementKind) : View :=
  ⟨handle, device, indexKind, extent, g.region k⟩

end View

theorem asFault_ok {α : Type} (faulting : Bool) (a : α) :
    Script.asFault faulting (.ok a) = .ok a := rfl

theorem asFault_fault {α : Type} (faulting : Bool) (f : Fault) :
    Script.asFault faulting (.error (.fault f) : Outcome α) = .error (.fault f) := rfl

namespace View

/-- Both servers give one answer to a request, and leave the same elements. -/
def Agrees (v : View) (start b : Bytes) (xs : List (Element v.region.kind)) (q : v.Query) : Prop :=
  (v.serve b q).1 = (v.serveDense xs q).1 ∧
    v.Stores start (v.serve b q).2 (v.serveDense xs q).2

section

variable {handle through : Handle} {device : DeviceId} {indexKind : IndexKind}
  {extent : List Int} {g : Rows} {k : ElementKind} {start b : Bytes}

variable (hk : g.size = k.size)
  (hframe : ∀ i, ¬ (g.region k).Holds i → b.get i = start.get i)

include hk hframe

theorem stores_of_contents {c : Bytes} {xs : List (Element k)} (hc : g.contents k c = xs)
    (hkeep : ∀ i, ¬ (g.region k).Holds i → c.get i = b.get i) :
    (ofRows handle device indexKind extent g k).Stores start c xs := by
  refine ⟨?_, fun i hi => (hkeep i hi).trans (hframe i hi)⟩
  rw [← hc]
  exact Rows.toList_region hk c

theorem agrees_of_eq {q : (ofRows handle device indexKind extent g k).Query}
    {r : Outcome (List (Element k))} {c : Bytes} {xs : List (Element k)}
    (hserve : (ofRows handle device indexKind extent g k).serve b q = (r, c))
    (hdense : (ofRows handle device indexKind extent g k).serveDense (g.contents k b) q = (r, xs))
    (hc : g.contents k c = xs) (hkeep : ∀ i, ¬ (g.region k).Holds i → c.get i = b.get i) :
    (ofRows handle device indexKind extent g k).Agrees start b (g.contents k b) q := by
  rw [Agrees, hserve, hdense]
  exact ⟨rfl, stores_of_contents hk hframe hc hkeep⟩

theorem agrees_of_unchanged {q : (ofRows handle device indexKind extent g k).Query}
    {r : Outcome (List (Element k))}
    (hserve : (ofRows handle device indexKind extent g k).serve b q = (r, b))
    (hdense : (ofRows handle device indexKind extent g k).serveDense (g.contents k b) q =
      (r, g.contents k b)) :
    (ofRows handle device indexKind extent g k).Agrees start b (g.contents k b) q :=
  agrees_of_eq hk hframe hserve hdense rfl fun _ _ => rfl

theorem agrees_fill (x : Element k) :
    (ofRows handle device indexKind extent g k).Agrees start b (g.contents k b)
      (through, .fill x) := by
  have hserve : (ofRows handle device indexKind extent g k).serve b (through, .fill x) =
      (.ok [], b.scatter g.place 0 (List.replicate g.elements x)) := by
    simp only [serve, Rows.fill_region hk]
    rfl
  have hdense : (ofRows handle device indexKind extent g k).serveDense (g.contents k b)
      (through, .fill x) = (.ok [], List.replicate g.elements x) := by
    simp only [serveDense, List.map_const', Rows.length_contents]
    rfl
  refine agrees_of_eq hk hframe hserve hdense (Rows.contents_scatter hk (by simp) b) ?_
  exact fun i hi => Rows.get_scatter_of_not_holds hi (by simp) b

theorem agrees_write (xs : List (Element k)) :
    (ofRows handle device indexKind extent g k).Agrees start b (g.contents k b)
      (through, .write xs) := by
  by_cases hlength : xs.length = g.elements
  · have hserve : (ofRows handle device indexKind extent g k).serve b (through, .write xs) =
        (.ok [], b.scatter g.place 0 xs) := by
      simp only [serve, Rows.copyIn_region hk, if_pos hlength]
      rfl
    have hdense : (ofRows handle device indexKind extent g k).serveDense (g.contents k b)
        (through, .write xs) = (.ok [], xs) := by
      simp only [serveDense, Rows.length_contents, if_pos hlength]
      rfl
    refine agrees_of_eq hk hframe hserve hdense (Rows.contents_scatter hk hlength b) ?_
    exact fun i hi => Rows.get_scatter_of_not_holds hi (Nat.le_of_eq hlength) b
  · have hserve : (ofRows handle device indexKind extent g k).serve b (through, .write xs) =
        (.error (.error (.extentMismatch (.elements g.elements) (.elements xs.length))), b) := by
      simp only [serve, Rows.copyIn_region hk, if_neg hlength]
      rfl
    have hdense : (ofRows handle device indexKind extent g k).serveDense (g.contents k b)
        (through, .write xs) =
        (.error (.error (.extentMismatch (.elements g.elements) (.elements xs.length))),
          g.contents k b) := by
      simp only [serveDense, Rows.length_contents, if_neg hlength]
      rfl
    exact agrees_of_unchanged hk hframe hserve hdense

theorem agrees_read :
    (ofRows handle device indexKind extent g k).Agrees start b (g.contents k b)
      (through, .read) := by
  have hserve : (ofRows handle device indexKind extent g k).serve b (through, .read) =
      (.ok (g.contents k b), b) := by
    simp only [serve, Rows.toList_region hk]
    rfl
  exact agrees_of_unchanged hk hframe hserve rfl

theorem agrees_access_of_within {index : List Nat} (hin : Box.Within index g.extent)
    (axes : index.length = g.layout.rank) (a : Access k) (faulting : Bool) :
    (ofRows handle device indexKind extent g k).Agrees start b (g.contents k b)
      (through, .access index axes a faulting) := by
  have hn : Box.number index g.extent < g.elements := g.prod_extent ▸ Box.number_lt_prod hin
  have hbool : Axes.isWithin index g.layout.extent = true :=
    (Box.isWithin_eq_true_iff axes).mpr hin
  have hlinear : Axes.linearize wordArithmetic index g.layout.extent =
      .ok (Box.number index g.extent) :=
    Box.linearize_eq_ok hin (g.prod_extent ▸ g.elements_le)
  have hload := Rows.getElem?_contents hn b (k := k)
  have hentry := a.result_eq_entry (b.load k (g.place (Box.number index g.extent)))
  rcases hresult : a.result (b.load k (g.place (Box.number index g.extent))) with f | new
  · rw [hresult] at hentry
    have hserve : (ofRows handle device indexKind extent g k).serve b
        (through, .access index axes a faulting) = (.error (.fault f), b) := by
      simp only [serve, Rows.access_region_of_within hin, Bytes.access_error hresult, lift_fault,
        asFault_fault]
      rfl
    have hdense : (ofRows handle device indexKind extent g k).serveDense (g.contents k b)
        (through, .access index axes a faulting) = (.error (.fault f), g.contents k b) := by
      simp only [serveDense, hbool, if_true, hlinear, lift_ok, ok_bind, hload, ← hentry, lift_fault,
        error_bind, asFault_fault]
      rfl
    exact agrees_of_unchanged hk hframe hserve hdense
  · rw [hresult] at hentry
    obtain ⟨c, haccess, hcontents, hkeep⟩ := Rows.access_contents hk hn hresult
    have hserve : (ofRows handle device indexKind extent g k).serve b
        (through, .access index axes a faulting) =
        (.ok [b.load k (g.place (Box.number index g.extent))], c) := by
      simp only [serve, Rows.access_region_of_within hin, haccess, lift_ok, asFault_ok]
      rfl
    have hdense : (ofRows handle device indexKind extent g k).serveDense (g.contents k b)
        (through, .access index axes a faulting) =
        (.ok [b.load k (g.place (Box.number index g.extent))],
          (g.contents k b).set (Box.number index g.extent) new) := by
      simp only [serveDense, hbool, if_true, hlinear, lift_ok, ok_bind, hload, ← hentry]
      rfl
    exact agrees_of_eq hk hframe hserve hdense hcontents hkeep

theorem agrees_access_of_outside {index : List Nat}
    (hout : Axes.isWithin index g.layout.extent = false)
    (axes : index.length = g.layout.rank) (a : Access k) (faulting : Bool) :
    (ofRows handle device indexKind extent g k).Agrees start b (g.contents k b)
      (through, .access index axes a faulting) := by
  have hserve : (ofRows handle device indexKind extent g k).serve b
      (through, .access index axes a faulting) =
      settle b (Script.asFault faulting (.error (.error (g.layout.boundsError index)))) := by
    simp only [serve, Rows.access_region_of_outside hout]
    rfl
  have hdense : (ofRows handle device indexKind extent g k).serveDense (g.contents k b)
      (through, .access index axes a faulting) =
      settle (g.contents k b)
        (Script.asFault faulting (.error (.error (g.layout.boundsError index)))) := by
    simp only [serveDense, hout]
    rfl
  exact agrees_of_unchanged hk hframe hserve hdense

theorem agrees_slice :
    (ofRows handle device indexKind extent g k).Agrees start b (g.contents k b)
      (through, .slice) := by
  by_cases hdense : g.pitch = g.length * g.size
  · have hserve : (ofRows handle device indexKind extent g k).serve b (through, .slice) =
        (.ok (g.contents k b), b) := by
      simp only [serve, Rows.dense_region hk, if_pos hdense]
      rfl
    have hlist : (ofRows handle device indexKind extent g k).serveDense (g.contents k b)
        (through, .slice) = (.ok (g.contents k b), g.contents k b) := by
      simp only [serveDense, Rows.layout_isContiguous, decide_eq_true hdense]
      rfl
    exact agrees_of_unchanged hk hframe hserve hlist
  · have hserve : (ofRows handle device indexKind extent g k).serve b (through, .slice) =
        (.error (.error (paddedError (ofRows through device indexKind extent g k) "as_slice")),
          b) := by
      simp only [serve, Rows.dense_region hk, if_neg hdense]
      rfl
    have hlist : (ofRows handle device indexKind extent g k).serveDense (g.contents k b)
        (through, .slice) =
        (.error (.error (paddedError (ofRows through device indexKind extent g k) "as_slice")),
          g.contents k b) := by
      simp only [serveDense, Rows.layout_isContiguous, decide_eq_false hdense]
      rfl
    exact agrees_of_unchanged hk hframe hserve hlist

theorem agrees_setSlice (i : Nat) (x : Element k) :
    (ofRows handle device indexKind extent g k).Agrees start b (g.contents k b)
      (through, .setSlice i x) := by
  by_cases hdense : g.pitch = g.length * g.size
  · by_cases hi : i < g.elements
    · have hserve : (ofRows handle device indexKind extent g k).serve b
          (through, .setSlice i x) = (.ok [], b.store (g.place i) x) := by
        simp only [serve, Rows.setDense_region hk, if_pos hdense, if_pos hi]
        rfl
      have hlist : (ofRows handle device indexKind extent g k).serveDense (g.contents k b)
          (through, .setSlice i x) = (.ok [], (g.contents k b).set i x) := by
        simp only [serveDense, Rows.layout_isContiguous, decide_eq_true hdense, lift_ok, ok_bind,
          if_true, Rows.length_contents, if_pos hi]
        rfl
      refine agrees_of_eq hk hframe hserve hlist (Rows.contents_store hk b i x) ?_
      exact fun j hj =>
        Bytes.get_store_of_outside b x (Rows.outside_of_not_holds hj hi)
    · have hserve : (ofRows handle device indexKind extent g k).serve b
          (through, .setSlice i x) = (.error (.fault (.outOfBounds g.elements i)), b) := by
        simp only [serve, Rows.setDense_region hk, if_pos hdense, if_neg hi]
        rfl
      have hlist : (ofRows handle device indexKind extent g k).serveDense (g.contents k b)
          (through, .setSlice i x) =
          (.error (.fault (.outOfBounds g.elements i)), g.contents k b) := by
        simp only [serveDense, Rows.layout_isContiguous, decide_eq_true hdense, lift_ok, ok_bind,
          if_true, Rows.length_contents, if_neg hi]
        rfl
      exact agrees_of_unchanged hk hframe hserve hlist
  · have hserve : (ofRows handle device indexKind extent g k).serve b
        (through, .setSlice i x) =
        (.error (.error (paddedError (ofRows through device indexKind extent g k)
          "as_mut_slice")), b) := by
      simp only [serve, Rows.setDense_region hk, if_neg hdense]
      rfl
    have hlist : (ofRows handle device indexKind extent g k).serveDense (g.contents k b)
        (through, .setSlice i x) =
        (.error (.error (paddedError (ofRows through device indexKind extent g k)
          "as_mut_slice")), g.contents k b) := by
      simp only [serveDense, Rows.layout_isContiguous, decide_eq_false hdense]
      rfl
    exact agrees_of_unchanged hk hframe hserve hlist

theorem agrees_of_rows (q : (ofRows handle device indexKind extent g k).Query) :
    (ofRows handle device indexKind extent g k).Agrees start b (g.contents k b) q := by
  rcases q with ⟨through, request⟩
  cases request with
  | fill x => exact agrees_fill hk hframe x
  | write xs => exact agrees_write hk hframe xs
  | read => exact agrees_read hk hframe
  | access index axes a faulting =>
      rcases hin : Axes.isWithin index g.layout.extent with _ | _
      · exact agrees_access_of_outside hk hframe hin axes a faulting
      · exact agrees_access_of_within hk hframe ((Box.isWithin_eq_true_iff axes).mp hin) axes a
          faulting
  | slice => exact agrees_slice hk hframe
  | setSlice i x => exact agrees_setSlice hk hframe i x

end

end View

end LaneGrid
