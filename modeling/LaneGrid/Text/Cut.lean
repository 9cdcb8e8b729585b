import LaneGrid.Fault

namespace LaneGrid.Text

def bytes : List Char → Nat
  | [] => 0
  | c :: cs => c.utf8Size + bytes cs

/-- Every character with the position at which it starts, when the text starts at `start`. -/
def positions (start : Nat) : List Char → List (Nat × Char)
  | [] => []
  | c :: cs => (start, c) :: positions (start + c.utf8Size) cs

/-- The parts before and after a position, if there is a boundary. -/
def cut? : List Char → Nat → Option (List Char × List Char)
  | cs, 0 => some ([], cs)
  | [], _ + 1 => none
  | c :: cs, n + 1 =>
    if n + 1 < c.utf8Size then none
    else (cut? cs (n + 1 - c.utf8Size)).map fun parts => (c :: parts.1, parts.2)

def cut (cs : List Char) (position : Nat) : Except Fault (List Char × List Char) :=
  match cut? cs position with
  | some parts => .ok parts
  | none => .error (.noBoundary position)

theorem cut?_bytes_append (before after : List Char) :
    cut? (before ++ after) (bytes before) = some (before, after) := by
  induction before with
  | nil => simp [bytes, cut?]
  | cons c before ih =>
      obtain ⟨n, hn⟩ : ∃ n, bytes (c :: before) = n + 1 :=
        Nat.exists_eq_add_one.mpr (Nat.lt_of_lt_of_le c.utf8Size_pos (Nat.le_add_right _ _))
      have hrest : n + 1 - c.utf8Size = bytes before := by
        rw [← hn, bytes, Nat.add_sub_cancel_left]
      have hle : ¬ n + 1 < c.utf8Size := by
        rw [← hn, bytes]
        exact Nat.not_lt.mpr (Nat.le_add_right _ _)
      rw [hn, List.cons_append, cut?, if_neg hle, hrest, ih]
      rfl

theorem of_cut?_eq_some {cs before after : List Char} {n : Nat}
    (h : cut? cs n = some (before, after)) : cs = before ++ after ∧ bytes before = n := by
  induction cs generalizing n before with
  | nil =>
      cases n with
      | zero => cases h; exact ⟨rfl, rfl⟩
      | succ n => cases h
  | cons c cs ih =>
      cases n with
      | zero => cases h; exact ⟨rfl, rfl⟩
      | succ n =>
          rw [cut?] at h
          split at h
          · cases h
          · rename_i hle
            obtain ⟨⟨rest, after'⟩, hrest, heq⟩ := Option.map_eq_some_iff.mp h
            cases heq
            obtain ⟨rfl, hbytes⟩ := ih hrest
            refine ⟨rfl, ?_⟩
            rw [bytes, hbytes, Nat.add_sub_cancel' (Nat.not_lt.mp hle)]

/-- A text is cut after those of its beginnings that have the right number of bytes, and nowhere
else. -/
theorem cut_eq_ok_iff {cs before after : List Char} {n : Nat} :
    cut cs n = .ok (before, after) ↔ cs = before ++ after ∧ bytes before = n := by
  constructor
  · intro h
    apply of_cut?_eq_some
    rw [cut] at h
    split at h
    · cases h
      assumption
    · cases h
  · rintro ⟨rfl, rfl⟩
    rw [cut, cut?_bytes_append]

theorem positions_append (start : Nat) (before after : List Char) :
    positions start (before ++ after) =
      positions start before ++ positions (start + bytes before) after := by
  induction before generalizing start with
  | nil => simp [positions, bytes]
  | cons c before ih => simp [positions, bytes, ih, Nat.add_assoc]

end LaneGrid.Text
