import Mathlib.Data.List.TakeWhile
import Mathlib.Tactic.IntervalCases
import LaneGrid.Coordinate.Kind
import LaneGrid.Proofs.Outcome

namespace LaneGrid

namespace Text

/-- The text `t` is `s` without the blanks at both ends. -/
structure Trims (s t : List Char) : Prop where
  around : ∃ before after, s = before ++ t ++ after ∧
    (∀ c ∈ before, isBlank c = true) ∧ ∀ c ∈ after, isBlank c = true
  first : ∀ c ∈ t.head?, isBlank c = false
  last : ∀ c ∈ t.getLast?, isBlank c = false

theorem dropWhile_append_of_head {before t : List Char} (hbefore : ∀ c ∈ before, isBlank c = true)
    (h : ∀ c ∈ t.head?, isBlank c = false) : (before ++ t).dropWhile isBlank = t := by
  rw [List.dropWhile_append_of_pos hbefore]
  cases t with
  | nil => rfl
  | cons c t => rw [List.dropWhile_cons_of_neg (by simp [h c rfl])]

theorem head?_dropWhile_isBlank (s : List Char) :
    ∀ c ∈ (s.dropWhile isBlank).head?, isBlank c = false := by
  intro c hc
  have hnot := List.head?_dropWhile_not isBlank s
  rw [Option.mem_def.mp hc] at hnot
  exact hnot

theorem exists_dropWhile_eq (s : List Char) : ∃ after,
    s.dropWhile isBlank = trimBlanks s ++ after ∧ ∀ c ∈ after, isBlank c = true := by
  refine ⟨((s.dropWhile isBlank).reverse.takeWhile isBlank).reverse, ?_, ?_⟩
  · rw [trimBlanks, ← List.reverse_append, List.takeWhile_append_dropWhile, List.reverse_reverse]
  · intro c hc
    exact List.mem_takeWhile_imp (List.mem_reverse.mp hc)

theorem trims_trimBlanks (s : List Char) : Trims s (trimBlanks s) := by
  obtain ⟨after, hrest, hafter⟩ := exists_dropWhile_eq s
  refine ⟨⟨s.takeWhile isBlank, after, ?_, fun c hc => List.mem_takeWhile_imp hc, hafter⟩, ?_, ?_⟩
  · rw [List.append_assoc, ← hrest, List.takeWhile_append_dropWhile]
  · intro c hc
    apply head?_dropWhile_isBlank s
    rw [hrest, List.head?_append, Option.mem_def.mp hc]
    rfl
  · intro c hc
    rw [trimBlanks, List.getLast?_reverse] at hc
    exact head?_dropWhile_isBlank _ c hc

theorem trims_iff {s t : List Char} : Trims s t ↔ trimBlanks s = t := by
  constructor
  · rintro ⟨⟨before, after, rfl, hbefore, hafter⟩, hfirst, hlast⟩
    have hafter' : ∀ c ∈ after.reverse, isBlank c = true := by simpa using hafter
    have hlast' : ∀ c ∈ t.reverse.head?, isBlank c = false := by simpa using hlast
    rw [trimBlanks, List.append_assoc, List.dropWhile_append_of_pos hbefore]
    cases t with
    | nil => rw [List.nil_append, List.dropWhile_eq_nil_iff.mpr hafter]; rfl
    | cons c t =>
        rw [List.cons_append, List.dropWhile_cons_of_neg (by simp [hfirst c rfl]),
          ← List.cons_append, List.reverse_append, dropWhile_append_of_head hafter' hlast',
          List.reverse_reverse]
  · rintro rfl
    exact trims_trimBlanks s

end Text

namespace CoordinateKind

open Text

/-- The digits that name a number of components. -/
def componentDigits : List (Char × Shape) :=
  [('1', .vec1), ('2', .vec2), ('3', .vec3), ('4', .vec4)]

/-- The names of kinds: `dim3`, and every family name followed by one digit. -/
inductive Names : List Char → CoordinateKind → Prop where
  | launch : Names "dim3".toList ⟨.vec3, .u32⟩
  | vector {family : String} {element : ElementKind} {digit : Char} {shape : Shape}
      (hfamily : (family, element) ∈ families) (hdigit : (digit, shape) ∈ componentDigits) :
      Names (family.toList ++ [digit]) ⟨shape, element⟩

theorem mem_digits_of_isDigit {c : Char} (h : isDigit c = true) :
    c ∈ ['0', '1', '2', '3', '4', '5', '6', '7', '8', '9'] := by
  have hrange : 48 ≤ c.toNat ∧ c.toNat ≤ 57 := by
    simpa [isDigit, Char.le_def, UInt32.le_iff_toNat_le] using h
  obtain ⟨hlow, hhigh⟩ := hrange
  rw [← Char.ofNat_toNat c]
  generalize c.toNat = n at hlow hhigh ⊢
  interval_cases n <;> decide

theorem shape?_eq_some_iff {c : Char} (h : isDigit c = true) {shape : Shape} :
    shape? [c] = some shape ↔ (c, shape) ∈ componentDigits := by
  have hc := mem_digits_of_isDigit h
  simp only [List.mem_cons, List.not_mem_nil, or_false] at hc
  rcases hc with rfl | rfl | rfl | rfl | rfl | rfl | rfl | rfl | rfl | rfl <;>
    cases shape <;> decide

theorem digitPosition?_concat (name : List Char) (c : Char) :
    digitPosition? (name ++ [c]) = if isDigit c then some (bytes name) else none := by
  rw [digitPosition?, positions_append, positions, positions, List.getLast?_concat, Nat.zero_add]

theorem isDigit_of_mem {digit : Char} {shape : Shape} (h : (digit, shape) ∈ componentDigits) :
    isDigit digit = true ∧ digitValue digit = shape.dimension := by
  revert h
  simp only [componentDigits, List.mem_cons, Prod.mk.injEq, List.not_mem_nil, or_false]
  rintro (⟨rfl, rfl⟩ | ⟨rfl, rfl⟩ | ⟨rfl, rfl⟩ | ⟨rfl, rfl⟩) <;> decide

theorem family?_of_mem {family : String} {element : ElementKind} (h : (family, element) ∈ families) :
    family? family.toList = some (family, element) := by
  have hall : ∀ f ∈ families, family? f.1.toList = some f := by decide
  exact hall _ h

theorem family_concat_ne {family : String} {element : ElementKind}
    (h : (family, element) ∈ families) (digit : Char) :
    family.toList ++ [digit] ≠ "dim3".toList := by
  have hall : ∀ f ∈ families, f.1.toList ≠ "dim".toList := by decide
  intro heq
  have hsplit : family.toList ++ [digit] = "dim".toList ++ ['3'] := heq
  exact hall _ h (List.append_inj' hsplit rfl).1

theorem mem_of_family? {name : List Char} {family : String} {element : ElementKind}
    (h : family? name = some (family, element)) :
    family.toList = name ∧ (family, element) ∈ families :=
  ⟨by simpa using List.find?_some h, List.mem_of_find?_eq_some h⟩

theorem ofTrimmed_concat {family : List Char} {digit : Char}
    (hne : family ++ [digit] ≠ "dim3".toList) (hdigit : isDigit digit = true) :
    ofTrimmed (family ++ [digit]) =
      match shape? [digit], family? family with
      | some shape, some entry => .ok ⟨shape, entry.2⟩
      | _, _ =>
        .error (.error (.unreadable "coordinate kind" (String.ofList (family ++ [digit])))) := by
  have hcut : cut (family ++ [digit]) (bytes family) = .ok (family, [digit]) :=
    cut_eq_ok_iff.mpr ⟨rfl, rfl⟩
  rw [ofTrimmed, if_neg hne, digitPosition?_concat, if_pos hdigit]
  simp only [hcut, lift_ok, ok_bind]
  rcases shape? [digit] with _ | shape
  · rfl
  · rcases family? family with _ | entry <;> rfl

theorem ofTrimmed_of_names {name : List Char} {kind : CoordinateKind} (h : Names name kind) :
    ofTrimmed name = .ok kind := by
  cases h with
  | launch => rfl
  | vector hfamily hdigit =>
      obtain ⟨hisDigit, -⟩ := isDigit_of_mem hdigit
      rw [ofTrimmed_concat (family_concat_ne hfamily _) hisDigit,
        (shape?_eq_some_iff hisDigit).mpr hdigit, family?_of_mem hfamily]

theorem names_or_unreadable (name : List Char) :
    (∃ kind, Names name kind ∧ ofTrimmed name = .ok kind) ∨
      ofTrimmed name =
        .error (.error (.unreadable "coordinate kind" (String.ofList name))) := by
  by_cases hlaunch : name = "dim3".toList
  · subst hlaunch
    exact .inl ⟨_, .launch, rfl⟩
  rcases List.eq_nil_or_concat name with rfl | ⟨family, c, rfl⟩
  · exact .inr rfl
  rw [List.concat_eq_append] at *
  by_cases hdigit : isDigit c = true
  · rw [ofTrimmed_concat hlaunch hdigit]
    rcases hshape : shape? [c] with _ | shape
    · exact .inr rfl
    · rcases hentry : family? family with _ | ⟨familyName, element⟩
      · exact .inr rfl
      · obtain ⟨rfl, hfamily⟩ := mem_of_family? hentry
        exact .inl ⟨_, .vector hfamily ((shape?_eq_some_iff hdigit).mp hshape), rfl⟩
  · right
    rw [ofTrimmed, if_neg hlaunch, digitPosition?_concat, if_neg hdigit]
    rfl

theorem ofTrimmed_eq_ok_iff {name : List Char} {kind : CoordinateKind} :
    ofTrimmed name = .ok kind ↔ Names name kind := by
  constructor
  · intro h
    rcases names_or_unreadable name with ⟨other, hnames, hok⟩ | herror
    · rw [hok] at h
      cases h
      exact hnames
    · rw [herror] at h
      cases h
  · exact ofTrimmed_of_names

theorem Names.unique {name : List Char} {kind other : CoordinateKind} (h : Names name kind)
    (h' : Names name other) : other = kind :=
  Except.ok.inj ((ofTrimmed_of_names h').symm.trans (ofTrimmed_of_names h))

theorem Names.getLast?_eq {name : List Char} {kind : CoordinateKind} (h : Names name kind) :
    ∃ digit, name.getLast? = some digit ∧ digitValue digit = kind.dimension := by
  cases h with
  | launch => exact ⟨'3', rfl, rfl⟩
  | vector hfamily hdigit => exact ⟨_, List.getLast?_concat, (isDigit_of_mem hdigit).2⟩

/-- Every text is read as the kind that it names once the blanks around it are gone, and a text
that names none is refused, quoted without those blanks; reading never breaks off inside a
character. A name belongs to one kind, and its last character is the number of components. -/
theorem ofName_exact (s : String) :
    ∃ t, Trims s.toList t ∧
      (∀ kind, ofName s = .ok kind ↔ Names t kind) ∧
      ((∀ kind, ¬ Names t kind) →
        ofName s = .error (.error (.unreadable "coordinate kind" (String.ofList t)))) ∧
      ∀ kind, Names t kind → (∀ other, Names t other → other = kind) ∧
        ∃ digit, t.getLast? = some digit ∧ digitValue digit = kind.dimension := by
  refine ⟨trimBlanks s.toList, trims_trimBlanks _, fun kind => ofTrimmed_eq_ok_iff, ?_, ?_⟩
  · intro hnone
    rcases names_or_unreadable (trimBlanks s.toList) with ⟨kind, hnames, -⟩ | herror
    · exact absurd hnames (hnone kind)
    · exact herror
  · intro kind hkind
    exact ⟨fun other => hkind.unique, hkind.getLast?_eq⟩

/-- Blanks need not be those of the keyboard, and a digit may follow a letter of two bytes. -/
theorem ofName_exact_unspaced :
    ofName "\u2003ulonglong4\n" = .ok ⟨.vec4, .u64⟩ ∧
      ofName "caf\u00e93 " =
        .error (.error (.unreadable "coordinate kind" "caf\u00e93")) := by
  constructor
  · obtain ⟨t, ht, hok, -⟩ := ofName_exact "\u2003ulonglong4\n"
    obtain rfl : "ulonglong4".toList = t := trims_iff.mp ht
    have hname : Names ("ulonglong".toList ++ ['4']) ⟨.vec4, .u64⟩ :=
      .vector (by decide) (by decide)
    exact (hok _).mpr hname
  · obtain ⟨t, ht, -, hrefused, -⟩ := ofName_exact "caf\u00e93 "
    obtain rfl : "caf\u00e93".toList = t := trims_iff.mp ht
    refine hrefused fun kind hkind => ?_
    cases (ofTrimmed_of_names hkind).symm.trans rfl

end CoordinateKind

end LaneGrid
