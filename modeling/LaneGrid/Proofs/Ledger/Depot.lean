import Mathlib.Algebra.GroupWithZero.Nat
import Mathlib.Logic.Function.Basic
import Mathlib.Logic.Relation
import LaneGrid.Memory.Buffer
import LaneGrid.Proofs.Outcome

/-!
Devices whose memory several clients reserve and release at the same time. The steps on an account
are those that nothing can interrupt; between them anything may happen. Whatever the order, an
account holds exactly what is owned and what is under way.
-/

namespace LaneGrid

/-- What a client wants to have allocated. -/
structure Order where
  kind : ElementKind
  indexKind : IndexKind
  extent : List Int
  alignment : Nat

/-- The buffer that is asked for, unless its extent or its layout is refused. -/
def Order.draft (o : Order) (d : Device) : Outcome Buffer :=
  match Buffer.sizes o.indexKind o.extent 0 o.extent with
  | .error (e, _) => .error (.error e)
  | .ok dims => do
    let l ← Layout.pitched dims o.kind.size o.alignment
    return ⟨d.id, o.indexKind, o.extent, ⟨o.kind, l⟩, ← l.sizeBytes, .zeros⟩

theorem Order.device_draft {o : Order} {d : Device} {b : Buffer} (h : o.draft d = .ok b) :
    b.device = d.id := by
  rw [draft] at h
  split at h
  · cases h
  · obtain ⟨l, -, h⟩ := bind_eq_ok.mp h
    obtain ⟨bytes, -, h⟩ := bind_eq_ok.mp h
    obtain rfl := Except.ok.inj h
    rfl

/-- A reservation or a release that is under way. -/
inductive Errand (κ : Type) where
  /-- The bytes are taken from the capacity, and the allocation is not counted yet. -/
  | claimed (device : κ) (buffer : Buffer)
  /-- The machine is to provide the memory. -/
  | counted (device : κ) (buffer : Buffer)
  | releasing (device : κ) (bytes : Nat)
  /-- The bytes are given back, and the allocation is still counted. -/
  | refunded (device : κ)

namespace Errand

variable {κ : Type}

def device : Errand κ → κ
  | claimed s _ | counted s _ | releasing s _ | refunded s => s

variable [DecidableEq κ]

/-- Bytes of a device that the errand holds. -/
def bytesOn (s : κ) : Errand κ → Nat
  | claimed s' b | counted s' b => if s' = s then b.sizeBytes else 0
  | releasing s' n => if s' = s then n else 0
  | refunded _ => 0

/-- Allocations that a device counts for the errand. -/
def countOn (s : κ) : Errand κ → Nat
  | claimed .. => 0
  | counted s' _ | releasing s' _ | refunded s' => if s' = s then 1 else 0

theorem none_of_device_ne {s : κ} {e : Errand κ} (h : e.device ≠ s) :
    e.bytesOn s = 0 ∧ e.countOn s = 0 := by
  cases e with
  | claimed => exact ⟨if_neg h, rfl⟩
  | counted => exact ⟨if_neg h, if_neg h⟩
  | releasing => exact ⟨if_neg h, if_neg h⟩
  | refunded => exact ⟨rfl, if_neg h⟩

end Errand

structure Depot (κ : Type) where
  devices : κ → Device
  /-- Buffers that are owned, with the device of each. -/
  owned : List (κ × Buffer)
  errands : List (Errand κ)

theorem Ledger.claim_eq_ok {l m : Ledger} {bytes : Nat} (h : l.claim bytes = .ok m) :
    l.used + bytes ≤ wordMax ∧ l.used + bytes ≤ l.capacity ∧
      m = { l with used := l.used + bytes } := by
  rw [claim] at h
  split at h
  · rename_i hfits
    exact ⟨hfits.1, hfits.2, (Except.ok.inj h).symm⟩
  · cases h

namespace Depot

variable {κ : Type} [DecidableEq κ]

def ledger (d : Depot κ) (s : κ) : Ledger :=
  (d.devices s).ledger

/-- The depot with another account of a device, and with other errands. -/
def post (d : Depot κ) (s : κ) (ledger : Ledger) (errands : List (Errand κ)) : Depot κ :=
  { d with devices := Function.update d.devices s { d.devices s with ledger }, errands }

/-- What happens at one moment, on which device if any. -/
inductive Step (d : Depot κ) : Option κ → Depot κ → Prop
  | reject {s : κ} {o : Order} {e : Failure} (hdraft : o.draft (d.devices s) = .error e) :
      Step d (some s) d
  | refuse {s : κ} {o : Order} {b : Buffer} {e : Error}
      (hdraft : o.draft (d.devices s) = .ok b)
      (hclaim : (d.ledger s).claim b.sizeBytes = .error e) : Step d (some s) d
  | claim {s : κ} {o : Order} {b : Buffer} {l : Ledger} (hdraft : o.draft (d.devices s) = .ok b)
      (hclaim : (d.ledger s).claim b.sizeBytes = .ok l) :
      Step d (some s) (d.post s l (.claimed s b :: d.errands))
  | countUp {s : κ} {b : Buffer} {before after : List (Errand κ)}
      (herrands : d.errands = before ++ .claimed s b :: after) :
      Step d (some s) (d.post s (d.ledger s).countUp (before ++ .counted s b :: after))
  | provide {s : κ} {b : Buffer} {before after : List (Errand κ)}
      (herrands : d.errands = before ++ .counted s b :: after)
      (hprovide : (d.devices s).machine.provide b.sizeBytes = .ok ()) :
      Step d (some s) { d with owned := (s, b) :: d.owned, errands := before ++ after }
  /-- The machine may refuse whatever it is asked for. -/
  | deny {s : κ} {b : Buffer} {before after : List (Errand κ)}
      (herrands : d.errands = before ++ .counted s b :: after) :
      Step d (some s) { d with errands := before ++ .releasing s b.sizeBytes :: after }
  | drop {s : κ} {b : Buffer} {before after : List (κ × Buffer)}
      (howned : d.owned = before ++ (s, b) :: after) :
      Step d (some s) { d with
        owned := before ++ after, errands := .releasing s b.sizeBytes :: d.errands }
  | refund {s : κ} {n : Nat} {before after : List (Errand κ)}
      (herrands : d.errands = before ++ .releasing s n :: after) :
      Step d (some s) (d.post s ((d.ledger s).refund n) (before ++ .refunded s :: after))
  | countDown {s : κ} {before after : List (Errand κ)}
      (herrands : d.errands = before ++ .refunded s :: after) :
      Step d (some s) (d.post s (d.ledger s).countDown (before ++ after))
  /-- Owners change places. -/
  | move {owned : List (κ × Buffer)} (howned : owned.Perm d.owned) : Step d none { d with owned }
  /-- Contents are written, through a buffer or through a view. -/
  | write {owned : List (κ × Buffer)}
      (howned : List.Forall₂ (fun p q => q = (p.1, { p.2 with bytes := q.2.bytes }))
        d.owned owned) : Step d none { d with owned }

def Run : Depot κ → Depot κ → Prop :=
  Relation.ReflTransGen fun d d' => ∃ s, d.Step s d'

/-- Nothing is owned, nothing is under way, and all memory is free. -/
structure Fresh (d : Depot κ) : Prop where
  used_eq : ∀ s, (d.ledger s).used = 0
  live_eq : ∀ s, (d.ledger s).live = 0
  owned_eq : d.owned = []
  errands_eq : d.errands = []

/-- Bytes of the buffers that are owned on a device. -/
def ownedBytes (s : κ) (owned : List (κ × Buffer)) : Nat :=
  ((owned.filter (·.1 = s)).map (·.2.sizeBytes)).sum

def ownedCount (s : κ) (owned : List (κ × Buffer)) : Nat :=
  owned.countP (·.1 = s)

def errandBytes (s : κ) (errands : List (Errand κ)) : Nat :=
  (errands.map (·.bytesOn s)).sum

def errandCount (s : κ) (errands : List (Errand κ)) : Nat :=
  (errands.map (·.countOn s)).sum

/-- The account of a device holds what is owned and what is under way, and no more than fits. -/
structure Balanced (d : Depot κ) (s : κ) : Prop where
  used_eq : (d.ledger s).used = ownedBytes s d.owned + errandBytes s d.errands
  live_eq : (d.ledger s).live = ownedCount s d.owned + errandCount s d.errands
  used_le : (d.ledger s).used ≤ (d.ledger s).capacity
  used_word : (d.ledger s).used ≤ wordMax

section Sums

variable (s : κ)

@[simp] theorem ownedBytes_append (xs ys : List (κ × Buffer)) :
    ownedBytes s (xs ++ ys) = ownedBytes s xs + ownedBytes s ys := by
  rw [ownedBytes, List.filter_append, List.map_append, List.sum_append]
  rfl

@[simp] theorem ownedBytes_cons (p : κ × Buffer) (xs : List (κ × Buffer)) :
    ownedBytes s (p :: xs) = (if p.1 = s then p.2.sizeBytes else 0) + ownedBytes s xs := by
  rw [ownedBytes, ownedBytes, List.filter_cons]
  by_cases h : p.1 = s <;> simp [h]

@[simp] theorem ownedCount_append (xs ys : List (κ × Buffer)) :
    ownedCount s (xs ++ ys) = ownedCount s xs + ownedCount s ys :=
  List.countP_append

@[simp] theorem ownedCount_cons (p : κ × Buffer) (xs : List (κ × Buffer)) :
    ownedCount s (p :: xs) = (if p.1 = s then 1 else 0) + ownedCount s xs := by
  rw [ownedCount, ownedCount, List.countP_cons, Nat.add_comm]
  by_cases h : p.1 = s <;> simp [h]

@[simp] theorem errandBytes_append (xs ys : List (Errand κ)) :
    errandBytes s (xs ++ ys) = errandBytes s xs + errandBytes s ys := by
  rw [errandBytes, List.map_append, List.sum_append]
  rfl

@[simp] theorem errandBytes_cons (e : Errand κ) (xs : List (Errand κ)) :
    errandBytes s (e :: xs) = e.bytesOn s + errandBytes s xs :=
  List.sum_cons

@[simp] theorem errandCount_append (xs ys : List (Errand κ)) :
    errandCount s (xs ++ ys) = errandCount s xs + errandCount s ys := by
  rw [errandCount, List.map_append, List.sum_append]
  rfl

@[simp] theorem errandCount_cons (e : Errand κ) (xs : List (Errand κ)) :
    errandCount s (e :: xs) = e.countOn s + errandCount s xs :=
  List.sum_cons

theorem owned_perm {xs ys : List (κ × Buffer)} (h : xs.Perm ys) :
    ownedBytes s xs = ownedBytes s ys ∧ ownedCount s xs = ownedCount s ys :=
  ⟨((h.filter _).map _).sum_nat, h.countP_eq _⟩

theorem owned_rewritten {xs ys : List (κ × Buffer)}
    (h : List.Forall₂ (fun p q => q = (p.1, { p.2 with bytes := q.2.bytes })) xs ys) :
    ownedBytes s xs = ownedBytes s ys ∧ ownedCount s xs = ownedCount s ys := by
  induction h with
  | nil => exact ⟨rfl, rfl⟩
  | cons hhead _ ih =>
      rw [ownedBytes_cons, ownedBytes_cons, ownedCount_cons, ownedCount_cons, ih.1, ih.2, hhead]
      exact ⟨rfl, rfl⟩

omit [DecidableEq κ] in
theorem devices_rewritten {xs ys : List (κ × Buffer)}
    (h : List.Forall₂ (fun p q => q = (p.1, { p.2 with bytes := q.2.bytes })) xs ys) :
    xs.map (·.1) = ys.map (·.1) := by
  induction h with
  | nil => rfl
  | cons hhead _ ih => rw [List.map_cons, List.map_cons, ih, hhead]

end Sums

@[simp] theorem ledger_post (d : Depot κ) (s : κ) (l : Ledger) (errands : List (Errand κ)) :
    (d.post s l errands).ledger s = l := by
  simp [ledger, post]

theorem machine_post (d : Depot κ) (s : κ) (l : Ledger) (errands : List (Errand κ)) :
    ((d.post s l errands).devices s).machine = (d.devices s).machine := by
  simp [post]

@[simp] theorem owned_post (d : Depot κ) (s : κ) (l : Ledger) (errands : List (Errand κ)) :
    (d.post s l errands).owned = d.owned := rfl

@[simp] theorem errands_post (d : Depot κ) (s : κ) (l : Ledger) (errands : List (Errand κ)) :
    (d.post s l errands).errands = errands := rfl

theorem ledger_post_of_ne (d : Depot κ) {s s' : κ} (h : s' ≠ s) (l : Ledger)
    (errands : List (Errand κ)) : (d.post s l errands).ledger s' = d.ledger s' :=
  congrArg Device.ledger (Function.update_of_ne h _ _)

theorem Step.elsewhere {d d' : Depot κ} {on : Option κ} (h : d.Step on d') {s : κ}
    (hs : on ≠ some s) :
    d'.ledger s = d.ledger s ∧ ownedBytes s d'.owned = ownedBytes s d.owned ∧
      ownedCount s d'.owned = ownedCount s d.owned ∧
      errandBytes s d'.errands = errandBytes s d.errands ∧
      errandCount s d'.errands = errandCount s d.errands := by
  cases h with
  | reject | refuse => exact ⟨rfl, rfl, rfl, rfl, rfl⟩
  | @claim s' =>
      have hne : s' ≠ s := fun heq => hs (congrArg some heq)
      refine ⟨ledger_post_of_ne d hne.symm _ _, rfl, rfl, ?_, ?_⟩ <;>
        simp [Errand.bytesOn, Errand.countOn, hne]
  | @countUp s' b before after herrands =>
      have hne : s' ≠ s := fun heq => hs (congrArg some heq)
      refine ⟨ledger_post_of_ne d hne.symm _ _, rfl, rfl, ?_, ?_⟩ <;>
        simp [herrands, Errand.bytesOn, Errand.countOn, hne]
  | @provide s' b before after herrands =>
      have hne : s' ≠ s := fun heq => hs (congrArg some heq)
      refine ⟨rfl, ?_, ?_, ?_, ?_⟩ <;> simp [herrands, Errand.bytesOn, Errand.countOn, hne]
  | @deny s' b before after herrands =>
      refine ⟨rfl, rfl, rfl, ?_, ?_⟩ <;> simp [herrands, Errand.bytesOn, Errand.countOn]
  | @drop s' b before after howned =>
      have hne : s' ≠ s := fun heq => hs (congrArg some heq)
      refine ⟨rfl, ?_, ?_, ?_, ?_⟩ <;> simp [howned, Errand.bytesOn, Errand.countOn, hne]
  | @refund s' n before after herrands =>
      have hne : s' ≠ s := fun heq => hs (congrArg some heq)
      refine ⟨ledger_post_of_ne d hne.symm _ _, rfl, rfl, ?_, ?_⟩ <;>
        simp [herrands, Errand.bytesOn, Errand.countOn, hne]
  | @countDown s' before after herrands =>
      have hne : s' ≠ s := fun heq => hs (congrArg some heq)
      refine ⟨ledger_post_of_ne d hne.symm _ _, rfl, rfl, ?_, ?_⟩ <;>
        simp [herrands, Errand.bytesOn, Errand.countOn, hne]
  | move howned => exact ⟨rfl, (owned_perm s howned).1, (owned_perm s howned).2, rfl, rfl⟩
  | write howned =>
      exact ⟨rfl, (owned_rewritten s howned).1.symm, (owned_rewritten s howned).2.symm, rfl, rfl⟩

theorem Step.same_account {d d' : Depot κ} {on : Option κ} (h : d.Step on d') (s : κ) :
    (d'.ledger s).device = (d.ledger s).device ∧
      (d'.ledger s).capacity = (d.ledger s).capacity := by
  by_cases hs : on = some s
  · subst hs
    cases h with
    | claim hdraft hclaim =>
        obtain ⟨-, -, rfl⟩ := Ledger.claim_eq_ok hclaim
        rw [ledger_post]
        exact ⟨rfl, rfl⟩
    | countUp | refund | countDown =>
        rw [ledger_post]
        exact ⟨rfl, rfl⟩
    | _ => exact ⟨rfl, rfl⟩
  · rw [(h.elsewhere hs).1]
    exact ⟨rfl, rfl⟩

theorem Balanced.of_errand {d : Depot κ} {s : κ} (h : d.Balanced s) {e : Errand κ}
    {before after : List (Errand κ)} (herrands : d.errands = before ++ e :: after) :
    (d.ledger s).used = ownedBytes s d.owned +
        (errandBytes s before + (e.bytesOn s + errandBytes s after)) ∧
      (d.ledger s).live = ownedCount s d.owned +
        (errandCount s before + (e.countOn s + errandCount s after)) := by
  rw [h.used_eq, h.live_eq, herrands, errandBytes_append, errandBytes_cons, errandCount_append,
    errandCount_cons]
  exact ⟨rfl, rfl⟩

theorem Step.balanced {d d' : Depot κ} {on : Option κ} (h : d.Step on d') {s : κ}
    (hd : d.Balanced s) : d'.Balanced s := by
  have hused := hd.used_eq
  have hlive := hd.live_eq
  have hfits := hd.used_le
  have hword := hd.used_word
  by_cases hs : on = some s
  · subst hs
    cases h with
    | reject | refuse => exact hd
    | claim hdraft hclaim =>
        obtain ⟨hword', hfits', rfl⟩ := Ledger.claim_eq_ok hclaim
        constructor <;> simp [Errand.bytesOn, Errand.countOn] <;> omega
    | countUp herrands =>
        obtain ⟨hbytes, hcount⟩ := hd.of_errand herrands
        simp only [Errand.bytesOn, Errand.countOn, if_true] at hbytes hcount
        constructor <;> simp [Ledger.countUp, Errand.bytesOn, Errand.countOn] <;> omega
    | provide herrands =>
        obtain ⟨hbytes, hcount⟩ := hd.of_errand herrands
        simp only [Errand.bytesOn, Errand.countOn, if_true] at hbytes hcount
        refine ⟨?_, ?_, hfits, hword⟩
        · rw [errandBytes_append, ownedBytes_cons, if_pos rfl]
          exact hbytes.trans (by dsimp only; omega)
        · rw [errandCount_append, ownedCount_cons, if_pos rfl]
          exact hcount.trans (by omega)
    | deny herrands =>
        obtain ⟨hbytes, hcount⟩ := hd.of_errand herrands
        refine ⟨?_, ?_, hfits, hword⟩
        · rw [errandBytes_append, errandBytes_cons]
          exact hbytes
        · rw [errandCount_append, errandCount_cons]
          exact hcount
    | drop howned =>
        rw [howned, ownedBytes_append, ownedBytes_cons, if_pos rfl] at hused
        rw [howned, ownedCount_append, ownedCount_cons, if_pos rfl] at hlive
        refine ⟨?_, ?_, hfits, hword⟩
        · rw [ownedBytes_append, errandBytes_cons, Errand.bytesOn, if_pos rfl]
          exact hused.trans (by dsimp only; omega)
        · rw [ownedCount_append, errandCount_cons, Errand.countOn, if_pos rfl]
          exact hlive.trans (by omega)
    | refund herrands =>
        obtain ⟨hbytes, hcount⟩ := hd.of_errand herrands
        simp only [Errand.bytesOn, Errand.countOn, if_true] at hbytes hcount
        constructor <;> simp [Ledger.refund, Errand.bytesOn, Errand.countOn] <;> omega
    | countDown herrands =>
        obtain ⟨hbytes, hcount⟩ := hd.of_errand herrands
        simp only [Errand.bytesOn, Errand.countOn, if_true] at hbytes hcount
        constructor <;> simp [Ledger.countDown] <;> omega
  · obtain ⟨hledger, hbytes, hcount, hheld, hcounted⟩ := h.elsewhere hs
    rw [← hledger] at hused hlive hfits hword
    exact ⟨by omega, by omega, by omega, by omega⟩

theorem Fresh.balanced {d : Depot κ} (h : d.Fresh) (s : κ) : d.Balanced s where
  used_eq := by rw [h.used_eq, h.owned_eq, h.errands_eq]; rfl
  live_eq := by rw [h.live_eq, h.owned_eq, h.errands_eq]; rfl
  used_le := by rw [h.used_eq]; exact Nat.zero_le _
  used_word := by rw [h.used_eq]; exact Nat.zero_le _

theorem Run.balanced {d d' : Depot κ} (h : Run d d') {s : κ} (hd : d.Balanced s) :
    d'.Balanced s := by
  induction h with
  | refl => exact hd
  | tail _ hstep ih =>
      obtain ⟨on, hstep⟩ := hstep
      exact hstep.balanced ih

theorem Run.same_account {d d' : Depot κ} (h : Run d d') (s : κ) :
    (d'.ledger s).device = (d.ledger s).device ∧
      (d'.ledger s).capacity = (d.ledger s).capacity := by
  induction h with
  | refl => exact ⟨rfl, rfl⟩
  | tail _ hstep ih =>
      obtain ⟨on, hstep⟩ := hstep
      obtain ⟨hdevice, hcapacity⟩ := hstep.same_account s
      exact ⟨hdevice.trans ih.1, hcapacity.trans ih.2⟩

/-- Nothing is under way on a device. -/
def Quiet (d : Depot κ) (s : κ) : Prop :=
  ∀ e ∈ d.errands, e.device ≠ s

theorem Quiet.errands_eq {d : Depot κ} {s : κ} (h : d.Quiet s) :
    errandBytes s d.errands = 0 ∧ errandCount s d.errands = 0 := by
  constructor
  · rw [errandBytes, List.sum_eq_zero_iff_forall_eq_nat]
    intro n hn
    obtain ⟨e, he, rfl⟩ := List.mem_map.mp hn
    exact (Errand.none_of_device_ne (h e he)).1
  · rw [errandCount, List.sum_eq_zero_iff_forall_eq_nat]
    intro n hn
    obtain ⟨e, he, rfl⟩ := List.mem_map.mp hn
    exact (Errand.none_of_device_ne (h e he)).2

theorem Balanced.of_quiet {d : Depot κ} {s : κ} (h : d.Balanced s) (hquiet : d.Quiet s) :
    (d.ledger s).used = ownedBytes s d.owned ∧ (d.ledger s).live = ownedCount s d.owned := by
  obtain ⟨hbytes, hcount⟩ := hquiet.errands_eq
  exact ⟨by rw [h.used_eq, hbytes]; rfl, by rw [h.live_eq, hcount]; rfl⟩

theorem Balanced.covers {d : Depot κ} {s : κ} (h : d.Balanced s) :
    (∀ n, .releasing s n ∈ d.errands → n ≤ (d.ledger s).used) ∧
      (.refunded s ∈ d.errands → 0 < (d.ledger s).live) := by
  constructor
  · intro n hn
    obtain ⟨before, after, herrands⟩ := List.append_of_mem hn
    have hused := h.used_eq
    simp only [herrands, errandBytes_append, errandBytes_cons, Errand.bytesOn, if_true] at hused
    omega
  · intro hn
    obtain ⟨before, after, herrands⟩ := List.append_of_mem hn
    have hlive := h.live_eq
    simp only [herrands, errandCount_append, errandCount_cons, Errand.countOn, if_true] at hlive
    omega

section Alone

/-! A client that nobody interrupts does what `Buffer.allocateAligned` does, and what a buffer does
that goes away. -/

variable (d : Depot κ) (s : κ)

theorem post_post (l l' : Ledger) (errands errands' : List (Errand κ)) :
    (d.post s l errands).post s l' errands' = d.post s l' errands' := by
  simp [post]

theorem run_countUp (l : Ledger) (b : Buffer) (errands : List (Errand κ)) :
    Run (d.post s l (.claimed s b :: errands)) (d.post s l.countUp (.counted s b :: errands)) := by
  have hstep := @Step.countUp _ _ (d.post s l (.claimed s b :: errands)) s b [] errands rfl
  rw [ledger_post, post_post] at hstep
  exact .single ⟨_, hstep⟩

theorem run_release (l : Ledger) (n : Nat) (errands : List (Errand κ)) :
    Run (d.post s l (.releasing s n :: errands)) (d.post s (l.release n) errands) := by
  have hrefund := @Step.refund _ _ (d.post s l (.releasing s n :: errands)) s n [] errands rfl
  rw [ledger_post, post_post] at hrefund
  have hcount := @Step.countDown _ _ (d.post s (l.refund n) (.refunded s :: errands)) s []
    errands rfl
  rw [ledger_post, post_post] at hcount
  exact .tail (.single ⟨_, hrefund⟩) ⟨_, hcount⟩

theorem run_drop {b : Buffer} {before after : List (κ × Buffer)}
    (howned : d.owned = before ++ (s, b) :: after) :
    Run d { d.post s ((d.ledger s).release b.sizeBytes) d.errands with
      owned := before ++ after } := by
  have hdrop := Step.drop howned
  have hrelease := run_release { d with owned := before ++ after } s (d.ledger s) b.sizeBytes
    d.errands
  refine .trans (.single ⟨_, hdrop⟩) ?_
  rw [show ({ d with owned := before ++ after, errands := .releasing s b.sizeBytes :: d.errands } :
    Depot κ) = ({ d with owned := before ++ after } : Depot κ).post s (d.ledger s)
      (.releasing s b.sizeBytes :: d.errands) by simp [post, ledger]]
  exact hrelease

theorem acquire_eq_ok {dev dev' : Device} {bytes : Nat}
    (h : Buffer.acquire dev bytes = .ok dev') :
    ∃ l, dev.ledger.claim bytes = .ok l ∧ dev.machine.provide bytes = .ok () ∧
      dev' = { dev with ledger := l.countUp } := by
  obtain ⟨m, hreserve, h⟩ := bind_eq_ok.mp h
  obtain ⟨l, hclaim, rfl⟩ := map_eq_ok.mp hreserve
  obtain ⟨⟨⟩, hprovide, h⟩ := bind_eq_ok.mp h
  exact ⟨l, hclaim, hprovide, (Except.ok.inj h).symm⟩

theorem allocateAligned_eq_ok {o : Order} {dev dev' : Device} {b : Buffer}
    (h : (Buffer.allocateAligned dev o.kind o.indexKind o.extent o.alignment).result =
      .ok (b, dev')) :
    o.draft dev = .ok b ∧ Buffer.acquire dev b.sizeBytes = .ok dev' := by
  rw [Buffer.allocateAligned] at h
  rw [Order.draft]
  rcases hsizes : Buffer.sizes o.indexKind o.extent 0 o.extent with ⟨e, events⟩ | dims
  · rw [hsizes] at h
    cases h
  · rw [hsizes] at h
    obtain ⟨l, hlayout, h⟩ := bind_eq_ok.mp h
    obtain ⟨bytes, hbytes, h⟩ := bind_eq_ok.mp h
    obtain ⟨dev'', hacquire, h⟩ := bind_eq_ok.mp h
    obtain ⟨rfl, rfl⟩ := Prod.mk.inj (Except.ok.inj h)
    obtain ⟨m, -, -, rfl⟩ := acquire_eq_ok (liftError_eq_ok.mp hacquire)
    refine ⟨?_, liftError_eq_ok.mp hacquire⟩
    simp only [hlayout, ok_bind, hbytes]
    rfl

theorem run_allocate {o : Order} {b : Buffer} {dev : Device}
    (h : (Buffer.allocateAligned (d.devices s) o.kind o.indexKind o.extent o.alignment).result =
      .ok (b, dev)) :
    Run d { d with devices := Function.update d.devices s dev, owned := (s, b) :: d.owned } := by
  obtain ⟨hdraft, hacquire⟩ := allocateAligned_eq_ok h
  obtain ⟨l, hclaim, hprovide, rfl⟩ := acquire_eq_ok hacquire
  refine .trans (.single ⟨_, .claim hdraft hclaim⟩) ?_
  refine .trans (run_countUp d s l b d.errands) (.single ⟨some s, ?_⟩)
  refine @Step.provide _ _ (d.post s l.countUp (.counted s b :: d.errands)) s b [] d.errands rfl ?_
  rw [machine_post]
  exact hprovide

end Alone

end Depot

end LaneGrid
