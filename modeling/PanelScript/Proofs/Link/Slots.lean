import Mathlib.Algebra.BigOperators.Group.Finset.Piecewise
import Mathlib.Algebra.Order.BigOperators.Group.Finset
import PanelScript.Proofs.Link.Custody

/-!
# What belongs to a slot

A slot has one connection at most, parked in it or held by the one that has locked it. Counted over
all slots this bounds the connections, and the calls that have a permit and no slot.

* `sum_countP` and `countP_eq_sum`: a count is the sum over the slots of what belongs to each;
* `countP_slot`: one participant holds a slot that is locked, and none holds another;
* `owned_le_one` and `openCount_le_size`: there is one connection for a slot at most;
* `openCount_eq_countP_isOpen`: the connections that are counted are those that are open;
* `waiting_le_vacant`: while no attempt to close the link holds a slot, there are as many slots
  for those that wait for one.
-/

namespace PanelScript

/-! ### Counts as sums -/

theorem sum_countP {α : Type} (xs : List α) (f : α → Option Nat) {m : Nat}
    (bound : ∀ x ∈ xs, ∀ s, f x = some s → s < m) :
    ∑ s ∈ Finset.range m, xs.countP (fun x => f x == some s) = xs.countP fun x => (f x).isSome := by
  induction xs with
  | nil => simp
  | cons x xs ih =>
    simp only [List.countP_cons, Finset.sum_add_distrib]
    rw [ih fun y hy => bound y (List.mem_cons_of_mem x hy)]
    cases hx : f x with
    | none => simp
    | some s =>
      have hs : s ∈ Finset.range m := Finset.mem_range.2 (bound x List.mem_cons_self s hx)
      simp [hs]

theorem countP_eq_sum {α : Type} (xs : List α) (p : α → Bool) :
    xs.countP p = ∑ s ∈ Finset.range xs.length, ((xs[s]?).any p).toNat := by
  induction xs with
  | nil => rfl
  | cons x xs ih =>
    rw [List.length_cons, Finset.sum_range_succ', List.countP_cons, ih]
    cases h : p x <;> simp [h]

theorem countP_add_le {α : Type} {xs : List α} {p q r : α → Bool}
    (le : ∀ x ∈ xs, (p x).toNat + (q x).toNat ≤ (r x).toNat) :
    xs.countP p + xs.countP q ≤ xs.countP r := by
  induction xs with
  | nil => exact Nat.le_refl 0
  | cons x xs ih =>
    have tail := ih fun y hy => le y (List.mem_cons_of_mem x hy)
    have head := le x List.mem_cons_self
    simp only [Bool.toNat, Bool.cond_eq_ite] at head
    simp only [List.countP_cons]
    omega

/-- One member of a list has a property if one at some place has it and none at another. -/
theorem countP_eq_one {α : Type} {xs : List α} {p : α → Bool} {i : Nat} {x : α}
    (hx : xs[i]? = some x) (px : p x = true)
    (only : ∀ j y, xs[j]? = some y → p y = true → j = i) : xs.countP p = 1 := by
  induction xs generalizing i with
  | nil => cases hx
  | cons y xs ih =>
    cases i with
    | zero =>
      obtain rfl : y = x := by simpa using hx
      rw [List.countP_cons, if_pos px, List.countP_eq_zero.2]
      intro z hz pz
      obtain ⟨j, hj⟩ := List.mem_iff_getElem?.1 hz
      cases only (j + 1) z (by simpa using hj) pz
    | succ i =>
      have py : ¬ p y = true := fun py => nomatch only 0 y rfl py
      rw [List.countP_cons, if_neg py]
      exact ih (by simpa using hx) fun j z hj pz =>
        Nat.succ.inj (only (j + 1) z (by simpa using hj) pz)

/-- Whether a call has a permit and looks for a slot. -/
def LinkCall.isWaiting (c : LinkCall) : Bool :=
  match c.stage with
  | .searching _ | .standing => true
  | _ => false

namespace Link

variable {l : Link}

/-- How many connections belong to a slot: the one that is parked in it, and those that were taken
out of it or opened for it. -/
def owned (l : Link) (s : Nat) : Nat :=
  (l.parked? s).isSome.toNat + l.holds.countP fun h => h.connection?.isSome && h.slot? == some s

/-- The slots from a place on that nobody has locked. -/
def vacant (l : Link) (k : Nat) : Finset Nat :=
  (Finset.range l.size).filter fun s => k ≤ s ∧ l.holder? s = none

theorem exists_of_mem_holds {h : Hold} (m : h ∈ l.holds) : ∃ x, l.hold x = h := by
  rcases List.mem_append.1 m with m | m
  · obtain ⟨n, e⟩ := List.mem_iff_getElem?.1 m
    exact ⟨.call n, by rw [hold, ← List.getElem?_map, e]; rfl⟩
  · obtain ⟨i, e⟩ := List.mem_iff_getElem?.1 m
    exact ⟨.closer i, by rw [hold, ← List.getElem?_map, e]; rfl⟩

section Custody

variable (cu : l.Custody)
include cu

/-- Of the participants of one kind, one holds a slot if it has locked it, and none otherwise. -/
theorem countP_slot_of_kind (xs : List Hold) {kind : Nat → SlotHolder} (inj : kind.Injective)
    (member : ∀ i, l.hold (kind i) = (xs[i]?).getD .nothing) (s : Nat) :
    (∀ i, l.holder? s = some (kind i) → xs.countP (·.slot? == some s) = 1) ∧
    ((∀ i, l.holder? s ≠ some (kind i)) → xs.countP (·.slot? == some s) = 0) := by
  have locked {j : Nat} {h : Hold} (hj : xs[j]? = some h) (hs : (h.slot? == some s) = true) :
      l.holder? s = some (kind j) :=
    (cu.locks (kind j) s).1 (by rw [member, hj]; exact eq_of_beq hs)
  constructor
  · intro i hi
    have holds := (cu.locks (kind i) s).2 hi
    rw [member] at holds
    cases he : xs[i]? with
    | none => rw [he] at holds; cases holds
    | some h =>
      rw [he] at holds
      exact countP_eq_one he (beq_iff_eq.2 holds) fun j y hj hy =>
        inj (Option.some.inj ((locked hj hy).symm.trans hi))
  · intro none
    refine List.countP_eq_zero.2 fun h m hs => ?_
    obtain ⟨j, hj⟩ := List.mem_iff_getElem?.1 m
    exact none j (locked hj hs)

/-- A slot is held by one participant if it is locked, and by none otherwise. -/
theorem countP_slot (s : Nat) :
    l.holds.countP (·.slot? == some s) = (l.holder? s).isSome.toNat := by
  have calls := countP_slot_of_kind cu (l.calls.map LinkCall.hold)
    (fun _ _ => SlotHolder.call.inj) (fun i => by rw [List.getElem?_map]; rfl) s
  have closers := countP_slot_of_kind cu (l.closers.map CloserStage.hold)
    (fun _ _ => SlotHolder.closer.inj) (fun i => by rw [List.getElem?_map]; rfl) s
  rw [holds, List.countP_append]
  cases hs : l.holder? s with
  | none =>
    rw [calls.2 (by simp [hs]), closers.2 (by simp [hs])]
    rfl
  | some x =>
    cases x with
    | call n =>
      rw [calls.1 n hs, closers.2 (by simp [hs])]
      rfl
    | closer i =>
      rw [calls.2 (by simp [hs]), closers.1 i hs]
      rfl

/-- There is one connection for a slot at most. -/
theorem owned_le_one (s : Nat) : l.owned s ≤ 1 := by
  have one := countP_slot cu s
  have le : l.holds.countP (fun h => h.connection?.isSome && h.slot? == some s) ≤
      l.holds.countP (·.slot? == some s) :=
    List.countP_mono_left fun h _ p => (Bool.and_eq_true _ _ ▸ p).2
  rw [owned]
  cases hp : l.parked? s with
  | none =>
    have := Bool.toNat_le (l.holder? s).isSome
    simp only [Option.isSome_none, Bool.toNat_false]
    omega
  | some k =>
    rw [List.countP_eq_zero.2]
    · rfl
    · -- A connection that was taken out has left its slot empty.
      intro h m p
      obtain ⟨x, rfl⟩ := exists_of_mem_holds m
      rw [Bool.and_eq_true, beq_iff_eq] at p
      have emptied := cu.emptied x s (Hold.emptied?_of_connection? p.1 p.2)
      exact nomatch hp.symm.trans emptied

theorem lt_size_of_mem_holds {h : Hold} (m : h ∈ l.holds) {s : Nat} (hs : h.slot? = some s) :
    s < l.size := by
  obtain ⟨x, rfl⟩ := exists_of_mem_holds m
  exact cu.lt_size s hs

/-- Whoever holds a connection holds one that is counted. -/
theorem openCount_pos {x : SlotHolder} {s k : Nat} (e : l.hold x = .connection s k) :
    0 < l.openCount := by
  have m : .connection s k ∈ l.holds := by
    rw [← e]
    exact hold_mem_holds (by rw [e]; nofun)
  rw [cu.counted, custodians]
  exact Nat.lt_of_lt_of_le (List.countP_pos_iff.2 ⟨_, m, rfl⟩) (Nat.le_add_left ..)

/-- The connections are those of the slots. -/
theorem openCount_eq_sum : l.openCount = ∑ s ∈ Finset.range l.size, l.owned s := by
  have held : l.holds.countP (·.connection?.any fun _ => true) =
      ∑ s ∈ Finset.range l.size,
        l.holds.countP fun h => h.connection?.isSome && h.slot? == some s := by
    have sums := sum_countP l.holds (fun h => h.connection?.bind fun _ => h.slot?)
      (m := l.size) fun h m s hs => by
        obtain ⟨k, -, hs⟩ := Option.bind_eq_some_iff.1 hs
        exact lt_size_of_mem_holds cu m hs
    have some (h : Hold) :
        (h.connection?.bind fun _ => h.slot?).isSome = h.connection?.any fun _ => true := by
      cases h <;> rfl
    have place (h : Hold) s : ((h.connection?.bind fun _ => h.slot?) == Option.some s) =
        (h.connection?.isSome && h.slot? == Option.some s) := by
      cases h <;> rfl
    simp only [some, place] at sums
    exact sums.symm
  have parked : l.slots.countP (·.parked.any fun _ => true) =
      ∑ s ∈ Finset.range l.size, (l.parked? s).isSome.toNat := by
    rw [countP_eq_sum]
    refine Finset.sum_congr rfl fun s _ => ?_
    rw [parked?]
    cases l.slots[s]? with
    | none => rfl
    | some slot => cases h : slot.parked <;> simp [h]
  rw [cu.counted, custodians, parked, held, ← Finset.sum_add_distrib]
  rfl

/-- There are not more connections than slots. -/
theorem openCount_le_size : l.openCount ≤ l.size := by
  rw [openCount_eq_sum cu]
  calc ∑ s ∈ Finset.range l.size, l.owned s
      ≤ ∑ _s ∈ Finset.range l.size, 1 := Finset.sum_le_sum fun s _ => owned_le_one cu s
    _ = l.size := by rw [← Finset.card_eq_sum_ones, Finset.card_range]

/-- The connections that are counted are those that are open. -/
theorem openCount_eq_countP_isOpen : l.openCount = l.connections.countP Connection.isOpen := by
  have parked (p : Option Nat) (k : Nat) : (p == some k) = p.any (· == k) := by cases p <;> rfl
  -- A connection with an owner is there, since it is open.
  have bound {k : Nat} (owned : 0 < l.custodians (· == k)) : k < l.connections.length := by
    refine Nat.lt_of_not_le fun le => ?_
    rw [cu.owners k, isOpenAt, List.getElem?_eq_none le] at owned
    cases owned
  have slots := sum_countP l.slots Slot.parked (m := l.connections.length)
    fun slot m k hk => bound (Nat.lt_of_lt_of_le
      (List.countP_pos_iff.2 ⟨slot, m, by rw [hk]; exact beq_self_eq_true k⟩) (Nat.le_add_right ..))
  have holds := sum_countP l.holds Hold.connection? (m := l.connections.length)
    fun h m k hk => bound (Nat.lt_of_lt_of_le
      (List.countP_pos_iff.2 ⟨h, m, by rw [hk]; exact beq_self_eq_true k⟩) (Nat.le_add_left ..))
  simp only [parked, isSome_eq_any] at slots holds
  rw [cu.counted, custodians, ← slots, ← holds, ← Finset.sum_add_distrib, countP_eq_sum]
  refine Finset.sum_congr rfl fun k _ => ?_
  have owners := cu.owners k
  rw [custodians] at owners
  rw [owners, isOpenAt]
  cases l.connections[k]? <;> rfl

/-- As many slots are locked as are held. -/
theorem countP_locked : l.slots.countP (·.holder.isSome) = l.holds.countP (·.slot?.isSome) := by
  rw [countP_eq_sum, ← sum_countP _ _ (m := l.size) fun h m s => lt_size_of_mem_holds cu m]
  refine Finset.sum_congr rfl fun s _ => ?_
  rw [countP_slot cu, holder?]
  cases l.slots[s]? <;> rfl

omit cu in
/-- A slot is locked or not. -/
theorem card_vacant_add (l : Link) :
    (l.vacant 0).card + l.slots.countP (·.holder.isSome) = l.size := by
  rw [vacant, Finset.card_filter, countP_eq_sum]
  calc _ = ∑ s ∈ Finset.range l.size, ((if 0 ≤ s ∧ l.holder? s = none then 1 else 0) +
          ((l.slots[s]?).any (·.holder.isSome)).toNat) := Finset.sum_add_distrib.symm
    _ = ∑ _s ∈ Finset.range l.size, 1 := Finset.sum_congr rfl fun s _ => by
          rw [holder?]
          cases l.slots[s]? with
          | none => rfl
          | some slot => cases h : slot.holder <;> simp [h]
    _ = l.size := by rw [← Finset.card_eq_sum_ones, Finset.card_range]

/-- While no attempt to close the link holds a slot, there are as many slots that nobody has locked
as there are calls with a permit and without a slot. -/
theorem waiting_le_vacant (calm : ∀ c ∈ l.closers, c.hold = .nothing) :
    l.calls.countP LinkCall.isWaiting ≤ (l.vacant 0).card := by
  have size := card_vacant_add l
  have permits := cu.permits
  have locked := countP_locked cu
  have closers : (l.closers.map CloserStage.hold).countP (·.slot?.isSome) = 0 := by
    rw [List.countP_map, List.countP_eq_zero]
    intro c hc
    simp [calm c hc, Hold.slot?]
  rw [holds, List.countP_append, closers, List.countP_map] at locked
  have apart : l.calls.countP LinkCall.isWaiting +
      l.calls.countP ((fun h => h.slot?.isSome) ∘ LinkCall.hold) ≤
        l.calls.countP LinkCall.hasPermit :=
    countP_add_le fun c _ => by
      unfold LinkCall.isWaiting LinkCall.hasPermit
      rw [Function.comp_apply, LinkCall.hold]
      cases c.stage <;> simp [CallStage.hold, CallStage.hasPermit, Hold.slot?]
  omega

end Custody

end Link

end PanelScript
