import PanelScript.Proofs.Link.Move

/-!
# Trades of slots and connections

A call holds a slot, then a connection besides; an attempt to close the link holds a slot and the
connection that it has taken out of it. A step of either is one trade: a slot is locked or unlocked,
or a connection changes hands.

* `Hold` is what a participant holds, and `Trade` how a step changes it;
* `CallMove.trade` and `CloserMove.trade`: a step does no more than its trade;
* `Trade.holders`, `Trade.parked`, `Trade.emptied` and `Trade.connections` are what becomes of the
  slots and the connections.
-/

namespace PanelScript

/-- What a call or an attempt to close the link holds, apart from permits. -/
inductive Hold where
  | nothing
  | slot (s : Nat)
  /-- A slot with no connection in it. -/
  | emptied (s : Nat)
  /-- A slot, and the connection that belongs to it. -/
  | connection (s k : Nat)
  deriving DecidableEq

namespace Hold

/-- The slot that is held. -/
def slot? : Hold → Option Nat
  | .nothing => none
  | .slot s | .emptied s | .connection s _ => some s

/-- The slot that is held and has no connection in it. -/
def emptied? : Hold → Option Nat
  | .emptied s | .connection s _ => some s
  | _ => none

/-- The connection that is held. -/
def connection? : Hold → Option Nat
  | .connection _ k => some k
  | _ => none

/-- A slot, and the connection that was taken out of it. -/
def ofTaken (s : Nat) : Option Nat → Hold
  | some k => .connection s k
  | none => .emptied s

theorem slot?_of_emptied? {h : Hold} {s : Nat} (e : h.emptied? = some s) : h.slot? = some s := by
  cases h <;> first | exact e | cases e

theorem emptied?_of_connection? {h : Hold} {s : Nat} (e : h.connection?.isSome = true)
    (hs : h.slot? = some s) : h.emptied? = some s := by
  cases h <;> first | exact hs | cases e

@[simp] theorem slot?_ofTaken (s : Nat) (parked : Option Nat) :
    (ofTaken s parked).slot? = some s := by
  cases parked <;> rfl

@[simp] theorem connection?_ofTaken (s : Nat) (parked : Option Nat) :
    (ofTaken s parked).connection? = parked := by
  cases parked <;> rfl

end Hold

/-- What a call holds at a stage. -/
def CallStage.hold : CallStage → Hold
  | .leased s | .unlocking s _ => .slot s
  | .connecting s => .emptied s
  | .announcing s k | .sending s k | .receiving s k | .parking s k _ | .failing s k _
  | .hangingUp s k _ | .letting s k _ => .connection s k
  | _ => .nothing

/-- What an attempt to close the link holds at a stage. -/
def CloserStage.hold : CloserStage → Hold
  | .closing s parked => .ofTaken s parked
  | _ => .nothing

/-- What a call holds. -/
def LinkCall.hold (c : LinkCall) : Hold := c.stage.hold

namespace Link

variable {l l' t : Link}

/-- Whether a connection is open on this side. -/
def isOpenAt (l : Link) (k : Nat) : Bool := ((l.connections[k]?).map Connection.isOpen).getD false

/-! ### Slots and connections -/

theorem isUnlocked_iff {s : Nat} : l.isUnlocked s = true ↔ s < l.size ∧ l.holder? s = none := by
  unfold isUnlocked holder? size
  split
  · rename_i slot hs
    have lt : s < l.slots.length := (List.getElem?_eq_some_iff.1 hs).1
    simp only [hs, lt, true_and, Option.bind_some, Option.isNone_iff_eq_none]
  · rename_i hs
    have ge : ¬ s < l.slots.length := Nat.not_lt.2 (List.getElem?_eq_none_iff.1 hs)
    simp only [ge, false_and, Bool.false_eq_true]

theorem lt_size_of_holder? {s : Nat} {x : SlotHolder} (h : l.holder? s = some x) : s < l.size := by
  obtain ⟨slot, hs, -⟩ := Option.bind_eq_some_iff.1 h
  exact (List.getElem?_eq_some_iff.1 hs).1

theorem lt_size_of_parked? {s k : Nat} (h : l.parked? s = some k) : s < l.size := by
  obtain ⟨slot, hs, -⟩ := Option.bind_eq_some_iff.1 h
  exact (List.getElem?_eq_some_iff.1 hs).1

section Setting

variable {s : Nat} (hs : s < l.size)
include hs

theorem slots_setHolder (x : Option SlotHolder) :
    (l.setHolder s x).slots = l.slots.set s ⟨x, l.parked? s⟩ := by
  simp only [setHolder, parked?, List.getElem?_eq_getElem (show s < l.slots.length from hs)]
  rfl

theorem slots_setParked (x : Option Nat) :
    (l.setParked s x).slots = l.slots.set s ⟨l.holder? s, x⟩ := by
  simp only [setParked, holder?, List.getElem?_eq_getElem (show s < l.slots.length from hs)]
  rfl

theorem getElem?_slots : l.slots[s]? = some ⟨l.holder? s, l.parked? s⟩ := by
  simp only [holder?, parked?, List.getElem?_eq_getElem (show s < l.slots.length from hs)]
  rfl

theorem holder?_setHolder (x : Option SlotHolder) (s' : Nat) :
    (l.setHolder s x).holder? s' = if s' = s then x else l.holder? s' := by
  rw [holder?, slots_setHolder hs, getElem?_set_ite hs]
  split <;> rfl

theorem parked?_setParked (x : Option Nat) (s' : Nat) :
    (l.setParked s x).parked? s' = if s' = s then x else l.parked? s' := by
  rw [parked?, slots_setParked hs, getElem?_set_ite hs]
  split <;> rfl

theorem holder?_setParked (x : Option Nat) (s' : Nat) :
    (l.setParked s x).holder? s' = l.holder? s' := by
  rw [holder?, slots_setParked hs, getElem?_set_ite hs]
  split
  · rename_i e
    rw [e]
    rfl
  · rfl

theorem parked?_setHolder (x : Option SlotHolder) (s' : Nat) :
    (l.setHolder s x).parked? s' = l.parked? s' := by
  rw [parked?, slots_setHolder hs, getElem?_set_ite hs]
  split
  · rename_i e
    rw [e]
    rfl
  · rfl

theorem countP_setHolder (x : Option SlotHolder) (p : Nat → Bool) :
    (l.setHolder s x).slots.countP (·.parked.any p) = l.slots.countP (·.parked.any p) := by
  rw [slots_setHolder hs]
  exact Nat.add_right_cancel
    (countP_set_add (getElem?_slots hs) ⟨x, l.parked? s⟩ (·.parked.any p))

theorem countP_setParked (x : Option Nat) (p : Nat → Bool) :
    (l.setParked s x).slots.countP (·.parked.any p) + ((l.parked? s).any p).toNat =
      l.slots.countP (·.parked.any p) + (x.any p).toNat := by
  rw [slots_setParked hs]
  exact countP_set_add (getElem?_slots hs) ⟨l.holder? s, x⟩ (·.parked.any p)

end Setting

theorem connections_setConnection {k : Nat} {c : Connection} (h : l.connections[k]? = some c)
    (f : Connection → Connection) :
    (l.setConnection k f).connections = l.connections.set k (f c) := by
  simp only [setConnection, h]

theorem setConnection_of_none {k : Nat} (h : l.connections[k]? = none)
    (f : Connection → Connection) : l.setConnection k f = l := by
  simp only [setConnection, h]

theorem isOpenAt_setConnection (l : Link) (k : Nat) {f : Connection → Connection}
    (same : ∀ c, (f c).isOpen = c.isOpen) (k' : Nat) :
    (l.setConnection k f).isOpenAt k' = l.isOpenAt k' := by
  cases hc : l.connections[k]? with
  | none => rw [setConnection_of_none hc]
  | some c =>
    rw [isOpenAt, connections_setConnection hc,
      getElem?_set_ite (List.getElem?_eq_some_iff.1 hc).1]
    split
    · rename_i e
      rw [e, isOpenAt, hc]
      exact same c
    · rfl

theorem isOpenAt_letGo (l : Link) (k k' : Nat) :
    (l.letGo k).isOpenAt k' = if k' = k then false else l.isOpenAt k' := by
  unfold letGo isOpenAt
  cases hc : l.connections[k]? with
  | none =>
    rw [setConnection_of_none hc]
    split
    · rename_i e
      rw [e, hc]
      rfl
    · rfl
  | some c =>
    rw [connections_setConnection hc, getElem?_set_ite (List.getElem?_eq_some_iff.1 hc).1]
    split <;> rfl

theorem isOpenAt_opened (l : Link) (k : Nat) :
    l.opened.isOpenAt k = if k = l.connections.length then true else l.isOpenAt k := by
  rw [isOpenAt, opened, getElem?_concat_ite]
  split <;> rfl

theorem isOpenAt_length (l : Link) : l.isOpenAt l.connections.length = false := by
  rw [isOpenAt, List.getElem?_eq_none (Nat.le_refl _)]
  rfl

/-! ### Trades -/

/-- Slots and connections stay as they are. -/
structure Stays (l l' : Link) : Prop where
  slots : l'.slots = l.slots
  openCount : l'.openCount = l.openCount
  isOpenAt : ∀ k, l'.isOpenAt k = l.isOpenAt k

/-- How a step of a participant changes what it holds, and slots and connections with it. -/
inductive Trade (x : SlotHolder) (l : Link) : Hold → Hold → Link → Prop
  | keep {h : Hold} : Trade x l h h l
  | lock {s : Nat} (hu : l.isUnlocked s = true) :
      Trade x l .nothing (.slot s) (l.setHolder s (some x))
  | seize {s : Nat} {parked : Option Nat} (hs : l.slots[s]? = some ⟨none, parked⟩) :
      Trade x l .nothing (.ofTaken s parked) ((l.setParked s none).setHolder s (some x))
  | take {s k : Nat} (hk : l.parked? s = some k) :
      Trade x l (.slot s) (.connection s k) (l.setParked s none)
  | dial {s : Nat} (hk : l.parked? s = none) : Trade x l (.slot s) (.emptied s) l
  | connect {s : Nat} : Trade x l (.emptied s) (.connection s l.connections.length) l.opened
  | miss {s : Nat} : Trade x l (.emptied s) (.slot s) l
  | park {s k : Nat} : Trade x l (.connection s k) (.slot s) (l.setParked s (some k))
  | letGo {s k : Nat} {h : Hold} (hs : h.slot? = some s) (hk : h.connection? = none) :
      Trade x l (.connection s k) h (l.letGo k)
  | unlock {s : Nat} {h : Hold} (hs : h.slot? = some s) (hk : h.connection? = none) :
      Trade x l h .nothing (l.setHolder s none)

theorem Stays.refl (l : Link) : l.Stays l := ⟨rfl, rfl, fun _ => rfl⟩

theorem stays_setConnection (l : Link) (k : Nat) {f : Connection → Connection}
    (same : ∀ c, (f c).isOpen = c.isOpen) : l.Stays (l.setConnection k f) := by
  refine ⟨?_, ?_, isOpenAt_setConnection l k same⟩ <;> rw [setConnection_eq]

/-- A step of a call is a trade. -/
theorem CallMove.trade {n : Nat} {a : LinkAction} {c c' : LinkCall} (m : CallMove n l c a c' l') :
    ∃ t, Trade (.call n) l c.hold c'.hold t ∧ t.Stays l' := by
  unfold LinkCall.hold
  cases m with
  | find h | start h | misfire h | comeUp h | skip h | refuse h | enter h | deny h | permit h
  | exhaust h | pass h | announce h | jam h | report h | hangUp h | giveBack h | retry h | fail h
  | succeed h | timeOut h | vanish h | quitStarting h | quitStanding h =>
    rw [h]
    exact ⟨l, .keep, ⟨rfl, rfl, fun _ => rfl⟩⟩
  | write h | answer h | fault h =>
    rw [h]
    exact ⟨l, .keep, stays_setConnection l _ fun _ => rfl⟩
  | ignore h => exact ⟨l, .keep, stays_setConnection l _ fun _ => rfl⟩
  | quitEarly h =>
    rcases h with h | h <;> rw [h] <;> exact ⟨l, .keep, .refl l⟩
  | quitTalking h =>
    rcases h with h | h | ⟨_, h⟩ <;> rw [h] <;> exact ⟨l, .keep, .refl l⟩
  | lock h hu =>
    rcases h with h | ⟨h, -⟩ <;> rw [h] <;> exact ⟨_, .lock hu, .refl _⟩
  | take h hk =>
    rw [h]
    exact ⟨_, .take hk, .refl _⟩
  | dial h hk =>
    rw [h]
    exact ⟨_, .dial hk, .refl _⟩
  | connect h =>
    rw [h]
    exact ⟨_, .connect, .refl _⟩
  | miss h | quitConnecting h =>
    rw [h]
    exact ⟨_, .miss, .refl _⟩
  | park h =>
    rw [h]
    exact ⟨_, .park, .refl _⟩
  | letGo h =>
    rw [h]
    exact ⟨_, .letGo rfl rfl, .refl _⟩
  | unlock h =>
    rw [h]
    exact ⟨_, .unlock rfl rfl, .refl _⟩

/-- A step of an attempt to close the link is a trade. -/
theorem CloserMove.trade {i : Nat} {c c' : CloserStage} (m : CloserMove i l c c' l') :
    ∃ t, Trade (.closer i) l c.hold c'.hold t ∧ t.Stays l' := by
  cases m with
  | flag | shut | swept | finish | seize | kill => exact ⟨l, .keep, ⟨rfl, rfl, fun _ => rfl⟩⟩
  | take h => exact ⟨_, .seize h, .refl _⟩
  | letGo => exact ⟨_, .letGo rfl rfl, .refl _⟩
  | unlock => exact ⟨_, .unlock rfl rfl, .refl _⟩

section Trade

variable {x : SlotHolder} {h h' : Hold}

/-- A participant locks a slot that is free, or unlocks its own, or leaves the locks as they are. -/
theorem Trade.holders (tr : Trade x l h h' t) (own : ∀ s, h.slot? = some s → s < l.size) :
    (h'.slot? = h.slot? ∧ ∀ s, t.holder? s = l.holder? s) ∨
    (∃ s, h.slot? = none ∧ h'.slot? = some s ∧ l.holder? s = none ∧
      ∀ s', t.holder? s' = if s' = s then some x else l.holder? s') ∨
    ∃ s, h.slot? = some s ∧ h'.slot? = none ∧
      ∀ s', t.holder? s' = if s' = s then none else l.holder? s' := by
  cases tr with
  | keep | dial | connect | miss => exact .inl ⟨rfl, fun _ => rfl⟩
  | take | park => exact .inl ⟨rfl, holder?_setParked (own _ rfl) _⟩
  | letGo hs => exact .inl ⟨hs, fun s => by rw [letGo_eq]; rfl⟩
  | lock hu =>
    obtain ⟨lt, free⟩ := isUnlocked_iff.1 hu
    exact .inr (.inl ⟨_, rfl, rfl, free, holder?_setHolder lt _⟩)
  | @seize s parked hs =>
    have lt : s < l.size := (List.getElem?_eq_some_iff.1 hs).1
    refine .inr (.inl ⟨s, rfl, Hold.slot?_ofTaken s parked, by rw [holder?, hs]; rfl, fun s' => ?_⟩)
    rw [holder?_setHolder (by rw [size_setParked]; exact lt), holder?_setParked lt]
  | unlock hs => exact .inr (.inr ⟨_, hs, rfl, holder?_setHolder (own _ hs) _⟩)

/-- Only in a slot that a participant holds does it put a connection or take one out. -/
theorem Trade.parked (tr : Trade x l h h' t) (own : ∀ s, h.slot? = some s → s < l.size) (s : Nat)
    (other : h.slot? ≠ some s) : t.parked? s = l.parked? s ∨ h'.slot? = some s := by
  cases tr with
  | keep | dial | connect | miss => exact .inl rfl
  | take | park =>
    rw [parked?_setParked (own _ rfl), if_neg fun e => other (congrArg some e.symm)]
    exact .inl rfl
  | letGo => exact .inl (by rw [letGo_eq]; rfl)
  | lock hu => exact .inl (parked?_setHolder (isUnlocked_iff.1 hu).1 _ _)
  | @seize s₀ parked hs =>
    have lt : s₀ < l.size := (List.getElem?_eq_some_iff.1 hs).1
    rw [parked?_setHolder (by rw [size_setParked]; exact lt), parked?_setParked lt,
      Hold.slot?_ofTaken]
    split
    · rename_i e
      exact .inr (congrArg some e.symm)
    · exact .inl rfl
  | unlock hs => exact .inl (parked?_setHolder (own _ hs) _ _)

/-- The slot that a participant has emptied is empty. -/
theorem Trade.emptied (tr : Trade x l h h' t) (own : ∀ s, h.slot? = some s → s < l.size)
    (before : ∀ s, h.emptied? = some s → l.parked? s = none) (s : Nat)
    (after : h'.emptied? = some s) : t.parked? s = none := by
  cases tr with
  | keep | connect => exact before s after
  | take =>
    obtain rfl := Option.some.inj after
    rw [parked?_setParked (own _ rfl), if_pos rfl]
  | dial hk =>
    obtain rfl := Option.some.inj after
    exact hk
  | @seize s₀ parked hs =>
    have lt : s₀ < l.size := (List.getElem?_eq_some_iff.1 hs).1
    have e : s = s₀ := by
      have := Hold.slot?_of_emptied? after
      rw [Hold.slot?_ofTaken] at this
      exact (Option.some.inj this).symm
    rw [parked?_setHolder (by rw [size_setParked]; exact lt), parked?_setParked lt, if_pos e]
  | letGo hs =>
    rw [letGo_eq]
    exact before s (hs.symm.trans (Hold.slot?_of_emptied? after))
  | lock | miss | park | unlock => cases after

/-- A connection goes from its slot to a participant or back, or is opened, or is given up. -/
theorem Trade.connections (tr : Trade x l h h' t) (own : ∀ s, h.slot? = some s → s < l.size)
    (before : ∀ s, h.emptied? = some s → l.parked? s = none) :
    ((∀ p, t.slots.countP (·.parked.any p) + (h'.connection?.any p).toNat =
        l.slots.countP (·.parked.any p) + (h.connection?.any p).toNat) ∧
      t.openCount = l.openCount ∧ ∀ k, t.isOpenAt k = l.isOpenAt k) ∨
    (∃ k, h.connection? = none ∧ h'.connection? = some k ∧ l.isOpenAt k = false ∧
      t.slots = l.slots ∧ t.openCount = l.openCount + 1 ∧
      ∀ k', t.isOpenAt k' = if k' = k then true else l.isOpenAt k') ∨
    ∃ k, h.connection? = some k ∧ h'.connection? = none ∧
      t.slots = l.slots ∧ t.openCount = l.openCount - 1 ∧
      ∀ k', t.isOpenAt k' = if k' = k then false else l.isOpenAt k' := by
  cases tr with
  | keep => exact .inl ⟨fun _ => rfl, rfl, fun _ => rfl⟩
  | dial | miss => exact .inl ⟨fun _ => rfl, rfl, fun _ => rfl⟩
  | lock hu =>
    refine .inl ⟨fun p => ?_, by rw [setHolder_eq], fun k => by rw [setHolder_eq]; rfl⟩
    rw [countP_setHolder (isUnlocked_iff.1 hu).1]
    rfl
  | unlock hs hk =>
    refine .inl ⟨fun p => ?_, by rw [setHolder_eq], fun k => by rw [setHolder_eq]; rfl⟩
    rw [countP_setHolder (own _ hs), hk]
    rfl
  | @take s k hk =>
    refine .inl ⟨fun p => ?_, by rw [setParked_eq], fun k => by rw [setParked_eq]; rfl⟩
    have := countP_setParked (own s rfl) none p
    rw [hk] at this
    exact this
  | @park s k =>
    refine .inl ⟨fun p => ?_, by rw [setParked_eq], fun k => by rw [setParked_eq]; rfl⟩
    have := countP_setParked (own s rfl) (some k) p
    rw [before s rfl] at this
    simpa [Hold.connection?] using this
  | @seize s parked hs =>
    have lt : s < l.size := (List.getElem?_eq_some_iff.1 hs).1
    have found : l.parked? s = parked := by rw [parked?, hs]; rfl
    refine .inl ⟨fun p => ?_, by rw [setHolder_eq, setParked_eq],
      fun k => by rw [setHolder_eq, setParked_eq]; rfl⟩
    have := countP_setParked lt none p
    rw [countP_setHolder (by rw [size_setParked]; exact lt), Hold.connection?_ofTaken]
    rw [found] at this
    exact this
  | connect =>
    exact .inr (.inl ⟨_, rfl, rfl, isOpenAt_length l, rfl, rfl, isOpenAt_opened l⟩)
  | letGo _ hk =>
    exact .inr (.inr ⟨_, rfl, hk, by rw [letGo_eq], by rw [letGo_eq], isOpenAt_letGo l _⟩)

end Trade

end Link

end PanelScript
