import PanelScript.Proofs.Link.Trade

/-!
# Who holds what on a link

Permits, slots and connections are given out and come back. The holder of a slot is the one that
holds it, and every open connection is parked in a slot or held by one participant.

* `Custody` is the invariant: permits are neither made nor lost, a slot is locked by the one that
  holds it, and a connection has an owner just as long as it is open;
* `Move.trade`: an action is a trade of one participant, and the others keep what they hold;
* `custody`: the invariant holds in every state of a link.
-/

namespace PanelScript

/-- Whether a call holds a permit at a stage. -/
def CallStage.hasPermit : CallStage → Bool
  | .launching | .starting | .entering | .queued | .settled _ | .finished _ => false
  | _ => true

/-- Without a permit nothing else is held. -/
theorem CallStage.hold_of_no_permit {stage : CallStage} (h : stage.hasPermit = false) :
    stage.hold = .nothing := by
  cases stage <;> first | rfl | cases h

/-- Whether a call holds a permit. -/
def LinkCall.hasPermit (c : LinkCall) : Bool := c.stage.hasPermit

namespace Link

variable {settings : GatewaySettings} {l l' t : Link}

/-- What a participant holds. -/
def hold (l : Link) : SlotHolder → Hold
  | .call n => ((l.calls[n]?).map LinkCall.hold).getD .nothing
  | .closer i => ((l.closers[i]?).map CloserStage.hold).getD .nothing

/-- What all participants hold. -/
def holds (l : Link) : List Hold := l.calls.map LinkCall.hold ++ l.closers.map CloserStage.hold

/-- How many parked connections, and connections held by participants, are of a kind. -/
def custodians (p : Nat → Bool) (l : Link) : Nat :=
  l.slots.countP (·.parked.any p) + l.holds.countP (·.connection?.any p)

theorem isSome_eq_any (o : Option Nat) : o.isSome = o.any fun _ => true := by
  cases o <;> rfl

/-- What is kept at every time: permits are neither made nor lost, a slot is locked by the one that
holds it, and a connection is open just as long as it has an owner. -/
structure Custody (l : Link) : Prop where
  permits : l.free + l.calls.countP LinkCall.hasPermit = l.size
  locks : ∀ x s, (l.hold x).slot? = some s ↔ l.holder? s = some x
  emptied : ∀ x s, (l.hold x).emptied? = some s → l.parked? s = none
  owners : ∀ k, l.custodians (· == k) = (l.isOpenAt k).toNat
  counted : l.openCount = l.custodians fun _ => true

/-! ### One participant trades -/

/-- A participant has put what it holds to another hold, and the others hold what they held. -/
structure Swap (x : SlotHolder) (h : Hold) (l l' : Link) : Prop where
  hold : ∀ y, l'.hold y = if y = x then h else l.hold y
  count : ∀ p : Hold → Bool, p .nothing = false →
    l'.holds.countP p + (p (l.hold x)).toNat = l.holds.countP p + (p h).toNat

/-- Nobody holds anything else than before. -/
theorem Swap.refl (x : SlotHolder) {l l' : Link} (hc : l'.calls = l.calls)
    (hs : l'.closers = l.closers) : Swap x (l.hold x) l l' := by
  have same : l'.hold = l.hold := by funext y; cases y <;> simp only [Link.hold, hc, hs]
  refine ⟨fun y => ?_, fun p _ => by rw [holds, hc, hs]; rfl⟩
  rw [same]
  split
  · rename_i e
    rw [e]
  · rfl

theorem hold_call {n : Nat} {c : LinkCall} (h : l.calls[n]? = some c) :
    l.hold (.call n) = c.hold := by
  rw [hold, h]
  rfl

theorem hold_closer {i : Nat} {c : CloserStage} (h : l.closers[i]? = some c) :
    l.hold (.closer i) = c.hold := by
  rw [hold, h]
  rfl

theorem Swap.of_calls {n : Nat} {c : LinkCall} (hs : l'.closers = l.closers)
    (place : ∀ m, l'.calls[m]? = if m = n then some c else l.calls[m]?)
    (count : ∀ p : Hold → Bool, p .nothing = false →
      (l'.calls.map LinkCall.hold).countP p + (p (l.hold (.call n))).toNat =
        (l.calls.map LinkCall.hold).countP p + (p c.hold).toNat) :
    Swap (.call n) c.hold l l' := by
  refine ⟨fun y => ?_, fun p hp => ?_⟩
  · cases y with
    | call m =>
      rw [Link.hold, place]
      simp only [SlotHolder.call.injEq]
      split <;> rfl
    | closer i => rw [Link.hold, hs, if_neg nofun]; rfl
  · have := count p hp
    rw [holds, holds, hs, List.countP_append, List.countP_append]
    omega

theorem Swap.of_closers {i : Nat} {c : CloserStage} (hc : l'.calls = l.calls)
    (place : ∀ j, l'.closers[j]? = if j = i then some c else l.closers[j]?)
    (count : ∀ p : Hold → Bool, p .nothing = false →
      (l'.closers.map CloserStage.hold).countP p + (p (l.hold (.closer i))).toNat =
        (l.closers.map CloserStage.hold).countP p + (p c.hold).toNat) :
    Swap (.closer i) c.hold l l' := by
  refine ⟨fun y => ?_, fun p hp => ?_⟩
  · cases y with
    | call n => rw [Link.hold, hc, if_neg nofun]; rfl
    | closer j =>
      rw [Link.hold, place]
      simp only [SlotHolder.closer.injEq]
      split <;> rfl
  · have := count p hp
    rw [holds, holds, hc, List.countP_append, List.countP_append]
    omega

theorem swap_call {n : Nat} {c c' : LinkCall} (h : l.calls[n]? = some c)
    (hs : l'.closers = l.closers) (hc : l'.calls = l.calls.set n c') :
    Swap (.call n) c'.hold l l' := by
  refine .of_calls hs (fun m => ?_) fun p _ => ?_
  · rw [hc, getElem?_set_ite (List.getElem?_eq_some_iff.1 h).1]
  · rw [hold_call h, hc, List.map_set]
    exact countP_set_add (by rw [List.getElem?_map, h]; rfl) c'.hold p

theorem swap_closer {i : Nat} {c c' : CloserStage} (h : l.closers[i]? = some c)
    (hc : l'.calls = l.calls) (hs : l'.closers = l.closers.set i c') :
    Swap (.closer i) c'.hold l l' := by
  refine .of_closers hc (fun j => ?_) fun p _ => ?_
  · rw [hs, getElem?_set_ite (List.getElem?_eq_some_iff.1 h).1]
  · rw [hold_closer h, hs, List.map_set]
    exact countP_set_add (by rw [List.getElem?_map, h]; rfl) c'.hold p

/-- A call that begins holds nothing. -/
theorem swap_invoke (l : Link) (request : InvokeRequest) :
    Swap (.call l.calls.length) .nothing l (l.invoke request) := by
  refine Swap.of_calls (c := ⟨request, 1, .launching, none⟩) rfl (getElem?_concat_ite l.calls _)
    fun p hp => ?_
  have none : l.hold (.call l.calls.length) = .nothing := by
    rw [hold, List.getElem?_eq_none (Nat.le_refl _)]
    rfl
  rw [none, invoke, List.map_append, List.map_singleton, countP_concat]
  simp only [LinkCall.hold, CallStage.hold, hp, Bool.toNat_false, Nat.add_zero]

/-- An attempt to close the link that begins holds nothing. -/
theorem swap_close (l : Link) : Swap (.closer l.closers.length) .nothing l l.beginClose := by
  refine Swap.of_closers (c := .entering) rfl (getElem?_concat_ite l.closers _) fun p hp => ?_
  have none : l.hold (.closer l.closers.length) = .nothing := by
    rw [hold, List.getElem?_eq_none (Nat.le_refl _)]
    rfl
  rw [none, beginClose, List.map_append, List.map_singleton, countP_concat]
  simp only [CloserStage.hold, hp, Bool.toNat_false, Nat.add_zero]

theorem Stays.trans {l₁ l₂ l₃ : Link} (h : l₁.Stays l₂) (h' : l₂.Stays l₃) : l₁.Stays l₃ :=
  ⟨h'.slots.trans h.slots, h'.openCount.trans h.openCount,
    fun k => (h'.isOpenAt k).trans (h.isOpenAt k)⟩

/-- Every action is a trade of one participant. -/
theorem Move.trade {a : LinkAction} (m : Move a l l') :
    ∃ x h t, Trade x l (l.hold x) h t ∧ t.Stays l' ∧ Swap x h l l' := by
  cases m with
  | invoke request =>
    refine ⟨.call l.calls.length, .nothing, l, ?_, ⟨rfl, rfl, fun _ => rfl⟩, swap_invoke l request⟩
    rw [hold, List.getElem?_eq_none (Nat.le_refl _)]
    exact .keep
  | close =>
    refine ⟨.closer l.closers.length, .nothing, l, ?_, ⟨rfl, rfl, fun _ => rfl⟩, swap_close l⟩
    rw [hold, List.getElem?_eq_none (Nat.le_refl _)]
    exact .keep
  | call h m =>
    obtain ⟨t, tr, st⟩ := m.trade
    rw [← hold_call h] at tr
    exact ⟨_, _, t, tr, st.trans ⟨rfl, rfl, fun _ => rfl⟩, swap_call h m.apart.closers rfl⟩
  | closer h m =>
    obtain ⟨t, tr, st⟩ := m.trade
    rw [← hold_closer h] at tr
    exact ⟨_, _, t, tr, st.trans ⟨rfl, rfl, fun _ => rfl⟩, swap_closer h m.calls rfl⟩
  | arrive a =>
    refine ⟨.call 0, _, l, .keep, stays_setConnection l _ fun _ => rfl, .refl _ ?_ ?_⟩ <;>
      rw [setConnection_eq]
  | exit => exact ⟨.call 0, _, l, .keep, ⟨rfl, rfl, fun _ => rfl⟩, .refl _ rfl rfl⟩

/-- Permits are given to calls and taken back from them. -/
theorem CallMove.free {n : Nat} {a : LinkAction} {c c' : LinkCall} (m : CallMove n l c a c' l') :
    l'.free + c'.hasPermit.toNat = l.free + c.hasPermit.toNat := by
  unfold LinkCall.hasPermit
  cases m with
  | permit h _ hf =>
    rw [h]
    simp only [CallStage.hasPermit, Bool.toNat_true, Bool.toNat_false]
    omega
  | lock h =>
    rw [setHolder_eq]
    rcases h with h | ⟨h, -⟩ <;> rw [h] <;> rfl
  | unlock h => rw [setHolder_eq, h]; rfl
  | take h | park h => rw [setParked_eq, h]; rfl
  | write h | answer h | fault h => rw [setConnection_eq, h]; rfl
  | ignore => rw [setConnection_eq]
  | letGo h => rw [letGo_eq, h]; rfl
  | quitEarly h => rcases h with h | h <;> rw [h] <;> rfl
  | quitTalking h => rcases h with h | h | ⟨_, h⟩ <;> rw [h] <;> rfl
  | find h | start h | misfire h | comeUp h | skip h | refuse h | enter h | deny h | exhaust h
  | pass h | dial h | connect h | miss h | announce h | jam h | report h | hangUp h | giveBack h
  | retry h | fail h | succeed h | timeOut h | vanish h | quitStarting h | quitStanding h
  | quitConnecting h => rw [h]; rfl

theorem CloserMove.free {i : Nat} {c c' : CloserStage} (m : CloserMove i l c c' l') :
    l'.free = l.free := by
  cases m with
  | take => rw [setHolder_eq, setParked_eq]
  | letGo => rw [letGo_eq]
  | unlock => rw [setHolder_eq]
  | flag | shut | swept | finish | seize | kill => rfl

/-- A permit is free or held by a call. -/
theorem Move.permits {a : LinkAction} (m : Move a l l') :
    l'.free + l'.calls.countP LinkCall.hasPermit = l.free + l.calls.countP LinkCall.hasPermit := by
  cases m with
  | invoke request =>
    rw [Link.invoke, countP_concat]
    rfl
  | @call _ _ _ _ c c' h m =>
    have moved := m.free
    have counted := countP_set_add h c' LinkCall.hasPermit
    simp only
    omega
  | closer h m => rw [m.free, m.calls]
  | arrive => rw [setConnection_eq]
  | close | exit => rfl

/-! ### The invariant is kept -/

theorem Stays.size (st : l.Stays l') : l'.size = l.size := congrArg List.length st.slots

theorem Stays.holder? (st : l.Stays l') (s : Nat) : l'.holder? s = l.holder? s := by
  rw [Link.holder?, st.slots]
  rfl

theorem Stays.parked? (st : l.Stays l') (s : Nat) : l'.parked? s = l.parked? s := by
  rw [Link.parked?, st.slots]
  rfl

theorem Trade.size {x : SlotHolder} {h h' : Hold} (tr : Trade x l h h' t) : t.size = l.size := by
  cases tr with
  | lock | unlock => exact size_setHolder ..
  | take | park => exact size_setParked ..
  | seize => rw [size_setHolder, size_setParked]
  | letGo => rw [letGo_eq]; rfl
  | keep | dial | connect | miss => rfl

/-- The number of slots never changes. -/
theorem Move.size {a : LinkAction} (m : Move a l l') : l'.size = l.size := by
  obtain ⟨x, h, t, tr, st, -⟩ := m.trade
  exact st.size.trans tr.size

section Custody

variable {x : SlotHolder} {h : Hold}

/-- A slot that is held is there. -/
theorem Custody.lt_size (cu : l.Custody) (s : Nat) (hs : (l.hold x).slot? = some s) : s < l.size :=
  lt_size_of_holder? ((cu.locks x s).1 hs)

theorem Custody.locks_of_trade (cu : l.Custody) (tr : Trade x l (l.hold x) h t) (st : t.Stays l')
    (sw : Swap x h l l') (y : SlotHolder) (s : Nat) :
    (l'.hold y).slot? = some s ↔ l'.holder? s = some y := by
  rw [st.holder?, sw.hold]
  have mine := cu.locks x s
  have old := cu.locks y s
  rcases tr.holders cu.lt_size with ⟨same, holder⟩ | ⟨s₀, none, lock, free, holder⟩ |
    ⟨s₀, held, unlock, holder⟩
  · rw [holder]
    split
    · rename_i e
      rw [same, e]
      exact mine
    · exact old
  · rw [holder]
    grind
  · rw [holder]
    have := (cu.locks x s₀).1 held
    grind

theorem Custody.emptied_of_trade (cu : l.Custody) (tr : Trade x l (l.hold x) h t) (st : t.Stays l')
    (sw : Swap x h l l') (y : SlotHolder) (s : Nat) (e : (l'.hold y).emptied? = some s) :
    l'.parked? s = none := by
  rw [st.parked?]
  by_cases hy : y = x
  · rw [sw.hold, if_pos hy] at e
    exact tr.emptied cu.lt_size (cu.emptied x) s e
  · -- The slot is held by another participant, before and after.
    have kept : l'.hold y = l.hold y := by rw [sw.hold, if_neg hy]
    have mine := cu.locks_of_trade tr st sw
    have ne {s} (hs : (l.hold x).slot? = some s) : (l.hold y).slot? ≠ some s := fun hs' =>
      hy (Option.some.inj (((cu.locks y s).1 hs').symm.trans ((cu.locks x s).1 hs)))
    rw [kept] at e
    have held := Hold.slot?_of_emptied? e
    rcases tr.parked cu.lt_size s fun hs => ne hs held with same | own
    · rw [same]
      exact cu.emptied y s e
    · have hx : l'.hold x = h := by rw [sw.hold, if_pos rfl]
      have := (mine x s).1 (by rw [hx]; exact own)
      rw [(mine y s).1 (by rw [kept]; exact held)] at this
      exact absurd (Option.some.inj this) hy

/-- How the owners of connections of a kind change. -/
theorem custodians_of_trade (st : t.Stays l') (sw : Swap x h l l') (p : Nat → Bool) :
    l'.custodians p + ((l.hold x).connection?.any p).toNat + l.slots.countP (·.parked.any p) =
      l.custodians p + (h.connection?.any p).toNat + t.slots.countP (·.parked.any p) := by
  have := sw.count (·.connection?.any p) rfl
  rw [custodians, custodians, st.slots]
  omega

theorem Custody.owners_of_trade (cu : l.Custody) (tr : Trade x l (l.hold x) h t) (st : t.Stays l')
    (sw : Swap x h l l') (k : Nat) : l'.custodians (· == k) = (l'.isOpenAt k).toNat := by
  have total := custodians_of_trade st sw (· == k)
  have before := cu.owners k
  rw [st.isOpenAt]
  rcases tr.connections cu.lt_size (cu.emptied x) with ⟨slots, -, same⟩ |
    ⟨k₀, none, some, shut, slots, -, isOpen⟩ | ⟨k₀, some, none, slots, -, isOpen⟩
  · have := slots (· == k)
    rw [same]
    omega
  all_goals
    rw [none, some, slots] at total
    simp only [Option.any_none, Option.any_some, Bool.toNat_false] at total
    rw [isOpen]
    by_cases e : k = k₀
  · rw [e, shut] at before
    rw [if_pos e, e]
    simp only [e, beq_self_eq_true, Bool.toNat_true, Bool.toNat_false] at total before ⊢
    omega
  · rw [if_neg e]
    simp only [beq_false_of_ne (Ne.symm e), Bool.toNat_false] at total
    omega
  · have := Bool.toNat_le (l.isOpenAt k₀)
    rw [if_pos e, e]
    simp only [e, beq_self_eq_true, Bool.toNat_true, Bool.toNat_false] at total before ⊢
    omega
  · rw [if_neg e]
    simp only [beq_false_of_ne (Ne.symm e), Bool.toNat_false] at total
    omega

theorem Custody.counted_of_trade (cu : l.Custody) (tr : Trade x l (l.hold x) h t) (st : t.Stays l')
    (sw : Swap x h l l') : l'.openCount = l'.custodians fun _ => true := by
  have total := custodians_of_trade st sw fun _ => true
  have before := cu.counted
  rw [st.openCount]
  rcases tr.connections cu.lt_size (cu.emptied x) with ⟨slots, same, -⟩ |
    ⟨k₀, none, some, -, slots, more, -⟩ | ⟨k₀, some, none, slots, less, -⟩
  · have := slots fun _ => true
    omega
  · rw [none, some, slots] at total
    simp only [Option.any_none, Option.any_some, Bool.toNat_true, Bool.toNat_false] at total
    omega
  · rw [none, some, slots] at total
    simp only [Option.any_none, Option.any_some, Bool.toNat_true, Bool.toNat_false] at total
    omega

/-- Every action keeps it. -/
theorem Custody.move {a : LinkAction} (cu : l.Custody) (m : Move a l l') : l'.Custody := by
  obtain ⟨x, h, t, tr, st, sw⟩ := m.trade
  exact {
    permits := by rw [m.permits, m.size, cu.permits]
    locks := cu.locks_of_trade tr st sw
    emptied := cu.emptied_of_trade tr st sw
    owners := cu.owners_of_trade tr st sw
    counted := cu.counted_of_trade tr st sw }

end Custody

/-- A new link has its permits and empty slots, and nobody holds anything. -/
theorem custody_ofSettings (settings : GatewaySettings) : (ofSettings settings).Custody where
  permits := by simp [ofSettings, size]
  locks := by
    intro x s
    have hx : (ofSettings settings).hold x = .nothing := by cases x <;> rfl
    have hs : (ofSettings settings).holder? s = none := by
      simp only [holder?, ofSettings, List.getElem?_replicate]
      split <;> rfl
    rw [hx, hs]
    simp [Hold.slot?]
  emptied := by
    intro x s e
    have hx : (ofSettings settings).hold x = .nothing := by cases x <;> rfl
    rw [hx] at e
    cases e
  owners := by
    intro k
    simp [custodians, holds, ofSettings, isOpenAt, List.countP_replicate, Slot.empty]
  counted := by simp [custodians, holds, ofSettings, List.countP_replicate, Slot.empty]

/-- It holds in every state of a link. -/
theorem custody (h : Reachable settings l) : l.Custody :=
  h.of_moves (custody_ofSettings settings) fun _ _ _ m cu => cu.move m

/-! ### Who has a connection -/

/-- The place of a participant among all. -/
def place (l : Link) : SlotHolder → Nat
  | .call n => n
  | .closer i => l.calls.length + i

theorem lt_length_of_hold {n : Nat} (h : l.hold (.call n) ≠ .nothing) : n < l.calls.length := by
  refine Nat.lt_of_not_le fun le => h ?_
  rw [hold, List.getElem?_eq_none le]
  rfl

theorem getElem?_holds {x : SlotHolder} (h : l.hold x ≠ .nothing) :
    l.holds[l.place x]? = some (l.hold x) := by
  have found {α : Type} {o : Option α} {f : α → Hold} (ne : (o.map f).getD .nothing ≠ .nothing) :
      o.map f = some ((o.map f).getD .nothing) := by
    cases o with
    | none => exact absurd rfl ne
    | some a => rfl
  cases x with
  | call n =>
    have lt := lt_length_of_hold h
    rw [holds, place, List.getElem?_append_left (by rwa [List.length_map]), List.getElem?_map]
    exact found h
  | closer i =>
    rw [holds, place, List.getElem?_append_right (by rw [List.length_map]; omega),
      List.length_map, Nat.add_sub_cancel_left, List.getElem?_map]
    exact found h

theorem hold_mem_holds {x : SlotHolder} (h : l.hold x ≠ .nothing) : l.hold x ∈ l.holds :=
  List.mem_of_getElem? (getElem?_holds h)

theorem place_inj {x y : SlotHolder} (hx : l.hold x ≠ .nothing) (hy : l.hold y ≠ .nothing)
    (e : l.place x = l.place y) : x = y := by
  cases x with
  | call n =>
    cases y with
    | call m => exact congrArg _ e
    | closer i =>
      have : n = l.calls.length + i := e
      have := lt_length_of_hold hx
      omega
  | closer i =>
    cases y with
    | call n =>
      have : l.calls.length + i = n := e
      have := lt_length_of_hold hy
      omega
    | closer j => exact congrArg _ (Nat.add_left_cancel e)

section Owners

variable (cu : l.Custody) {x y : SlotHolder} {s k : Nat}
include cu

theorem Custody.custodians_le_one (k : Nat) : l.custodians (· == k) ≤ 1 := by
  rw [cu.owners k]
  exact Bool.toNat_le _

omit cu in
theorem ne_nothing_of_connection? (hx : (l.hold x).connection? = some k) : l.hold x ≠ .nothing := by
  intro e
  rw [e] at hx
  cases hx

/-- A connection that is parked is held by nobody. -/
theorem Custody.parked_apart (hp : l.parked? s = some k) : (l.hold x).connection? ≠ some k := by
  intro hx
  have one := cu.custodians_le_one k
  have lt := lt_size_of_parked? hp
  have parked : 0 < l.slots.countP (·.parked.any (· == k)) :=
    List.countP_pos_iff.2 ⟨_, List.mem_of_getElem? (getElem?_slots lt), by simp [hp]⟩
  have held : 0 < l.holds.countP (·.connection?.any (· == k)) :=
    List.countP_pos_iff.2
      ⟨_, hold_mem_holds (ne_nothing_of_connection? hx), by simp [hx]⟩
  rw [custodians] at one
  omega

/-- A connection is held by one participant at most. -/
theorem Custody.held_apart (hx : (l.hold x).connection? = some k)
    (hy : (l.hold y).connection? = some k) : x = y := by
  have one := cu.custodians_le_one k
  have nx := ne_nothing_of_connection? hx
  have ny := ne_nothing_of_connection? hy
  refine Decidable.byContradiction fun ne => ?_
  have two := two_le_countP (p := (·.connection?.any (· == k))) (getElem?_holds nx)
    (getElem?_holds ny) (fun e => ne (place_inj nx ny e)) (by simp [hx]) (by simp [hy])
  rw [custodians] at one
  omega

end Owners

theorem size_of_reachable (h : Reachable settings l) : l.size = max settings.poolSize 1 :=
  h.of_moves (P := fun l => l.size = max settings.poolSize 1) (by simp [ofSettings, size])
    fun _ _ _ m e => m.size.trans e

end Link

end PanelScript
