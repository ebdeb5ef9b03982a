import PanelScript.Proofs.Link.Balance

/-!
# Closing a link

An attempt to close the link closes the permits first and empties the slots then, one after the
other. A call that has its permit by then and no slot yet comes to a slot that was emptied before,
and leaves a connection behind.

* `Late` bounds what calls leave behind the attempts to close the link;
* `Barred` is where a call can be that began when the link was closed already;
* `closing_leaves`: once a link was closed, there are not more connections than calls were between
  their permit and their slot when its permits were closed, and calls that begin are turned away;
* `connection_left_open`: such a call does leave a connection behind.
-/

namespace PanelScript

/-- How many slots an attempt to close the link has emptied. -/
def CloserStage.passed (size : Nat) : CloserStage → Nat
  | .entering | .flagged => 0
  | .sweeping s | .closing s _ => s
  | .stopping | .killing _ | .returned => size

/-- An attempt to close the link has emptied the slots. -/
def CloserStage.isDone : CloserStage → Bool
  | .stopping | .killing _ | .returned => true
  | _ => false

/-- The verdict that an attempt ends with. -/
def AttemptEnd.verdict? : AttemptEnd → Option Verdict
  | .decided v => some v
  | .abandoned (some elapsed) => some (.error (.timeout elapsed))
  | .abandoned none => none

/-- How a call ends that is turned away: the link is closed, unless the process could not be started
before or nobody waits for the call any more. -/
inductive TurnedAway (launches : Bool) : AttemptEnd → Prop
  | closed : TurnedAway launches (.decided (.error .closed))
  | unlaunched (message : String) (h : launches = true) :
      TurnedAway launches (.decided (.error (.launch message)))
  | abandoned (expired : Option Nat) : TurnedAway launches (.abandoned expired)

/-- Where a call can be that is turned away. -/
inductive Barred (launches : Bool) : CallStage → Prop
  | launching : Barred launches .launching
  | starting : Barred launches .starting
  | entering : Barred launches .entering
  | settled {ending : AttemptEnd} (h : TurnedAway launches ending) :
      Barred launches (.settled ending)
  | finished {ending : AttemptEnd} (h : TurnedAway launches ending) :
      Barred launches (.finished ending.verdict?)

namespace Link

variable {settings : GatewaySettings} {l l' t : Link} {late : Nat}

/-- Whether a call has locked a slot, or a connection is parked in it. -/
def isTaken (l : Link) (s : Nat) : Bool :=
  (l.parked? s).isSome || match l.holder? s with
    | some (.call _) => true
    | _ => false

/-- The slots before a place that are taken. -/
def takenBefore (l : Link) (k : Nat) : Finset Nat := (Finset.range k).filter (l.isTaken · = true)

/-- With the permits closed, the slots that were emptied and are taken again, and the calls that can
take one yet, are not more than a number. -/
structure Late (late : Nat) (l : Link) : Prop where
  shut : l.permitsClosed = true
  waiting : l.calls.countP LinkCall.isWaiting ≤ late
  emptied : ∀ c ∈ l.closers,
    (l.takenBefore (c.passed l.size)).card + l.calls.countP LinkCall.isWaiting ≤ late

/-! ### Slots that are taken -/

theorem isTaken_iff {s : Nat} :
    l.isTaken s = true ↔ (∃ k, l.parked? s = some k) ∨ ∃ n, l.holder? s = some (.call n) := by
  rw [isTaken, Bool.or_eq_true, Option.isSome_iff_exists]
  refine or_congr_right ?_
  split
  · rename_i n e
    simp [e]
  · rename_i other
    simp only [Bool.false_eq_true, false_iff, not_exists]
    exact other

theorem takenBefore_subset (h : ∀ s, l'.isTaken s = true → l.isTaken s = true) (k : Nat) :
    l'.takenBefore k ⊆ l.takenBefore k :=
  Finset.monotone_filter_right _ fun s _ => h s

theorem isTaken_congr (hp : ∀ s, l'.parked? s = l.parked? s) (hh : ∀ s, l'.holder? s = l.holder? s)
    {s : Nat} (h : l'.isTaken s = true) : l.isTaken s = true := by
  rwa [isTaken, hp, hh] at h

/-- A call takes a slot that it locks, and none besides. -/
theorem isTaken_of_trade {n : Nat} {h : Hold} (tr : Trade (.call n) l (l.hold (.call n)) h t)
    (cu : l.Custody) :
    (∀ s, t.isTaken s = true → l.isTaken s = true) ∨
    ∃ s₀, (l.hold (.call n)).slot? = none ∧ h.slot? = some s₀ ∧
      ∀ s, t.isTaken s = true → s = s₀ ∨ l.isTaken s = true := by
  have own := cu.lt_size (x := .call n)
  have mine {s : Nat} (hs : (l.hold (.call n)).slot? = some s) : l.isTaken s = true :=
    isTaken_iff.2 (.inr ⟨n, (cu.locks _ s).1 hs⟩)
  rcases tr.holders own with ⟨same, holder⟩ | ⟨s₀, none, lock, -, holder⟩ | ⟨s₀, -, none, holder⟩
  · refine .inl fun s ht => ?_
    by_cases hs : (l.hold (.call n)).slot? = some s
    · exact mine hs
    · have parked := (tr.parked own s hs).resolve_right (by rw [same]; exact hs)
      rwa [isTaken, parked, holder] at ht
  · refine .inr ⟨s₀, none, lock, fun s ht => ?_⟩
    by_cases e : s = s₀
    · exact .inl e
    · have parked := (tr.parked own s (by rw [none]; nofun)).resolve_right fun hs =>
        e (Option.some.inj (hs.symm.trans lock))
      rw [isTaken, parked, holder, if_neg e] at ht
      exact .inr ht
  · refine .inl fun s ht => ?_
    by_cases hs : (l.hold (.call n)).slot? = some s
    · exact mine hs
    · have parked := (tr.parked own s hs).resolve_right (by rw [none]; nofun)
      rw [isTaken_iff, parked, holder] at ht
      refine isTaken_iff.2 (ht.imp_right fun ⟨m, hm⟩ => ⟨m, ?_⟩)
      split at hm
      · cases hm
      · exact hm

/-- An attempt to close the link takes no slot. -/
theorem isTaken_of_closer {i : Nat} {c c' : CloserStage} (m : CloserMove i l c c' l')
    (cu : l.Custody) (hc : l.closers[i]? = some c) {s : Nat} (ht : l'.isTaken s = true) :
    l.isTaken s = true := by
  cases m with
  | flag | shut | swept | finish | seize | kill => exact ht
  | letGo =>
    rw [letGo_eq] at ht
    exact ht
  | @take s₀ parked hs =>
    have lt : s₀ < l.size := (List.getElem?_eq_some_iff.1 hs).1
    have lt' : s₀ < (l.setParked s₀ none).size := by rw [size_setParked]; exact lt
    rw [isTaken_iff, parked?_setHolder lt', parked?_setParked lt, holder?_setHolder lt',
      holder?_setParked lt] at ht
    refine isTaken_iff.2 (ht.imp (fun ⟨k, hk⟩ => ⟨k, ?_⟩) fun ⟨n, hn⟩ => ⟨n, ?_⟩)
    · split at hk
      · cases hk
      · exact hk
    · split at hn
      · cases hn
      · exact hn
  | @unlock s₀ =>
    have lt : s₀ < l.size := cu.lt_size (x := .closer i) s₀ (by rw [hold_closer hc]; rfl)
    rw [isTaken_iff, parked?_setHolder lt, holder?_setHolder lt] at ht
    refine isTaken_iff.2 (ht.imp_right fun ⟨n, hn⟩ => ⟨n, ?_⟩)
    split at hn
    · cases hn
    · exact hn

/-- The slot that an attempt to close the link is about to leave is not taken. -/
theorem isTaken_of_closing {i s : Nat} {parked : Option Nat} (cu : l.Custody)
    (hc : l.closers[i]? = some (.closing s parked)) : l.isTaken s = false := by
  have hold : l.hold (.closer i) = .ofTaken s parked := hold_closer hc
  have holder := (cu.locks (.closer i) s).1 (by rw [hold, Hold.slot?_ofTaken])
  have none := cu.emptied (.closer i) s (by rw [hold]; cases parked <;> rfl)
  rw [isTaken, holder, none]
  rfl

/-! ### What is left behind -/

/-- With the permits closed no call begins to wait, and one that locks a slot does not wait any
more. -/
theorem Seek.waiting {n : Nat} {c c' : LinkCall} (sk : Seek l c c' l')
    (hc : l.calls[n]? = some c) (shut : l.permitsClosed = true) :
    (l.calls.set n c').countP LinkCall.isWaiting ≤ l.calls.countP LinkCall.isWaiting ∧
    ∀ s, c.hold.slot? = none → c'.hold.slot? = some s →
      (l.calls.set n c').countP LinkCall.isWaiting + 1 = l.calls.countP LinkCall.isWaiting := by
  have counted := countP_set_add hc c' LinkCall.isWaiting
  cases sk with
  | enter _ _ open_ => rw [shut] at open_; cases open_
  | @pass s h h' =>
    rw [LinkCall.isWaiting_iff.2 (.inl ⟨s, h⟩), LinkCall.isWaiting_iff.2 (.inl ⟨_, h'⟩)] at counted
    refine ⟨Nat.le_of_add_le_add_right (Nat.le_of_eq counted), fun _ _ hs => ?_⟩
    rw [LinkCall.hold, h'] at hs
    cases hs
  | @exhaust s h _ h' =>
    rw [LinkCall.isWaiting_iff.2 (.inl ⟨s, h⟩), LinkCall.isWaiting_iff.2 (.inr h')] at counted
    refine ⟨Nat.le_of_add_le_add_right (Nat.le_of_eq counted), fun _ _ hs => ?_⟩
    rw [LinkCall.hold, h'] at hs
    cases hs
  | @lock s h h' =>
    rw [LinkCall.isWaiting_iff.2 (h.imp_left fun h => ⟨s, h⟩), h'] at counted
    simp only [Bool.toNat_true, Bool.toNat_false] at counted
    exact ⟨by omega, fun _ _ _ => by omega⟩
  | other _ h' keep =>
    rw [h'] at counted
    refine ⟨Nat.le_of_add_right_le (Nat.le_of_eq counted), fun s none hs => ?_⟩
    rw [keep s hs] at none
    cases none

/-- A call that takes a slot does not wait for one any more. -/
theorem CallMove.card_takenBefore {n : Nat} {a : LinkAction} {c c' : LinkCall}
    (m : CallMove n l c a c' l') (hc : l.calls[n]? = some c) (cu : l.Custody)
    (shut : l.permitsClosed = true) (k : Nat) :
    (l'.takenBefore k).card + (l.calls.set n c').countP LinkCall.isWaiting ≤
      (l.takenBefore k).card + l.calls.countP LinkCall.isWaiting := by
  obtain ⟨fewer, taking⟩ := (m.seek hc cu).waiting hc shut
  obtain ⟨t, tr, st⟩ := m.trade
  have taken {s : Nat} : l'.isTaken s = true → t.isTaken s = true :=
    isTaken_congr st.parked? st.holder?
  rw [← hold_call hc] at tr
  rcases isTaken_of_trade tr cu with less | ⟨s₀, none, lock, one⟩
  · exact Nat.add_le_add
      (Finset.card_le_card (takenBefore_subset (fun s hs => less s (taken hs)) k)) fewer
  · have more : (l'.takenBefore k).card ≤ (l.takenBefore k).card + 1 := by
      refine Nat.le_trans (Finset.card_le_card fun s hs => ?_) (Finset.card_insert_le s₀ _)
      rw [takenBefore, Finset.mem_filter] at hs
      rw [Finset.mem_insert, takenBefore, Finset.mem_filter]
      exact (one s (taken hs.2)).imp_right fun old => ⟨hs.1, old⟩
    rw [hold_call hc] at none
    have := taking s₀ none lock
    omega

theorem Late.of_call {n : Nat} {a : LinkAction} {c c' : LinkCall} (lt : Late late l)
    (hc : l.calls[n]? = some c) (m : CallMove n l c a c' l') (cu : l.Custody) :
    Late late { l' with calls := l.calls.set n c' } where
  shut := m.apart.permitsClosed.trans lt.shut
  waiting := Nat.le_trans ((m.seek hc cu).waiting hc lt.shut).1 lt.waiting
  emptied x hx := by
    have size : l'.size = l.size := (Move.call hc m).size
    have hx : x ∈ l.closers := by rw [← m.apart.closers]; exact hx
    change (l'.takenBefore (x.passed l'.size)).card + _ ≤ late
    rw [size]
    exact Nat.le_trans (m.card_takenBefore hc cu lt.shut (x.passed l.size)) (lt.emptied x hx)

/-- An attempt to close the link passes no slot that is taken. -/
theorem CloserMove.takenBefore_passed {i : Nat} {c c' : CloserStage} (m : CloserMove i l c c' l')
    (cu : l.Custody) (hc : l.closers[i]? = some c) :
    l'.takenBefore (c'.passed l.size) ⊆ l.takenBefore (c.passed l.size) := by
  have less {s : Nat} : l'.isTaken s = true → l.isTaken s = true := isTaken_of_closer m cu hc
  intro s hs
  rw [takenBefore, Finset.mem_filter, Finset.mem_range] at hs ⊢
  refine ⟨?_, less hs.2⟩
  cases m with
  | flag | shut | take | letGo | finish | seize | kill => exact hs.1
  | swept le => exact Nat.lt_of_lt_of_le hs.1 le
  | @unlock s₀ =>
    refine Nat.lt_of_le_of_ne (Nat.le_of_lt_succ hs.1) fun (e : s = s₀) => ?_
    have taken := less hs.2
    rw [e, isTaken_of_closing cu hc] at taken
    cases taken

theorem Late.of_closer {i : Nat} {c c' : CloserStage} (lt : Late late l)
    (hc : l.closers[i]? = some c) (m : CloserMove i l c c' l') (cu : l.Custody) :
    Late late { l' with closers := l.closers.set i c' } where
  shut := by
    rcases m.permitsClosed with same | ⟨-, -, rfl⟩
    · exact same.trans lt.shut
    · rfl
  waiting := by rw [m.calls]; exact lt.waiting
  emptied x hx := by
    have size : l'.size = l.size := (Move.closer hc m).size
    change (l'.takenBefore (x.passed l'.size)).card + l'.calls.countP LinkCall.isWaiting ≤ late
    rw [size, m.calls]
    rcases List.mem_or_eq_of_mem_set hx with old | rfl
    · have less := takenBefore_subset (fun s hs => isTaken_of_closer m cu hc (s := s) hs)
      exact Nat.le_trans (Nat.add_le_add_right (Finset.card_le_card (less _)) _) (lt.emptied x old)
    · exact Nat.le_trans
        (Nat.add_le_add_right (Finset.card_le_card (m.takenBefore_passed cu hc)) _)
        (lt.emptied c (List.mem_of_getElem? hc))

theorem Late.move {a : LinkAction} (lt : Late late l) (m : Move a l l') (cu : l.Custody) :
    Late late l' := by
  cases m with
  | invoke request =>
    have waiting : (l.invoke request).calls.countP LinkCall.isWaiting =
        l.calls.countP LinkCall.isWaiting := by
      rw [Link.invoke, countP_concat]
      rfl
    exact ⟨lt.shut, waiting ▸ lt.waiting, waiting ▸ lt.emptied⟩
  | call hc m => exact lt.of_call hc m cu
  | closer hc m => exact lt.of_closer hc m cu
  | arrive =>
    rw [setConnection_eq]
    exact ⟨lt.shut, lt.waiting, lt.emptied⟩
  | close =>
    refine ⟨lt.shut, lt.waiting, fun c hc => ?_⟩
    rcases List.mem_append.1 hc with old | new
    · exact lt.emptied c old
    · rw [List.mem_singleton.1 new]
      have none : l.beginClose.takenBefore 0 = ∅ := rfl
      rw [CloserStage.passed, none, Finset.card_empty, Nat.zero_add]
      exact lt.waiting
  | exit => exact ⟨lt.shut, lt.waiting, lt.emptied⟩

/-- The permits are closed by an attempt that has marked the link closed. -/
theorem eq_of_shut {i : Nat} (open_ : l.permitsClosed = false) (hs : step (.sweep i) l = some l')
    (shut : l'.permitsClosed = true) :
    l.closers[i]? = some .flagged ∧
      l' = { l with permitsClosed := true, closers := l.closers.set i (.sweeping 0) } := by
  cases move_of_step hs with
  | call _ m => rw [m.apart.permitsClosed, open_] at shut; cases shut
  | closer hc m =>
    rcases m.permitsClosed with same | ⟨rfl, rfl, rfl⟩
    · rw [same, open_] at shut
      cases shut
    · exact ⟨hc, rfl⟩

/-- When the permits are closed, those calls are late that wait for a slot. -/
theorem late_of_shut {i : Nat} (o : l.Orderly) :
    Late (l.calls.countP LinkCall.isWaiting)
      { l with permitsClosed := true, closers := l.closers.set i (.sweeping 0) } := by
  refine ⟨rfl, Nat.le_refl _, fun x hx => ?_⟩
  have none : x.passed l.size = 0 := by
    rcases List.mem_or_eq_of_mem_set hx with old | rfl
    · rcases o.closers x old with rfl | rfl <;> rfl
    · rfl
  change (l.takenBefore (x.passed l.size)).card + _ ≤ _
  rw [none, takenBefore, Finset.range_zero, Finset.filter_empty, Finset.card_empty, Nat.zero_add]

/-! ### Calls that begin afterwards -/

/-- A call that is turned away goes on to its end, and has nothing to do with permits, slots and
connections. -/
theorem CallMove.barred {n : Nat} {a : LinkAction} {c c' : LinkCall} (m : CallMove n l c a c' l')
    (closed : l.closed = true) (b : Barred l.launcher.isSome c.stage) :
    Barred l.launcher.isSome c'.stage ∧ l'.connections = l.connections ∧ l'.slots = l.slots ∧
      l'.free = l.free := by
  cases m with
  | find => exact ⟨.entering, rfl, rfl, rfl⟩
  | start => exact ⟨.starting, rfl, rfl, rfl⟩
  | misfire _ hp _ he =>
    obtain ⟨message, rfl⟩ := Launcher.error_of_ensure he
    exact ⟨.settled (.unlaunched message (by rw [hp]; rfl)), rfl, rfl, rfl⟩
  | comeUp | skip => exact ⟨.entering, rfl, rfl, rfl⟩
  | refuse => exact ⟨.settled .closed, rfl, rfl, rfl⟩
  | enter _ hc => rw [closed] at hc; cases hc
  | retry h hr =>
    rw [h] at b
    cases b with
    | settled turned => cases turned <;> cases hr
  | fail h | succeed h | timeOut h | vanish h =>
    rw [h] at b
    cases b with
    | settled turned => exact ⟨.finished turned, rfl, rfl, rfl⟩
  | quitEarly | quitStarting => exact ⟨.settled (.abandoned _), rfl, rfl, rfl⟩
  | lock h => rcases h with h | ⟨h, -⟩ <;> rw [h] at b <;> cases b
  | quitTalking h => rcases h with h | h | ⟨_, h⟩ <;> rw [h] at b <;> cases b
  | deny h | permit h | exhaust h | pass h | take h | dial h | connect h | miss h | announce h
  | write h | jam h | ignore h | answer h | fault h | park h | report h | hangUp h | letGo h
  | unlock h | giveBack h | quitStanding h | quitConnecting h => rw [h] at b; cases b

theorem Move.launcher {a : LinkAction} (m : Move a l l') :
    l'.launcher.isSome = l.launcher.isSome := by
  cases m with
  | invoke | close => rfl
  | arrive => rw [setConnection_eq]
  | exit _ hp => rw [hp]; rfl
  | call _ m =>
    cases m with
    | find _ hp | start _ hp | misfire _ hp => rw [hp]; rfl
    | lock | unlock => rw [setHolder_eq]
    | take | park => rw [setParked_eq]
    | write | ignore | answer | fault => rw [setConnection_eq]
    | letGo => rw [letGo_eq]
    | _ => rfl
  | closer _ m =>
    cases m with
    | seize hp => rw [hp]; rfl
    | kill => exact Option.isSome_map
    | take => rw [setHolder_eq, setParked_eq]
    | letGo => rw [letGo_eq]
    | unlock => rw [setHolder_eq]
    | flag | shut | swept | finish => rfl

theorem Move.closed {a : LinkAction} (m : Move a l l') (h : l.closed = true) :
    l'.closed = true := by
  cases m with
  | invoke | close | exit => exact h
  | arrive => rwa [setConnection_eq]
  | call _ m => exact m.apart.closed.trans h
  | closer _ m =>
    rcases m.closed with same | closed
    · exact same.trans h
    · exact closed

/-- An attempt to close the link that has gone on has marked it closed. -/
theorem closed_of_flagged (h : Reachable settings l) {c : CloserStage} (hc : c ∈ l.closers)
    (begun : c ≠ .entering) : l.closed = true := by
  refine h.of_moves (P := fun l => ∀ c ∈ l.closers, c ≠ .entering → l.closed = true)
    (fun c hc => absurd hc List.not_mem_nil) (fun a l l' m old c hc begun => ?_) c hc begun
  cases m with
  | invoke | exit => exact old c hc begun
  | call _ m =>
    rw [m.apart.closers] at hc
    exact m.apart.closed.trans (old c hc begun)
  | arrive =>
    rw [setConnection_eq] at hc ⊢
    exact old c hc begun
  | close =>
    rcases List.mem_append.1 hc with before | new
    · exact old c before begun
    · exact absurd (List.mem_singleton.1 new) begun
  | @closer _ _ i c₀ c' h m =>
    have closed (begun : c₀ ≠ .entering) :=
      (Move.closer h m).closed (old c₀ (List.mem_of_getElem? h) begun)
    cases m with
    | flag => rfl
    | shut | take | letGo | unlock | swept | finish | seize | kill => exact closed nofun

/-- A call that has begun after the link was closed is turned away. -/
theorem barred_of_reaches {n : Nat} (closed : l.closed = true) (new : l.calls[n]? = none)
    (r : Machine.Reaches step l t) :
    t.closed = true ∧ t.launcher.isSome = l.launcher.isSome ∧
      ∀ c, t.calls[n]? = some c → Barred t.launcher.isSome c.stage := by
  refine kept_of_reaches (P := fun t => t.closed = true ∧ t.launcher.isSome = l.launcher.isSome ∧
      ∀ c, t.calls[n]? = some c → Barred t.launcher.isSome c.stage) (fun a u v m old => ?_) r
    ⟨closed, rfl, fun c hc => nomatch hc.symm.trans new⟩
  obtain ⟨closed, same, barred⟩ := old
  refine ⟨m.closed closed, m.launcher.trans same, fun c hc => ?_⟩
  rw [m.launcher]
  by_cases ha : a.call? = some n
  · cases m with
    | call h m =>
      obtain rfl := Option.some.inj (m.call?_eq.symm.trans ha)
      rw [List.getElem?_set_self (List.getElem?_eq_some_iff.1 h).1] at hc
      obtain rfl := Option.some.inj hc
      exact (m.barred closed (barred _ h)).1
    | invoke | arrive | close | closer | exit => cases ha
  · rcases m.call_of_other ha with e | ⟨-, request, e⟩
    · exact barred c (e ▸ hc)
    · obtain rfl := Option.some.inj (e.symm.trans hc)
      exact .launching

/-! ### What holds of a link that was closed -/

/-- With nobody under way, all connections are parked. -/
theorem connected_le_card (cu : l.Custody) (ended : ∀ c ∈ l.calls, c.isActive = false)
    (calm : l.isSweeping = false) : l.connected ≤ (l.takenBefore l.size).card := by
  have holds : l.holds.countP (·.connection?.any fun _ => true) = 0 := by
    rw [Link.holds, List.countP_append, List.countP_map, List.countP_map, List.countP_eq_zero.2,
      List.countP_eq_zero.2]
    · intro c hc
      rw [Function.comp_apply, hold_of_quiet calm c hc]
      exact Bool.false_ne_true
    · intro c hc
      have ended := ended c hc
      rw [LinkCall.isActive] at ended
      rw [Function.comp_apply, LinkCall.hold]
      cases e : c.stage with
      | finished v => exact Bool.false_ne_true
      | _ => rw [e] at ended; cases ended
  rw [connected, cu.counted, custodians, holds, Nat.add_zero, countP_eq_sum, takenBefore,
    Finset.card_filter]
  refine Finset.sum_le_sum fun s _ => ?_
  cases hs : l.slots[s]? with
  | none => exact Nat.zero_le _
  | some slot =>
    have parked : l.parked? s = slot.parked := by rw [parked?, hs]; rfl
    cases hp : slot.parked with
    | none => simp [hp]
    | some k =>
      rw [if_pos (isTaken_iff.2 (.inl ⟨k, parked.trans hp⟩))]
      exact Bool.toNat_le _

/-- With nobody under way, a slot that is not taken is empty. -/
theorem slots_empty (cu : l.Custody) (calm : l.isSweeping = false)
    (none : l.takenBefore l.size = ∅) : ∀ s ∈ l.slots, s = .empty := by
  intro slot m
  obtain ⟨s, hs⟩ := List.mem_iff_getElem?.1 m
  have lt : s < l.size := (List.getElem?_eq_some_iff.1 hs).1
  have not : ¬ l.isTaken s = true := fun taken =>
    Finset.eq_empty_iff_forall_notMem.1 none s
      (Finset.mem_filter.2 ⟨Finset.mem_range.2 lt, taken⟩)
  rw [isTaken_iff, not_or, not_exists, not_exists] at not
  have slot_eq : slot = ⟨l.holder? s, l.parked? s⟩ :=
    Option.some.inj (hs.symm.trans (getElem?_slots lt))
  have parked : l.parked? s = Option.none := Option.eq_none_iff_forall_ne_some.2 not.1
  have holder : l.holder? s = Option.none := by
    refine Option.eq_none_iff_forall_ne_some.2 fun x hx => ?_
    cases x with
    | call n => exact not.2 n hx
    | closer i =>
      have held := (cu.locks (.closer i) s).2 hx
      rw [hold] at held
      cases hc : l.closers[i]? with
      | none => rw [hc] at held; cases held
      | some c =>
        rw [hc, Option.map_some, hold_of_quiet calm c (List.mem_of_getElem? hc)] at held
        cases held
  rw [slot_eq, parked, holder]
  rfl

/-- **What closing a link comes to.** Let the permits be closed when some calls have a permit and no
slot yet. Once an attempt to close the link has gone through the slots, not more of them are taken
again than there were such calls; so if nobody is under way, there are not more connections, and
none at all if there was no such call. A call that begins after the link was closed is turned away,
and does nothing to permits, slots and connections. -/
theorem closing_leaves {u v : Link} {i : Nat} (h : Reachable settings u)
    (open_ : u.permitsClosed = false) (hs : step (.sweep i) u = some v)
    (shut : v.permitsClosed = true) (r : Machine.Reaches step v t) :
    ((∃ c ∈ t.closers, c.isDone = true) →
      (t.takenBefore t.size).card + t.calls.countP LinkCall.isWaiting ≤
        u.calls.countP LinkCall.isWaiting ∧
      ((∀ c ∈ t.calls, c.isActive = false) → t.isSweeping = false →
        t.connected ≤ u.calls.countP LinkCall.isWaiting ∧
        (u.calls.countP LinkCall.isWaiting = 0 → ∀ s ∈ t.slots, s = .empty))) ∧
    ∀ n c, u.calls[n]? = none → t.calls[n]? = some c →
      Barred t.launcher.isSome c.stage ∧
      ∀ a t', a.call? = some n → step a t = some t' →
        t'.connections = t.connections ∧ t'.slots = t.slots ∧ t'.free = t.free := by
  have hv : Reachable settings v := h.snoc hs
  obtain ⟨flagged, e⟩ := eq_of_shut open_ hs shut
  have closed : v.closed = true := by
    have marked : u.closed = true := closed_of_flagged h (List.mem_of_getElem? flagged) nofun
    rw [e]
    exact marked
  obtain ⟨cu, lt⟩ := kept_of_reaches (P := fun t => t.Custody ∧
      Late (u.calls.countP LinkCall.isWaiting) t)
    (fun _ _ _ m ⟨cu, lt⟩ => ⟨cu.move m, lt.move m cu⟩) r
    ⟨custody hv, by rw [e]; exact late_of_shut (orderly h open_)⟩
  refine ⟨fun ⟨c, hc, done⟩ => ?_, fun n c new hc => ?_⟩
  · have bound := lt.emptied c hc
    have passed : c.passed t.size = t.size := by cases c <;> first | rfl | cases done
    rw [passed] at bound
    refine ⟨bound, fun ended calm => ⟨?_, fun none => slots_empty cu calm ?_⟩⟩
    · exact Nat.le_trans (connected_le_card cu ended calm) (Nat.le_of_add_right_le bound)
    · exact Finset.card_eq_zero.1 (Nat.le_zero.1 (none ▸ Nat.le_of_add_right_le bound))
  · have new : v.calls[n]? = none := by rw [e]; exact new
    obtain ⟨closed, -, barred⟩ := barred_of_reaches closed new r
    refine ⟨barred c hc, fun a t' ha hs => ?_⟩
    cases move_of_step hs with
    | call h m =>
      obtain rfl := Option.some.inj (m.call?_eq.symm.trans ha)
      exact (m.barred closed (barred _ h)).2
    | invoke | arrive | close | closer | exit => cases ha

/-- A call is under way when the link is marked closed. -/
def sampleFlagged : List LinkAction := sampleOpening 0 ++ [.close, .sweep 0]

/-- The call is given up, the slots are emptied, and another call begins and ends. -/
def sampleSwept : List LinkAction :=
  [.abandon 0 none] ++ List.replicate 4 (.proceed 0) ++ List.replicate 6 (.sweep 0) ++
    [.invoke sampleRequest] ++ List.replicate 3 (.proceed 1)

theorem closing_leaves_sample :
    ∃ u v t, Machine.run step sampleFlagged (ofSettings {}) = some u ∧
      u.permitsClosed = false ∧ u.connected = 1 ∧ step (.sweep 0) u = some v ∧
      Machine.run step sampleSwept v = some t ∧ t.closers = [.returned] ∧ t.connected = 0 ∧
      (∀ s ∈ t.slots, s = .empty) ∧ ∃ c, t.calls[1]? = some c ∧ Barred false c.stage := by
  have run : (Machine.run step sampleFlagged (ofSettings {})).map (fun u =>
      (u.permitsClosed, u.connected, u.calls.countP LinkCall.isWaiting, u.calls.length)) =
      some (false, 1, 0, 1) := by decide +kernel
  have rest : ((Machine.run step sampleFlagged (ofSettings {})).bind fun u =>
      (step (.sweep 0) u).bind fun v => (Machine.run step sampleSwept v).map fun t =>
        (v.permitsClosed, t.closers, t.isSweeping, t.launcher.isSome,
          t.calls.all (!·.isActive), t.calls.length)) =
      some (true, [.returned], false, false, true, 2) := by decide +kernel
  obtain ⟨u, hu, before⟩ := Option.map_eq_some_iff.1 run
  rw [hu, Option.bind_some, Option.bind_eq_some_iff] at rest
  obtain ⟨v, hv, rest⟩ := rest
  obtain ⟨t, ht, after⟩ := Option.map_eq_some_iff.1 rest
  simp only [Prod.mk.injEq] at before after
  obtain ⟨open_, one, none, first⟩ := before
  obtain ⟨shut, closers, calm, bare, ended, second⟩ := after
  obtain ⟨swept, later⟩ := closing_leaves ⟨_, hu⟩ open_ hv shut ⟨_, ht⟩
  obtain ⟨-, parked⟩ := swept ⟨.returned, by rw [closers]; exact List.mem_singleton.2 rfl, rfl⟩
  obtain ⟨few, empty⟩ := parked (by simpa using ended) calm
  have two : 1 < t.calls.length := by rw [second]; decide
  have new : u.calls[1]? = Option.none := List.getElem?_eq_none (Nat.le_of_eq first)
  obtain ⟨barred, -⟩ := later 1 _ new (List.getElem?_eq_getElem two)
  rw [bare] at barred
  exact ⟨u, v, t, hu, open_, one, hv, ht, closers, Nat.le_zero.1 (none ▸ few), empty none, _,
    List.getElem?_eq_getElem two, barred⟩

/-- A call has its permit when the link is closed, finds its slot after it was emptied, and parks a
connection there, which stays. -/
theorem connection_left_open :
    (Machine.run step ([.invoke sampleRequest] ++ List.replicate 3 (.proceed 0) ++ [.close] ++
        List.replicate 8 (.sweep 0) ++ List.replicate 2 (.proceed 0) ++
        [.connect 0 (.ok ()), .proceed 0, .write 0 (.ok ())] ++ sampleEnding 0 0)
      (ofSettings {})).map (fun l =>
        (l.closers, l.calls.map LinkCall.isActive, l.connected, l.slots)) =
      some ([.returned], [false], 1, [⟨none, some 0⟩, .empty]) := by
  decide +kernel

end Link

end PanelScript
