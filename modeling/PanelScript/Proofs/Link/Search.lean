import PanelScript.Proofs.Link.Slots

/-!
# The search for a slot

A call with a permit tries the slots one after the other. While no attempt to close the link sweeps
them, it comes to a slot that nobody has locked, whatever the other calls do meanwhile.

* `quietStep` takes only actions after which nobody sweeps;
* `Orderly`: before the link is closed, from every place on as many slots are vacant as calls search
  from there;
* `Heads`: afterwards, with no permits given out, a call has as many vacant slots before it as calls
  wait for one;
* `search_finds`: a search in quiet times finds a slot.
-/

namespace PanelScript

/-- Whether an attempt to close the link goes through the slots. -/
def CloserStage.isSweeping : CloserStage → Bool
  | .sweeping _ | .closing _ _ => true
  | _ => false

/-- Whether a call tries the slots from a place on. -/
def LinkCall.seeksFrom (k : Nat) (c : LinkCall) : Bool :=
  match c.stage with
  | .searching s => k ≤ s
  | _ => false

namespace LinkCall

theorem seeksFrom_of_stage {c : LinkCall} {s : Nat} (h : c.stage = .searching s) (k : Nat) :
    c.seeksFrom k = decide (k ≤ s) := by
  rw [seeksFrom, h]

theorem seeksFrom_of_not {c : LinkCall} (h : ∀ s, c.stage ≠ .searching s) (k : Nat) :
    c.seeksFrom k = false := by
  unfold seeksFrom
  split
  · rename_i s e
    exact absurd e (h s)
  · rfl

theorem stage_ne_searching {c : LinkCall} (h : c.seeksFrom 0 = false) (s : Nat) :
    c.stage ≠ .searching s := by
  intro e
  rw [seeksFrom_of_stage e, decide_eq_true (Nat.zero_le s)] at h
  cases h

theorem isWaiting_iff {c : LinkCall} :
    c.isWaiting = true ↔ (∃ s, c.stage = .searching s) ∨ c.stage = .standing := by
  unfold isWaiting
  cases c.stage <;> simp

theorem isWaiting_of_seeksFrom {c : LinkCall} {k : Nat} (h : c.seeksFrom k = true) :
    c.isWaiting = true := by
  unfold seeksFrom at h
  unfold isWaiting
  split at h
  · rename_i e
    rw [e]
  · cases h

theorem seeksFrom_of_idle {c : LinkCall} (h : c.isWaiting = false) (k : Nat) :
    c.seeksFrom k = false := by
  refine Bool.eq_false_iff.2 fun seeks => ?_
  rw [isWaiting_of_seeksFrom seeks] at h
  cases h

theorem seeksFrom_antitone {c : LinkCall} {k k' : Nat} (le : k ≤ k') (h : c.seeksFrom k' = true) :
    c.seeksFrom k = true := by
  unfold seeksFrom at *
  split at h
  · exact decide_eq_true (Nat.le_trans le (of_decide_eq_true h))
  · cases h

end LinkCall

namespace Link

variable {settings : GatewaySettings} {l l' t : Link} {n : Nat}

/-- Whether an attempt to close the link goes through the slots. -/
def isSweeping (l : Link) : Bool := l.closers.any CloserStage.isSweeping

/-- What an action does; none also if an attempt to close the link would go through the slots. -/
def quietStep (a : LinkAction) (l : Link) : Option Link :=
  (step a l).filter fun l' => !l'.isSweeping

/-- Before the link is closed nobody sweeps, nobody has searched in vain, and from every place on as
many slots are vacant as calls search from there. -/
structure Orderly (l : Link) : Prop where
  closers : ∀ c ∈ l.closers, c = .entering ∨ c = .flagged
  calls : ∀ c ∈ l.calls, c.stage ≠ .standing
  seekers : ∀ k, l.calls.countP (LinkCall.seeksFrom k) ≤ (l.vacant k).card

/-- A call has not searched in vain, and as many slots are vacant before it as calls wait for
one. -/
def Heads (n : Nat) (l : Link) : Prop :=
  ∀ c, l.calls[n]? = some c → c.stage ≠ .standing ∧
    ∀ s, c.stage = .searching s → l.calls.countP LinkCall.isWaiting ≤ (l.vacant s).card

/-! ### Vacant slots -/

theorem mem_vacant {k s : Nat} : s ∈ l.vacant k ↔ k ≤ s ∧ l.isUnlocked s = true := by
  rw [vacant, Finset.mem_filter, Finset.mem_range, isUnlocked_iff]
  exact and_left_comm

theorem vacant_antitone (l : Link) {k k' : Nat} (h : k ≤ k') : l.vacant k' ⊆ l.vacant k := by
  intro s hs
  rw [mem_vacant] at hs ⊢
  exact ⟨Nat.le_trans h hs.1, hs.2⟩

/-- A slot that is locked makes no difference. -/
theorem vacant_succ {s : Nat} (h : l.isUnlocked s = false) : l.vacant (s + 1) = l.vacant s := by
  refine (vacant_antitone l (Nat.le_succ s)).antisymm fun s' hs => ?_
  rw [mem_vacant] at hs ⊢
  refine ⟨Nat.lt_of_le_of_ne hs.1 fun e => ?_, hs.2⟩
  rw [← e, h] at hs
  exact nomatch hs.2

theorem vacant_of_size_le {s : Nat} (h : l.size ≤ s) : l.vacant s = ∅ := by
  refine Finset.eq_empty_of_forall_notMem fun s' hs => ?_
  rw [mem_vacant, isUnlocked_iff] at hs
  omega

/-- No slot is taken by a participant that keeps the one it has. -/
theorem Trade.vacant_subset {x : SlotHolder} {h h' : Hold} (tr : Trade x l h h' t)
    (st : t.Stays l') (own : ∀ s, h.slot? = some s → s < l.size)
    (keep : ∀ s, h'.slot? = some s → h.slot? = some s) (k : Nat) : l.vacant k ⊆ l'.vacant k := by
  intro s hs
  rw [mem_vacant, isUnlocked_iff] at hs ⊢
  refine ⟨hs.1, by rw [st.size, tr.size]; exact hs.2.1, ?_⟩
  rw [st.holder?]
  rcases tr.holders own with ⟨-, holder⟩ | ⟨s', none, lock, -⟩ | ⟨s', -, -, holder⟩
  · rw [holder]
    exact hs.2.2
  · exact nomatch none.symm.trans (keep s' lock)
  · rw [holder]
    split
    · rfl
    · exact hs.2.2

/-! ### Steps of a search -/

/-- What the step of a call means for the search. -/
inductive Seek (l : Link) (c c' : LinkCall) (l' : Link) : Prop
  | enter (h : c.isWaiting = false) (h' : c'.stage = .searching 0) (hp : l.permitsClosed = false)
      (hv : ∀ k, l'.vacant k = l.vacant k)
  | pass {s : Nat} (h : c.stage = .searching s) (h' : c'.stage = .searching (s + 1))
      (hu : l.isUnlocked s = false) (hv : ∀ k, l'.vacant k = l.vacant k)
  | exhaust {s : Nat} (h : c.stage = .searching s) (hs : l.size ≤ s) (h' : c'.stage = .standing)
      (hv : ∀ k, l'.vacant k = l.vacant k)
  | lock {s : Nat} (h : c.stage = .searching s ∨ c.stage = .standing) (h' : c'.isWaiting = false)
      (hu : l.isUnlocked s = true) (hv : ∀ k, l'.vacant k = (l.vacant k).erase s)
  | other (h : ∀ s, c.stage ≠ .searching s) (h' : c'.isWaiting = false)
      (keep : ∀ s, c'.hold.slot? = some s → c.hold.slot? = some s)
      (hv : ∀ k, l.vacant k ⊆ l'.vacant k)

theorem CallMove.seek {a : LinkAction} {c c' : LinkCall} (m : CallMove n l c a c' l')
    (hc : l.calls[n]? = some c) (cu : l.Custody) : Seek l c c' l' := by
  obtain ⟨t, tr, st⟩ := m.trade
  have own s (hs : c.hold.slot? = some s) : s < l.size :=
    cu.lt_size (x := .call n) s (by rw [hold_call hc]; exact hs)
  have other (h : c.seeksFrom 0 = false) (h' : c'.isWaiting = false)
      (keep : ∀ s, c'.hold.slot? = some s → c.hold.slot? = some s) : Seek l c c' l' :=
    .other (LinkCall.stage_ne_searching h) h' keep (tr.vacant_subset st own keep)
  simp only [LinkCall.hold] at other
  cases m with
  | permit h hp => exact .enter (by rw [LinkCall.isWaiting, h]) rfl hp fun _ => rfl
  | pass h _ hu => exact .pass h rfl hu fun _ => rfl
  | exhaust h hs => exact .exhaust h hs rfl fun _ => rfl
  | @lock s h hu =>
    refine .lock (h.imp_right And.left) rfl hu fun k => ?_
    ext s'
    have lt := (isUnlocked_iff.1 hu).1
    rw [Finset.mem_erase, mem_vacant, mem_vacant, isUnlocked_iff, isUnlocked_iff, size_setHolder,
      holder?_setHolder lt]
    by_cases e : s' = s
    · simp [e]
    · simp [e]
  | quitEarly h =>
    rcases h with h | h <;> exact other (by rw [LinkCall.seeksFrom, h]) rfl fun _ e => by cases e
  | quitTalking h =>
    rcases h with h | h | ⟨_, h⟩ <;>
      exact other (by rw [LinkCall.seeksFrom, h]) rfl (by rw [h]; exact fun _ e => e)
  | ignore h =>
    exact other (by rw [LinkCall.seeksFrom, h]) (by rw [LinkCall.isWaiting, h]) fun _ e => e
  | find h | start h | misfire h | comeUp h | skip h | refuse h | enter h | deny h | giveBack h
  | retry h | fail h | succeed h | timeOut h | vanish h | quitStarting h | quitStanding h
  | unlock h => exact other (by rw [LinkCall.seeksFrom, h]) rfl fun _ e => by cases e
  | take h | dial h | connect h | miss h | announce h | write h | jam h | answer h | fault h
  | park h | report h | hangUp h | letGo h | quitConnecting h =>
    exact other (by rw [LinkCall.seeksFrom, h]) rfl (by rw [h]; exact fun _ e => e)

/-! ### Before the link is closed -/

/-- In an orderly state no search has come to its end. -/
theorem Orderly.lt_size (o : l.Orderly) {c : LinkCall} {s : Nat} (hc : l.calls[n]? = some c)
    (h : c.stage = .searching s) : s < l.size := by
  refine Nat.lt_of_not_le fun le => ?_
  have some : 0 < l.calls.countP (LinkCall.seeksFrom s) := by
    refine List.countP_pos_iff.2 ⟨c, List.mem_of_getElem? hc, ?_⟩
    rw [LinkCall.seeksFrom_of_stage h, decide_eq_true (Nat.le_refl s)]
  have none := o.seekers s
  rw [vacant_of_size_le le, Finset.card_empty] at none
  omega

theorem Orderly.seekers_of_call (o : l.Orderly) {c c' : LinkCall} (hc : l.calls[n]? = some c)
    (sk : Seek l c c' l')
    (enough : (l.calls.set n c').countP LinkCall.isWaiting ≤ (l'.vacant 0).card) (k : Nat) :
    (l.calls.set n c').countP (LinkCall.seeksFrom k) ≤ (l'.vacant k).card := by
  have counted := countP_set_add hc c' (LinkCall.seeksFrom k)
  have before := o.seekers k
  cases sk with
  | enter h h' _ hv =>
    cases k with
    | zero =>
      exact Nat.le_trans (List.countP_mono_left fun x _ => LinkCall.isWaiting_of_seeksFrom) enough
    | succ k =>
      rw [LinkCall.seeksFrom_of_stage h', LinkCall.seeksFrom_of_idle h,
        decide_eq_false (Nat.not_succ_le_zero k)] at counted
      rw [hv]
      omega
  | @pass s h h' hu hv =>
    rw [hv]
    by_cases e : k = s + 1
    · -- It was already counted one place before, and the slot there is locked.
      subst e
      have same := countP_set_add hc c' (LinkCall.seeksFrom s)
      rw [LinkCall.seeksFrom_of_stage h, LinkCall.seeksFrom_of_stage h',
        decide_eq_true (Nat.le_refl s), decide_eq_true (Nat.le_succ s)] at same
      calc (l.calls.set n c').countP (LinkCall.seeksFrom (s + 1))
          ≤ (l.calls.set n c').countP (LinkCall.seeksFrom s) :=
            List.countP_mono_left fun x _ => LinkCall.seeksFrom_antitone (Nat.le_succ s)
        _ = l.calls.countP (LinkCall.seeksFrom s) := Nat.add_right_cancel same
        _ ≤ (l.vacant s).card := o.seekers s
        _ = (l.vacant (s + 1)).card := by rw [vacant_succ hu]
    · rw [LinkCall.seeksFrom_of_stage h, LinkCall.seeksFrom_of_stage h',
        decide_eq_decide.2 (show k ≤ s + 1 ↔ k ≤ s by omega)] at counted
      omega
  | exhaust h hs => exact absurd (o.lt_size hc h) (Nat.not_lt.2 hs)
  | @lock s h h' hu hv =>
    have h := h.resolve_right (o.calls c (List.mem_of_getElem? hc))
    rw [LinkCall.seeksFrom_of_stage h, LinkCall.seeksFrom_of_idle h'] at counted
    rw [hv]
    by_cases le : k ≤ s
    · have := Finset.card_erase_add_one (mem_vacant.2 ⟨le, hu⟩)
      rw [decide_eq_true le] at counted
      simp only [Bool.toNat_true, Bool.toNat_false] at counted
      omega
    · rw [Finset.erase_eq_of_notMem fun m => le (mem_vacant.1 m).1]
      rw [decide_eq_false le] at counted
      omega
  | other h h' _ hv =>
    rw [LinkCall.seeksFrom_of_not h, LinkCall.seeksFrom_of_idle h'] at counted
    have := Finset.card_le_card (hv k)
    omega

theorem Orderly.calls_of_call (o : l.Orderly) {c c' : LinkCall} (hc : l.calls[n]? = some c)
    (sk : Seek l c c' l') : ∀ x ∈ l.calls.set n c', x.stage ≠ .standing := by
  intro x hx
  rcases List.mem_or_eq_of_mem_set hx with old | rfl
  · exact o.calls x old
  cases sk with
  | enter _ h' | pass _ h' => rw [h']; nofun
  | exhaust h hs => exact absurd (o.lt_size hc h) (Nat.not_lt.2 hs)
  | lock _ h' | other _ h' => exact fun e => by simp [LinkCall.isWaiting, e] at h'

theorem hold_of_early {c : CloserStage} (h : c = .entering ∨ c = .flagged) : c.hold = .nothing := by
  rcases h with rfl | rfl <;> rfl

theorem orderly_ofSettings (settings : GatewaySettings) : (ofSettings settings).Orderly where
  closers _ hc := absurd hc List.not_mem_nil
  calls _ hc := absurd hc List.not_mem_nil
  seekers k := by
    rw [show (ofSettings settings).calls = [] from rfl, List.countP_nil]
    exact Nat.zero_le _

/-- A link that was not closed is orderly. -/
theorem orderly (h : Reachable settings l) (hp : l.permitsClosed = false) : l.Orderly := by
  refine (h.of_moves (P := fun l => l.Custody ∧ (l.permitsClosed = false → l.Orderly))
    ⟨custody_ofSettings settings, fun _ => orderly_ofSettings settings⟩ fun a l l' m old => ?_).2 hp
  obtain ⟨cu, o⟩ := old
  refine ⟨cu.move m, fun hp => ?_⟩
  cases m with
  | invoke request =>
    have o := o hp
    refine ⟨o.closers, fun c hc => ?_, fun k => ?_⟩
    · rcases List.mem_append.1 hc with old | new
      · exact o.calls c old
      · rw [List.mem_singleton.1 new]
        exact fun e => by cases e
    · rw [Link.invoke, countP_concat]
      exact o.seekers k
  | @call _ _ l' n c c' hc m =>
    have o := o (m.apart.permitsClosed ▸ hp)
    have early : ∀ x ∈ l'.closers, x = .entering ∨ x = .flagged := by
      rw [m.apart.closers]
      exact o.closers
    have enough := waiting_le_vacant (cu.move (.call hc m)) fun x hx => hold_of_early (early x hx)
    have sk := m.seek hc cu
    have seekers := o.seekers_of_call hc sk enough
    exact ⟨early, o.calls_of_call hc sk, seekers⟩
  | arrive a =>
    rw [setConnection_eq] at hp ⊢
    exact ⟨(o hp).closers, (o hp).calls, (o hp).seekers⟩
  | close =>
    refine ⟨fun c hc => ?_, (o hp).calls, (o hp).seekers⟩
    rcases List.mem_append.1 hc with old | new
    · exact (o hp).closers c old
    · exact .inl (List.mem_singleton.1 new)
  | @closer _ l' i c c' h m =>
    rcases m.permitsClosed with same | ⟨-, -, rfl⟩
    · have o := o (same.symm.trans hp)
      -- Only an attempt that has not closed the permits is there, and it goes on to flag the link.
      rcases o.closers c (List.mem_of_getElem? h) with rfl | rfl
      · cases m
        refine ⟨fun x hx => ?_, o.calls, o.seekers⟩
        rcases List.mem_or_eq_of_mem_set hx with old | rfl
        · exact o.closers x old
        · exact .inr rfl
      · cases m
        cases hp
    · cases hp
  | exit => exact ⟨(o hp).closers, (o hp).calls, (o hp).seekers⟩

/-! ### When no permits are given out any more -/

/-- As long as there are slots for those that wait, there are slots for those that still wait after
a step. -/
theorem Seek.enough {m : Nat} {c c' : LinkCall} (sk : Seek l c c' l') (hc : l.calls[m]? = some c)
    (hp : l.permitsClosed = true) {s : Nat}
    (enough : l.calls.countP LinkCall.isWaiting ≤ (l.vacant s).card) :
    (l.calls.set m c').countP LinkCall.isWaiting ≤ (l'.vacant s).card := by
  have counted := countP_set_add hc c' LinkCall.isWaiting
  cases sk with
  | enter _ _ open_ => rw [hp] at open_; cases open_
  | @pass s h h' _ hv =>
    rw [LinkCall.isWaiting_iff.2 (.inl ⟨s, h⟩), LinkCall.isWaiting_iff.2 (.inl ⟨s + 1, h'⟩)]
      at counted
    rw [hv]
    omega
  | @exhaust s h _ h' hv =>
    rw [LinkCall.isWaiting_iff.2 (.inl ⟨s, h⟩), LinkCall.isWaiting_iff.2 (.inr h')] at counted
    rw [hv]
    omega
  | @lock s₀ h h' _ hv =>
    have waits : c.isWaiting = true := LinkCall.isWaiting_iff.2 (h.imp_left fun h => ⟨s₀, h⟩)
    have erased := Finset.pred_card_le_card_erase (s := l.vacant s) (a := s₀)
    rw [waits, h'] at counted
    simp only [Bool.toNat_true, Bool.toNat_false] at counted
    rw [hv]
    omega
  | other _ h' _ hv =>
    have more := Finset.card_le_card (hv s)
    rw [h'] at counted
    simp only [Bool.toNat_false] at counted
    omega

theorem Heads.of_call (hd : Heads n l) {m : Nat} {c c' : LinkCall} (hc : l.calls[m]? = some c)
    (sk : Seek l c c' l') (hp : l.permitsClosed = true) {x : LinkCall}
    (hx : (l.calls.set m c')[n]? = some x) :
    x.stage ≠ .standing ∧ ∀ s, x.stage = .searching s →
      (l.calls.set m c').countP LinkCall.isWaiting ≤ (l'.vacant s).card := by
  have idle (h : c'.isWaiting = false) : c'.stage ≠ .standing ∧ ∀ s, c'.stage ≠ .searching s := by
    rw [Bool.eq_false_iff, Ne, LinkCall.isWaiting_iff, not_or, not_exists] at h
    exact ⟨h.2, h.1⟩
  have enough {s : Nat} := sk.enough (s := s) hc hp
  rcases getElem?_set_eq_some hx with ⟨rfl, rfl⟩ | ⟨-, hx⟩
  · -- The call itself has taken the step.
    cases sk with
    | enter _ _ open_ => rw [hp] at open_; cases open_
    | @pass s h h' hu hv =>
      refine ⟨by rw [h']; nofun, fun s' e => ?_⟩
      obtain rfl : s + 1 = s' := CallStage.searching.inj (h'.symm.trans e)
      have enough := enough ((hd c hc).2 s h)
      rwa [hv, ← vacant_succ hu, ← hv] at enough
    | @exhaust s h hs =>
      have enough := (hd c hc).2 s h
      have some : 0 < l.calls.countP LinkCall.isWaiting :=
        List.countP_pos_iff.2 ⟨c, List.mem_of_getElem? hc, LinkCall.isWaiting_iff.2 (.inl ⟨s, h⟩)⟩
      rw [vacant_of_size_le hs, Finset.card_empty] at enough
      omega
    | lock _ h' | other _ h' => exact ⟨(idle h').1, fun s e => absurd e ((idle h').2 s)⟩
  · exact ⟨(hd x hx).1, fun s e => enough ((hd x hx).2 s e)⟩

/-- In a quiet time, with no permits given out, a call that heads for a slot goes on to. -/
theorem Heads.move {a : LinkAction} (hd : Heads n l) (m : Move a l l') (cu : l.Custody)
    (hp : l.permitsClosed = true) (calm : l.isSweeping = false) : Heads n l' := by
  intro x hx
  cases m with
  | invoke request =>
    rw [Link.invoke, countP_concat]
    rcases getElem?_concat hx with old | ⟨-, rfl⟩
    · exact hd x old
    · exact ⟨fun e => (by cases e), fun _ e => (by cases e)⟩
  | call hc m => exact hd.of_call hc (m.seek hc cu) hp hx
  | arrive a =>
    rw [setConnection_eq] at hx ⊢
    exact hd x hx
  | close | exit => exact hd x hx
  | @closer _ _ i c c' h m =>
    have quiet : c.isSweeping = false := by
      rw [isSweeping, List.any_eq_false] at calm
      exact Bool.eq_false_iff.2 (calm c (List.mem_of_getElem? h))
    cases m with
    | take | letGo | unlock | swept => cases quiet
    | flag | shut | finish | seize | kill => exact hd x hx

theorem Reachable.snoc {a : LinkAction} (h : Reachable settings l) (ha : step a l = some l') :
    Reachable settings l' :=
  Machine.Reaches.trans h (Machine.Reaches.single ha)

theorem hold_of_quiet (calm : l.isSweeping = false) : ∀ c ∈ l.closers, c.hold = .nothing := by
  intro c hc
  rw [isSweeping, List.any_eq_false] at calm
  have quiet := calm c hc
  cases c <;> first | rfl | exact absurd rfl quiet

/-- In a quiet time the permits are not closed. -/
theorem Move.permitsClosed_of_quiet {a : LinkAction} (m : Move a l l')
    (calm : l'.isSweeping = false) : l'.permitsClosed = l.permitsClosed := by
  cases m with
  | call _ m => exact m.apart.permitsClosed
  | arrive => rw [setConnection_eq]
  | invoke | close | exit => rfl
  | closer h m =>
    rcases m.permitsClosed with same | ⟨rfl, -, -⟩
    · exact same
    · -- The attempt that closes the permits goes through the slots next.
      rw [isSweeping, List.any_eq_false] at calm
      have i_lt := (List.getElem?_eq_some_iff.1 h).1
      exact absurd rfl (calm (.sweeping 0) (List.mem_of_getElem? (List.getElem?_set_self i_lt)))

/-- A search that begins in a quiet time comes to a slot that nobody has locked, as long as the time
is quiet. -/
theorem search_finds (h : Reachable settings l) (calm : l.isSweeping = false)
    (r : Machine.Reaches quietStep l t)
    (fresh : ∀ c, l.calls[n]? = some c → c.stage ≠ .standing ∧ ∀ s, c.stage ≠ .searching (s + 1))
    {c : LinkCall} (hc : t.calls[n]? = some c) :
    c.stage ≠ .standing ∧ ∀ s, c.stage = .searching s → ∃ s', s ≤ s' ∧ t.isUnlocked s' = true := by
  have heads : Heads n l := by
    refine fun c hc => ⟨(fresh c hc).1, fun s e => ?_⟩
    cases s with
    | zero => exact waiting_le_vacant (custody h) (hold_of_quiet calm)
    | succ s => exact absurd e ((fresh c hc).2 s)
  obtain ⟨h, -, same, heads⟩ := r.invariant (P := fun t => Reachable settings t ∧
      t.isSweeping = false ∧ t.permitsClosed = l.permitsClosed ∧
      (l.permitsClosed = true → Heads n t))
    (fun a u v ha ⟨h, calm, same, heads⟩ => by
      obtain ⟨ha, calm'⟩ := Option.filter_eq_some_iff.1 ha
      have m := move_of_step ha
      have calm' : v.isSweeping = false := by simpa using calm'
      exact ⟨h.snoc ha, calm', (m.permitsClosed_of_quiet calm').trans same,
        fun hp => (heads hp).move m (custody h) (same.trans hp) calm⟩)
    ⟨h, calm, rfl, fun _ => heads⟩
  have found {s : Nat} (some : 0 < (t.vacant s).card) : ∃ s', s ≤ s' ∧ t.isUnlocked s' = true := by
    obtain ⟨s', hs⟩ := Finset.card_pos.1 some
    exact ⟨s', mem_vacant.1 hs⟩
  have mem := List.mem_of_getElem? hc
  cases hp : l.permitsClosed with
  | false =>
    have o := orderly h (same.trans hp)
    refine ⟨o.calls c mem, fun s e => found (Nat.lt_of_lt_of_le ?_ (o.seekers s))⟩
    refine List.countP_pos_iff.2 ⟨c, mem, ?_⟩
    rw [LinkCall.seeksFrom_of_stage e, decide_eq_true (Nat.le_refl s)]
  | true =>
    have heads := heads hp c hc
    refine ⟨heads.1, fun s e => found (Nat.lt_of_lt_of_le ?_ (heads.2 s e))⟩
    exact List.countP_pos_iff.2 ⟨c, mem, LinkCall.isWaiting_iff.2 (.inl ⟨s, e⟩)⟩

end Link

end PanelScript
