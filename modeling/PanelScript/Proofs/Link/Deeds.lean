import Mathlib.Data.List.Nodup
import PanelScript.Proofs.Link.Custody

/-!
# What a call does to permits and slots

A call takes a permit, locks a slot, unlocks it and returns the permit, in this order, and does so
at most once for every attempt. A call that finds no slot and goes away returns its permit alone.

* `Deed` lists what a call can do, `deeds` reads off two states what was done between them;
* `history` is what a call has done along a run;
* `Round` is what a whole attempt does, `Underway` what it has done up to a stage;
* `history_eq_rounds`: a history is made of whole rounds and at most one that is underway.
-/

namespace PanelScript

/-- What a call does to permits and slots. -/
inductive Deed where
  | takePermit
  | lock (slot : Nat)
  | unlock (slot : Nat)
  | returnPermit
  deriving DecidableEq

/-- What a whole attempt does. -/
inductive Round : List Deed → Prop
  | served (s : Nat) : Round [.takePermit, .lock s, .unlock s, .returnPermit]
  /-- It has gone away before it found a slot. -/
  | gone : Round [.takePermit, .returnPermit]

/-- What an attempt has done when it is at a stage and its round is not whole. -/
inductive Underway (stage : CallStage) : List Deed → Prop
  | idle (h : stage.hasPermit = false) : Underway stage []
  | seeking (h : stage.hasPermit = true) (hs : stage.hold = .nothing) : Underway stage [.takePermit]
  | serving {s : Nat} (hs : stage.hold.slot? = some s) : Underway stage [.takePermit, .lock s]
  | served {s : Nat} {ending : AttemptEnd} (h : stage = .returning ending) :
      Underway stage [.takePermit, .lock s, .unlock s]

/-- The slot that is held in the second place and not in the first. -/
def Hold.gained (h h' : Hold) : Option Nat :=
  match h.slot? with
  | none => h'.slot?
  | some _ => none

/-- What a step from a stage to another does. -/
def CallStage.deedsTo (stage stage' : CallStage) : List Deed :=
  (bif !stage.hasPermit && stage'.hasPermit then [.takePermit] else []) ++
    (stage.hold.gained stage'.hold).toList.map .lock ++
    (stage'.hold.gained stage.hold).toList.map .unlock ++
    (bif !stage'.hasPermit && stage.hasPermit then [.returnPermit] else [])

/-- Whether the attempt of a call is not over. -/
def CallStage.isTrying : CallStage → Bool
  | .settled _ | .finished _ => false
  | _ => true

section Underway

variable {stage : CallStage} {past : List Deed}

theorem Underway.eq_nil (u : Underway stage past) (h : stage.hasPermit = false) : past = [] := by
  cases u with
  | idle => rfl
  | seeking h' => rw [h] at h'; cases h'
  | serving hs => rw [CallStage.hold_of_no_permit h] at hs; cases hs
  | served e => rw [e] at h; cases h

theorem Underway.eq_take (u : Underway stage past) (h : stage.hasPermit = true)
    (hs : stage.hold = .nothing) (other : ∀ e, stage ≠ .returning e) : past = [.takePermit] := by
  cases u with
  | idle h' => rw [h] at h'; cases h'
  | seeking => rfl
  | serving hs' => rw [hs] at hs'; cases hs'
  | served e => exact absurd e (other _)

theorem Underway.eq_lock {s : Nat} (u : Underway stage past) (hs : stage.hold.slot? = some s) :
    past = [.takePermit, .lock s] := by
  cases u with
  | idle h' => rw [CallStage.hold_of_no_permit h'] at hs; cases hs
  | seeking _ hs' => rw [hs'] at hs; cases hs
  | serving hs' => rw [Option.some.inj (hs.symm.trans hs')]
  | served e => rw [e] at hs; cases hs

end Underway

theorem CallStage.no_permit_of_over {stage : CallStage} (h : stage.isTrying = false) :
    stage.hasPermit = false := by
  cases stage <;> first | rfl | cases h

namespace Link

variable {settings : GatewaySettings} {l l' : Link} {n : Nat}

/-- Whether a call has locked a slot. -/
def isLockedBy (l : Link) (n s : Nat) : Bool := l.holder? s == some (.call n)

/-- The slots that a call has locked in the second state and not in the first. -/
def lockedSince (n : Nat) (l l' : Link) : List Nat :=
  (List.range l'.size).filter fun s => l'.isLockedBy n s && !l.isLockedBy n s

/-- What a call does by an action that leads from a state to another. -/
def deeds (n : Nat) (a : LinkAction) (l l' : Link) : List Deed :=
  (if a.call? = some n ∧ l'.free < l.free then [.takePermit] else []) ++
    (lockedSince n l l').map .lock ++ (lockedSince n l' l).map .unlock ++
    (if a.call? = some n ∧ l.free < l'.free then [.returnPermit] else [])

/-- What a call does along a run. -/
def history (n : Nat) : List LinkAction → Link → List Deed
  | [], _ => []
  | a :: actions, l =>
    match step a l with
    | some l' => deeds n a l l' ++ history n actions l'
    | none => []

/-! ### The deeds of one action -/

theorem isLockedBy_iff (cu : l.Custody) {s : Nat} :
    l.isLockedBy n s = true ↔ (l.hold (.call n)).slot? = some s := by
  rw [isLockedBy, beq_iff_eq, cu.locks]

/-- A call that has one slot at most in two states has locked what it gained between them. -/
theorem lockedSince_eq (cu : l.Custody) (cu' : l'.Custody)
    (one : ∀ s s',
      (l.hold (.call n)).slot? = some s → (l'.hold (.call n)).slot? = some s' → s' = s) :
    lockedSince n l l' = ((l.hold (.call n)).gained (l'.hold (.call n))).toList := by
  unfold Hold.gained
  split
  · rename_i before
    have not s : l.isLockedBy n s = false := by
      rw [Bool.eq_false_iff, Ne, isLockedBy_iff cu, before]
      nofun
    cases after : (l'.hold (.call n)).slot? with
    | none =>
      refine List.filter_eq_nil_iff.2 fun s _ hs => ?_
      rw [not, Bool.not_false, Bool.and_true, isLockedBy_iff cu', after] at hs
      cases hs
    | some s =>
      have only : ∀ s', (l'.isLockedBy n s' && !l.isLockedBy n s') = (s' == s) := by
        intro s'
        rw [not, Bool.not_false, Bool.and_true, Bool.eq_iff_iff, isLockedBy_iff cu', after,
          beq_iff_eq, Option.some.injEq]
        exact eq_comm
      rw [lockedSince, funext only, List.filter_beq, List.count_eq_one_of_mem List.nodup_range]
      · rfl
      · exact List.mem_range.2 (cu'.lt_size s after)
  · rename_i s before
    refine List.filter_eq_nil_iff.2 fun s' _ hs => ?_
    rw [Bool.and_eq_true, isLockedBy_iff cu', Bool.not_eq_true', Bool.eq_false_iff, Ne,
      isLockedBy_iff cu] at hs
    exact hs.2 (before.trans (congrArg some (one s s' before hs.1).symm))

/-- A number of permits becomes smaller just when one is taken. -/
theorem lt_iff_taken {free free' : Nat} {had has : Bool}
    (h : free' + has.toNat = free + had.toNat) : free' < free ↔ (!had && has) = true := by
  cases had <;> cases has <;> simp only [Bool.toNat_true, Bool.toNat_false] at h <;>
    simp only [Bool.not_true, Bool.not_false, Bool.and_true, Bool.and_false, Bool.false_eq_true,
      iff_false, iff_true] <;> omega

/-- A step of a call does what its stages say. -/
theorem deeds_of_call {a : LinkAction} {c c' : LinkCall} (hc : l.calls[n]? = some c)
    (m : CallMove n l c a c' l') (cu : l.Custody)
    (cu' : ({ l' with calls := l.calls.set n c' } : Link).Custody) :
    deeds n a l { l' with calls := l.calls.set n c' } = c.stage.deedsTo c'.stage := by
  have hold : l.hold (.call n) = c.stage.hold := hold_call hc
  have hold' : ({ l' with calls := l.calls.set n c' } : Link).hold (.call n) = c'.stage.hold :=
    hold_call (List.getElem?_set_self (List.getElem?_eq_some_iff.1 hc).1)
  obtain ⟨t, tr, -⟩ := m.trade
  have one s s' (hs : c.stage.hold.slot? = some s) (hs' : c'.stage.hold.slot? = some s') :
      s' = s := by
    rcases tr.holders fun s hs => cu.lt_size s (by rw [hold]; exact hs) with
      ⟨same, -⟩ | ⟨_, none, -⟩ | ⟨_, -, none, -⟩
    · exact Option.some.inj (hs'.symm.trans (same.trans hs))
    · exact nomatch hs.symm.trans none
    · exact nomatch hs'.symm.trans none
  have free : l'.free + c'.stage.hasPermit.toNat = l.free + c.stage.hasPermit.toNat := m.free
  rw [deeds, lockedSince_eq cu cu' (by rw [hold, hold']; exact one),
    lockedSince_eq cu' cu (by rw [hold, hold']; exact fun s s' h h' => (one s' s h' h).symm),
    hold, hold', CallStage.deedsTo, m.call?_eq, Bool.cond_eq_ite, Bool.cond_eq_ite]
  simp only [true_and, lt_iff_taken free, lt_iff_taken free.symm]

/-- A call that begins, and one that stays where it is, does nothing. -/
theorem deeds_of_other {a : LinkAction} (m : Move a l l') (cu : l.Custody) (cu' : l'.Custody)
    (ha : a.call? ≠ some n) : deeds n a l l' = [] := by
  have same : l'.hold (.call n) = l.hold (.call n) := by
    rcases m.call_of_other ha with e | ⟨new, request, e⟩
    · rw [hold, e, hold]
    · rw [hold, e, hold, List.getElem?_eq_none (Nat.le_of_eq new.symm)]
      rfl
  have none (h : Hold) : (h.gained h).toList = [] := by cases h <;> rfl
  have one s s' (hs : (l.hold (.call n)).slot? = some s)
      (hs' : (l.hold (.call n)).slot? = some s') : s' = s := Option.some.inj (hs'.symm.trans hs)
  rw [deeds, lockedSince_eq cu cu' (by rw [same]; exact one),
    lockedSince_eq cu' cu (by rw [same]; exact one), same, none]
  simp [ha]

/-! ### Rounds -/

/-- A step of a call goes on with its round, or ends it. -/
theorem CallMove.underway {a : LinkAction} {c c' : LinkCall} (m : CallMove n l c a c' l')
    {past : List Deed} (u : Underway c.stage past) :
    (Underway c'.stage (past ++ c.stage.deedsTo c'.stage) ∧
      c'.stage.isTrying.toNat + c.attempt ≤ c.stage.isTrying.toNat + c'.attempt) ∨
    (Round (past ++ c.stage.deedsTo c'.stage) ∧ Underway c'.stage [] ∧
      1 + c'.stage.isTrying.toNat + c.attempt ≤ c.stage.isTrying.toNat + c'.attempt) := by
  cases m with
  | find h | start h | misfire h | comeUp h | skip h | refuse h | enter h | deny h | fail h
  | succeed h | timeOut h | vanish h | quitStarting h =>
    rw [h] at u ⊢
    obtain rfl := u.eq_nil rfl
    exact .inl ⟨.idle rfl, by simp [CallStage.isTrying]⟩
  | quitEarly h =>
    rcases h with h | h <;>
    · rw [h] at u ⊢
      obtain rfl := u.eq_nil rfl
      exact .inl ⟨.idle rfl, by simp [CallStage.isTrying]⟩
  | retry h _ first =>
    rw [h] at u ⊢
    obtain rfl := u.eq_nil rfl
    exact .inl ⟨.idle rfl, by simp [CallStage.isTrying, first]⟩
  | permit h =>
    rw [h] at u ⊢
    obtain rfl := u.eq_nil rfl
    exact .inl ⟨.seeking rfl rfl, Nat.le_refl _⟩
  | exhaust h | pass h | quitStanding h =>
    rw [h] at u ⊢
    obtain rfl := u.eq_take rfl rfl nofun
    exact .inl ⟨.seeking rfl rfl, Nat.le_refl _⟩
  | lock h =>
    rcases h with h | ⟨h, -⟩ <;>
    · rw [h] at u ⊢
      obtain rfl := u.eq_take rfl rfl nofun
      exact .inl ⟨.serving rfl, Nat.le_refl _⟩
  | take h | dial h | connect h | miss h | announce h | write h | jam h | ignore h | answer h
  | fault h | park h | report h | hangUp h | letGo h | quitConnecting h =>
    rw [h] at u ⊢
    obtain rfl := u.eq_lock rfl
    exact .inl ⟨.serving rfl, Nat.le_refl _⟩
  | quitTalking h =>
    rcases h with h | h | ⟨_, h⟩ <;>
    · rw [h] at u ⊢
      obtain rfl := u.eq_lock rfl
      exact .inl ⟨.serving rfl, Nat.le_refl _⟩
  | unlock h =>
    rw [h] at u ⊢
    obtain rfl := u.eq_lock rfl
    exact .inl ⟨.served rfl, Nat.le_refl _⟩
  | giveBack h =>
    rw [h] at u ⊢
    refine .inr ⟨?_, .idle rfl, by simp [CallStage.isTrying]⟩
    cases u with
    | idle h' => cases h'
    | seeking => exact .gone
    | serving hs => cases hs
    | served => exact .served _

/-- What a call has done is whole rounds, one at most for every attempt that is over, and the round
that is underway. -/
def Recorded (n : Nat) (l : Link) (past : List Deed) : Prop :=
  match l.calls[n]? with
  | none => past = []
  | some c =>
    ∃ (rounds : List (List Deed)) (now : List Deed), past = rounds.flatten ++ now ∧
      (∀ r ∈ rounds, Round r) ∧ Underway c.stage now ∧
      rounds.length + c.stage.isTrying.toNat ≤ c.attempt

theorem Recorded.move {a : LinkAction} {past : List Deed} (h : Recorded n l past) (m : Move a l l')
    (cu : l.Custody) : Recorded n l' (past ++ deeds n a l l') := by
  have cu' := cu.move m
  by_cases ha : a.call? = some n
  · cases m with
    | @call _ _ _ m c c' hc m =>
      obtain rfl := Option.some.inj (m.call?_eq.symm.trans ha)
      rw [deeds_of_call hc m cu cu', Recorded,
        List.getElem?_set_self (List.getElem?_eq_some_iff.1 hc).1]
      rw [Recorded, hc] at h
      obtain ⟨rounds, now, rfl, whole, u, bound⟩ := h
      rcases m.underway u with ⟨u', le⟩ | ⟨r, u', le⟩
      · exact ⟨rounds, _, List.append_assoc .., whole, u', by omega⟩
      · refine ⟨rounds ++ [now ++ c.stage.deedsTo c'.stage], [], by simp, ?_, u', ?_⟩
        · intro r' hr'
          rcases List.mem_append.1 hr' with old | new
          · exact whole r' old
          · rwa [List.mem_singleton.1 new]
        · rw [List.length_append, List.length_singleton]
          omega
    | invoke | arrive | close | closer | exit => cases ha
  · rw [deeds_of_other m cu cu' ha, List.append_nil]
    rcases m.call_of_other ha with e | ⟨new, request, e⟩
    · rwa [Recorded, e]
    · rw [Recorded, List.getElem?_eq_none (Nat.le_of_eq new.symm)] at h
      rw [Recorded, e]
      exact ⟨[], [], h, nofun, .idle rfl, Nat.le_refl _⟩

theorem Recorded.run {actions : List LinkAction} {past : List Deed} (h : Recorded n l past)
    (cu : l.Custody) (hr : Machine.run step actions l = some l') :
    Recorded n l' (past ++ history n actions l) := by
  induction actions generalizing l past with
  | nil =>
    obtain rfl := Option.some.inj hr
    rwa [history, List.append_nil]
  | cons a actions ih =>
    rw [Machine.run_cons, Option.bind_eq_some_iff] at hr
    obtain ⟨l₁, ha, hr⟩ := hr
    have m := move_of_step ha
    rw [history, ha, ← List.append_assoc]
    exact ih (h.move m cu) (cu.move m) hr

/-- A call that is not over has done whole rounds and the one that is underway, one that is over has
done whole rounds, and there are not more than its attempts. -/
theorem history_eq_rounds {actions : List LinkAction} {c : LinkCall}
    (h : Machine.run step actions (ofSettings settings) = some l) (hc : l.calls[n]? = some c) :
    ∃ (rounds : List (List Deed)) (now : List Deed),
      history n actions (ofSettings settings) = rounds.flatten ++ now ∧
      (∀ r ∈ rounds, Round r) ∧ Underway c.stage now ∧
      rounds.length + c.stage.isTrying.toNat ≤ c.attempt := by
  have start : Recorded n (ofSettings settings) [] := rfl
  have recorded := start.run (custody_ofSettings settings) h
  rwa [Recorded, hc, List.nil_append] at recorded

end Link

end PanelScript
