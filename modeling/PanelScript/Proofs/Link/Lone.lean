import PanelScript.Proofs.Link.Custody

/-!
# A call by itself

A call that has the link for itself is never held up by another.

* `Link.Lone` is a link with one call, which its caller waits for and nobody closes;
  `Lone.advance`, `Lone.arrive` and `Lone.exit` keep it;
* `Lone.launches` and `Lone.proceeds`: the call finds what it needs for its next step, and
  `Lone.exists_verdict`: in the end it has a verdict.
-/

namespace PanelScript

/-- Whether an attempt has ended because the caller went away. -/
def AttemptEnd.isForsaken : AttemptEnd → Bool
  | .abandoned none => true
  | _ => false

/-- Whether the caller of a call went away. -/
def CallStage.isForsaken : CallStage → Bool
  | .letting _ _ ending | .unlocking _ ending | .returning ending | .settled ending =>
    ending.isForsaken
  | .finished none => true
  | _ => false

/-- Whether a call can take its next step without the launcher, a connection or the passing of
time. -/
def CallStage.proceeds : CallStage → Bool
  | .launching | .starting | .connecting _ | .sending _ _ | .receiving _ _ | .hangingUp _ _ _
  | .finished _ => false
  | _ => true

namespace Link

variable {l l' : Link} {n : Nat} {a : LinkAction} {c c' : LinkCall}

/-- One call has the link for itself: its caller waits for it, and nobody closes the link. -/
structure Lone (c : LinkCall) (l : Link) : Prop where
  calls : l.calls = [c]
  closers : l.closers = []
  slot : 0 < l.size
  custody : l.Custody
  launching : c.stage ≠ .starting → l.launching = none
  awaited : c.stage.isForsaken = false

/-- Who gives a process time to come up is at that stage. -/
theorem CallMove.launching (m : CallMove n l c a c' l')
    (h : c.stage ≠ .starting → l.launching = none) :
    c'.stage ≠ .starting → l'.launching = none := by
  intro h'
  cases m with
  | start => exact absurd rfl h'
  | find _ _ hl | misfire _ _ hl => exact hl
  | comeUp | quitStarting => rfl
  | ignore => rw [setConnection_eq]; exact h h'
  | lock hs =>
    rw [setHolder_eq]
    rcases hs with hs | ⟨hs, -⟩ <;> exact h (by simp [hs])
  | unlock hs => rw [setHolder_eq]; exact h (by simp [hs])
  | take hs | park hs => rw [setParked_eq]; exact h (by simp [hs])
  | write hs | answer hs | fault hs => rw [setConnection_eq]; exact h (by simp [hs])
  | letGo hs => rw [letGo_eq]; exact h (by simp [hs])
  | quitEarly hs => rcases hs with hs | hs <;> exact h (by simp [hs])
  | quitTalking hs => rcases hs with hs | hs | ⟨_, hs⟩ <;> exact h (by simp [hs])
  | skip hs | refuse hs | enter hs | deny hs | permit hs | exhaust hs | pass hs | dial hs
  | connect hs | miss hs | announce hs | jam hs | report hs | hangUp hs | giveBack hs | retry hs
  | fail hs | succeed hs | timeOut hs | vanish hs | quitStanding hs | quitConnecting hs =>
    exact h (by simp [hs])

/-- A caller goes away only when it says so. -/
theorem CallMove.awaited (m : CallMove n l c a c' l') (stays : ∀ n, a ≠ .abandon n none)
    (h : c.stage.isForsaken = false) : c'.stage.isForsaken = false := by
  have timed {expired : Option Nat} (e : a = .abandon n expired) :
      (AttemptEnd.abandoned expired).isForsaken = false := by
    cases expired with
    | none => exact absurd e (stays n)
    | some => rfl
  cases m with
  | ignore => exact h
  | letGo hs | unlock hs | giveBack hs | vanish hs =>
    rw [hs] at h
    exact h
  | quitEarly | quitStarting | quitStanding | quitConnecting | quitTalking => exact timed rfl
  | _ => rfl

/-- A step of the call. -/
theorem Lone.advance (h : l.Lone c) (hs : step a l = some l') (mine : a.call? = some n)
    (stays : ∀ n, a ≠ .abandon n none) : ∃ c', l'.Lone c' := by
  have m := move_of_step hs
  have size := m.size
  have custody := h.custody.move m
  cases m with
  | @call _ _ l' n' c₀ c' found m =>
    rw [h.calls] at found
    obtain rfl : c = c₀ := (List.mem_singleton.1 (List.mem_of_getElem? found)).symm
    obtain rfl : n' = 0 := Nat.lt_one_iff.1 (List.getElem?_eq_some_iff.1 found).1
    refine ⟨c', by rw [h.calls]; rfl, m.apart.closers.trans h.closers, ?_, custody, ?_, ?_⟩
    · rw [size]
      exact h.slot
    · exact m.launching h.launching
    · exact m.awaited stays h.awaited
  | _ => cases mine

/-- What arrives, arrives. -/
theorem Lone.arrive (h : l.Lone c) {k : Nat} {x : Arrival} (hs : l.arrive k x = some l') :
    l'.Lone c := by
  have m : Move (.arrive k x) l l' := move_of_arrive hs
  have size := m.size
  have custody := h.custody.move m
  cases m with
  | call _ m => cases m
  | arrive =>
    rw [setConnection_eq] at *
    exact ⟨h.calls, h.closers, size ▸ h.slot, custody, h.launching, h.awaited⟩

theorem Lone.exit (h : l.Lone c) {process : Nat} (hs : l.exit process = some l') : l'.Lone c := by
  obtain ⟨p, hp, rfl⟩ := Option.map_eq_some_iff.1 hs
  exact ⟨h.calls, h.closers, h.slot, h.custody.move (.exit process hp), h.launching, h.awaited⟩

/-! ### Nothing is in the way -/

/-- What a call by itself does not hold nobody holds. -/
theorem Lone.holder?_eq_none (h : l.Lone c) {s : Nat} (free : c.stage.hold.slot? ≠ some s) :
    l.holder? s = none := by
  cases held : l.holder? s with
  | none => rfl
  | some x =>
    have mine := (h.custody.locks x s).2 held
    cases x with
    | closer i => simp [hold, h.closers, Hold.slot?] at mine
    | call k =>
      cases k with
      | succ k => simp [hold, h.calls, Hold.slot?] at mine
      | zero =>
        rw [hold_call (c := c) (by rw [h.calls]; rfl)] at mine
        exact absurd mine free

theorem Lone.stage? (h : l.Lone c) : l.stage? 0 = some c.stage := by
  rw [Link.stage?, h.calls]
  rfl

/-- The launcher is free for the call. -/
theorem Lone.launches (h : l.Lone c) (stage : c.stage = .launching) (p : Launcher)
    (hp : l.launcher = some p) (spawn : Except String Unit) : (l.launch 0 spawn).isSome := by
  have free : l.launching = none := h.launching (by simp [stage])
  simp only [launch, h.stage?, stage, hp, free]
  split <;> rfl

/-- There is a permit for the call, and a slot. -/
theorem Lone.proceeds (h : l.Lone c) (stage : c.stage.proceeds = true) :
    (l.proceed 0).isSome := by
  have permit (none : c.stage.hasPermit = false) : 0 < l.free := by
    have permits := h.custody.permits
    have slot := h.slot
    rw [h.calls, List.countP_singleton, LinkCall.hasPermit, if_neg (by simp [none])] at permits
    omega
  have unlocked (none : c.stage.hold.slot? = Option.none) : l.isUnlocked 0 = true :=
    isUnlocked_iff.2 ⟨h.slot, h.holder?_eq_none (by simp [none])⟩
  have same := h.stage?
  unfold proceed
  rw [same]
  cases e : c.stage with
  | launching | starting | connecting | sending | receiving | hangingUp | finished =>
    rw [e] at stage
    cases stage
  | queued =>
    have free := permit (by rw [e]; rfl)
    simp only [free, if_true]
    split <;> rfl
  | standing =>
    have free := unlocked (by rw [e]; rfl)
    simp only [free, if_true]
    rfl
  | settled ending =>
    show (l.conclude 0 ending).isSome
    unfold conclude
    rw [h.calls]
    split <;> rfl
  | _ => rfl

/-- A call that is over has its verdict, if its caller has waited for it. -/
theorem Lone.exists_verdict (h : l.Lone c) (past : c.isActive = false) :
    ∃ v, l.verdict? 0 = some v := by
  have awaited := h.awaited
  obtain ⟨request, attempt, stage, retried⟩ := c
  unfold LinkCall.isActive at past
  cases stage with
  | finished v =>
    cases v with
    | none => cases awaited
    | some v => exact ⟨v, by simp [verdict?, h.calls]⟩
  | _ => cases past

end Link

end PanelScript
