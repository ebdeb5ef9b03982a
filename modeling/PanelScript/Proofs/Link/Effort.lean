import PanelScript.Proofs.Link.Custody

/-!
# What is left to be done on a link

An attempt at a call takes a bounded number of steps, apart from what it reads, and there are two
attempts at most. An attempt to close the link goes through the slots once.

* `LinkCall.rank` and `CloserStage.rank` bound the steps that each of them has left;
* `Link.effort` is their sum, and `Link.unread` what there is to read;
* `effort_of_call`: with every step a call reads something or comes nearer to its end;
* `effort_of_sweep`: so does an attempt to close the link, with every step.
-/

namespace PanelScript

-- The zero of a sum is that of the core library.
attribute [local instance (2000)] Zero.ofOfNat0

/-- How many steps there are at most from a stage to the end of an attempt, in a link with so many
slots. -/
def CallStage.rank (size : Nat) : CallStage → Nat
  | .launching => 17 + size
  | .starting => 16 + size
  | .entering => 15 + size
  | .queued => 14 + size
  | .searching slot => 13 + (size - slot)
  | .standing => 12
  | .leased _ => 11
  | .connecting _ => 10
  | .announcing _ _ => 9
  | .sending _ _ => 8
  | .receiving _ _ => 7
  | .failing _ _ _ => 6
  | .hangingUp _ _ _ => 5
  | .letting _ _ _ | .parking _ _ _ => 4
  | .unlocking _ _ => 3
  | .returning _ => 2
  | .settled _ => 1
  | .finished _ => 0

/-- How many steps a call has left at most, a second attempt included. -/
def LinkCall.rank (size : Nat) (c : LinkCall) : Nat :=
  c.stage.rank size + if c.attempt = 1 then CallStage.launching.rank size else 0

/-- How many steps an attempt to close the link has left at most. -/
def CloserStage.rank (size : Nat) : CloserStage → Nat
  | .entering => 5 + 3 * size
  | .flagged => 4 + 3 * size
  | .sweeping slot => 3 + 3 * (size - slot)
  | .closing slot (some _) => 5 + 3 * (size - (slot + 1))
  | .closing slot none => 4 + 3 * (size - (slot + 1))
  | .stopping => 2
  | .killing _ => 1
  | .returned => 0

namespace Link

variable {l l' : Link} {n : Nat} {a : LinkAction} {c c' : LinkCall}

/-- How many steps calls and attempts to close the link have left at most, apart from what calls
read. -/
def effort (l : Link) : Nat :=
  (l.calls.map (LinkCall.rank l.size)).sum + (l.closers.map (CloserStage.rank l.size)).sum

/-- How much has arrived on all connections and is unread. -/
def unread (l : Link) : Nat := (l.connections.flatMap Connection.inbox).length

/-! ### What there is to read -/

/-- What is read is not unread any more. -/
theorem unread_leaving {k : Nat} {a : Arrival} {rest : List Arrival}
    (h : l.inbox? k = some (a :: rest)) :
    (l.setConnection k (leaving rest)).unread + 1 = l.unread := by
  obtain ⟨d, found, inbox⟩ := Option.map_eq_some_iff.1 h
  have moved := length_flatMap_set_add found (leaving rest d) Connection.inbox
  rw [unread, connections_setConnection found, unread]
  rw [inbox, List.length_cons] at moved
  exact Nat.add_right_cancel ((Nat.add_assoc ..).trans ((congrArg _ (Nat.add_comm ..)).trans moved))

/-! ### Every step counts -/

theorem effort_of_same (size : l'.size = l.size) (calls : l'.calls = l.calls)
    (closers : l'.closers = l.closers) : l'.effort = l.effort := by
  rw [effort, effort, size, calls, closers]

/-- With every step a call comes nearer to its end, or only reads. -/
theorem CallMove.lowers (m : CallMove n l c a c' l') :
    c'.rank l.size < c.rank l.size ∨ c' = c ∧ a = .read n ∧ l'.unread < l.unread := by
  unfold LinkCall.rank
  cases m with
  | ignore _ hi => exact .inr ⟨rfl, rfl, Nat.lt_of_succ_le (Nat.le_of_eq (unread_leaving hi))⟩
  | retry h _ first =>
    left
    rw [if_pos first, if_neg (by simp)]
    simp only [h, CallStage.rank]
    omega
  | pass h hs =>
    left
    simp only [h, CallStage.rank]
    omega
  | lock h =>
    left
    rcases h with h | ⟨h, -⟩ <;> simp only [h, CallStage.rank] <;> omega
  | quitEarly h =>
    left
    rcases h with h | h <;> simp only [h, CallStage.rank] <;> omega
  | quitTalking h =>
    left
    rcases h with h | h | ⟨_, h⟩ <;> simp only [h, CallStage.rank] <;> omega
  | find h | start h | misfire h | comeUp h | skip h | refuse h | enter h | deny h | permit h
  | exhaust h | take h | dial h | connect h | miss h | announce h | write h | jam h | answer h
  | fault h | park h | report h | hangUp h | letGo h | unlock h | giveBack h | fail h | succeed h
  | timeOut h | vanish h | quitStarting h | quitStanding h | quitConnecting h =>
    left
    simp only [h, CallStage.rank]
    omega

/-- A step of a call. -/
theorem effort_of_call (hs : step a l = some l') (own : a.call? = some n) :
    l'.effort < l.effort ∨ l'.effort = l.effort ∧ l'.unread < l.unread ∧ a = .read n := by
  have m := move_of_step hs
  have size := m.size
  cases m with
  | @call _ _ l' n' c c' found m =>
    obtain rfl := Option.some.inj (m.call?_eq.symm.trans own)
    have moved := sum_map_set_add found c' (LinkCall.rank l.size)
    have closers : ({ l' with calls := l.calls.set n' c' } : Link).closers = l.closers :=
      m.apart.closers
    rw [effort, effort, size, closers]
    rcases m.lowers with lower | ⟨rfl, rfl, less⟩
    · left
      dsimp only
      omega
    · right
      dsimp only
      exact ⟨by omega, less, rfl⟩
  | _ => cases own

theorem effort_le_of_call (hs : step a l = some l') (own : a.call? = some n) :
    l'.effort ≤ l.effort := by
  rcases effort_of_call hs own with less | ⟨same, -⟩
  · exact Nat.le_of_lt less
  · exact Nat.le_of_eq same

theorem CloserMove.lowers {i : Nat} {c c' : CloserStage} (m : CloserMove i l c c' l') :
    c'.rank l.size < c.rank l.size := by
  cases m with
  | @take slot parked found =>
    have lt : slot < l.size := (List.getElem?_eq_some_iff.1 found).1
    cases parked <;> simp only [CloserStage.rank] <;> omega
  | _ =>
    simp only [CloserStage.rank]
    omega

/-- A step of an attempt to close the link. -/
theorem effort_of_sweep {i : Nat} (hs : l.sweep i = some l') : l'.effort < l.effort := by
  have m : Move (.sweep i) l l' := move_of_sweep hs
  have size := m.size
  cases m with
  | call _ m => cases m
  | @closer _ l' _ c c' found m =>
    have moved := sum_map_set_add found c' (CloserStage.rank l.size)
    have lower := m.lowers
    have calls : ({ l' with closers := l.closers.set i c' } : Link).calls = l.calls := m.calls
    rw [effort, effort, size, calls]
    dsimp only
    omega

/-- What arrives, and a process that ends, leave as much to be done as there was. -/
theorem arrive_same {k : Nat} {x : Arrival} (hs : l.arrive k x = some l') :
    l'.size = l.size ∧ l'.effort = l.effort := by
  have m : Move (.arrive k x) l l' := move_of_arrive hs
  have size := m.size
  cases m with
  | call _ m => cases m
  | arrive =>
    rw [setConnection_eq] at size ⊢
    exact ⟨size, effort_of_same size rfl rfl⟩

theorem exit_same {process : Nat} (hs : l.exit process = some l') :
    l'.size = l.size ∧ l'.effort = l.effort ∧ l'.unread = l.unread := by
  obtain ⟨p, -, rfl⟩ := Option.map_eq_some_iff.1 hs
  exact ⟨rfl, rfl, rfl⟩

/-- A call that begins, and an attempt to close the link that does, have all to do. -/
theorem effort_invoke (l : Link) (request : InvokeRequest) :
    (l.invoke request).effort = l.effort + 2 * CallStage.launching.rank l.size := by
  show ((l.calls ++ [_]).map (LinkCall.rank l.size)).sum +
    (l.closers.map (CloserStage.rank l.size)).sum = _
  rw [effort, List.map_append, List.sum_append, List.map_singleton, List.sum_singleton,
    LinkCall.rank, if_pos rfl]
  dsimp only
  omega

theorem effort_beginClose (l : Link) :
    l.beginClose.effort = l.effort + CloserStage.entering.rank l.size := by
  show _ + ((l.closers ++ [_]).map (CloserStage.rank l.size)).sum = _
  rw [effort, List.map_append, List.sum_append, List.map_singleton, List.sum_singleton]
  exact (Nat.add_assoc ..).symm

end Link

end PanelScript
