import PanelScript.Gateway.Link.Step
import PanelScript.Proofs.Participants

/-!
# Moves of the link

An action on a link is one move. A move takes one participant, a call or an attempt to close the
link, from its stage to the next one, and says what becomes of everything else. The properties of
the link are shown for moves.

* `CallMove` and `CloserMove` are the steps of the two kinds of participants;
* `Move` puts the participant back in its place;
* `move_of_step`: an action does no more than its move;
* `Reachable.of_moves`: what holds of a new link and is kept by moves holds always.
-/

namespace PanelScript

/-- The call that an action is a step of. -/
def LinkAction.call? : LinkAction → Option Nat
  | .launch call _ | .comeUp call | .proceed call | .connect call _ | .write call _ | .read call
  | .hangUp call | .abandon call _ => some call
  | _ => none

namespace Link

/-- The connection that is parked in a slot. -/
def parked? (l : Link) (slot : Nat) : Option Nat := (l.slots[slot]?).bind Slot.parked

/-- Who has locked a slot. -/
def holder? (l : Link) (slot : Nat) : Option SlotHolder := (l.slots[slot]?).bind Slot.holder

/-- What has arrived on a connection and is unread. -/
def inbox? (l : Link) (connection : Nat) : Option (List Arrival) :=
  (l.connections[connection]?).map Connection.inbox

/-- The connection with everything read up to the given rest. -/
def leaving (rest : List Arrival) (c : Connection) : Connection := { c with inbox := rest }

/-- The connection with one more frame written. -/
def written (n : Nat) (frame : String) (c : Connection) : Connection :=
  { c with sent := c.sent ++ [(n, frame)] }

/-- The connection with one more arrival. -/
def receiving (a : Arrival) (c : Connection) : Connection := { c with inbox := c.inbox ++ [a] }

/-- A connection was opened. -/
def opened (l : Link) : Link :=
  { l with connections := l.connections ++ [⟨[], [], true⟩], openCount := l.openCount + 1 }

/-- A call with the number `n` goes from `c` to `c'` by an action, and everything else from `l` to
`l'`. -/
inductive CallMove (n : Nat) (l : Link) (c : LinkCall) : LinkAction → LinkCall → Link → Prop
  | find {p : Launcher} {spawn : Except String Unit} (h : c.stage = .launching)
      (hp : l.launcher = some p) (hl : l.launching = none) (he : (p.ensure spawn).1 = .ok false) :
      CallMove n l c (.launch n spawn) { c with stage := .entering }
        { l with launcher := some (p.ensure spawn).2 }
  | start {p : Launcher} {spawn : Except String Unit} (h : c.stage = .launching)
      (hp : l.launcher = some p) (hl : l.launching = none) (he : (p.ensure spawn).1 = .ok true) :
      CallMove n l c (.launch n spawn) { c with stage := .starting }
        { l with launcher := some (p.ensure spawn).2, launching := some n }
  | misfire {p : Launcher} {spawn : Except String Unit} {e : GatewayError}
      (h : c.stage = .launching) (hp : l.launcher = some p) (hl : l.launching = none)
      (he : (p.ensure spawn).1 = .error e) :
      CallMove n l c (.launch n spawn) { c with stage := .settled (.decided (.error e)) }
        { l with launcher := some (p.ensure spawn).2 }
  | comeUp (h : c.stage = .starting) :
      CallMove n l c (.comeUp n) { c with stage := .entering } { l with launching := none }
  | skip (h : c.stage = .launching) (hp : l.launcher = none) :
      CallMove n l c (.proceed n) { c with stage := .entering } l
  | refuse (h : c.stage = .entering) (hc : l.closed = true) :
      CallMove n l c (.proceed n) { c with stage := .settled (.decided (.error .closed)) } l
  | enter (h : c.stage = .entering) (hc : l.closed = false) :
      CallMove n l c (.proceed n) { c with stage := .queued } l
  | deny (h : c.stage = .queued) (hc : l.permitsClosed = true) :
      CallMove n l c (.proceed n) { c with stage := .settled (.decided (.error .closed)) } l
  | permit (h : c.stage = .queued) (hc : l.permitsClosed = false) (hf : 0 < l.free) :
      CallMove n l c (.proceed n) { c with stage := .searching 0 } { l with free := l.free - 1 }
  | exhaust {slot : Nat} (h : c.stage = .searching slot) (hs : l.size ≤ slot) :
      CallMove n l c (.proceed n) { c with stage := .standing } l
  | lock {slot : Nat} (h : c.stage = .searching slot ∨ c.stage = .standing ∧ slot = 0)
      (hu : l.isUnlocked slot = true) :
      CallMove n l c (.proceed n) { c with stage := .leased slot }
        (l.setHolder slot (some (.call n)))
  | pass {slot : Nat} (h : c.stage = .searching slot) (hs : slot < l.size)
      (hu : l.isUnlocked slot = false) :
      CallMove n l c (.proceed n) { c with stage := .searching (slot + 1) } l
  | take {slot k : Nat} (h : c.stage = .leased slot) (hk : l.parked? slot = some k) :
      CallMove n l c (.proceed n) { c with stage := .sending slot k } (l.setParked slot none)
  | dial {slot : Nat} (h : c.stage = .leased slot) (hk : l.parked? slot = none) :
      CallMove n l c (.proceed n) { c with stage := .connecting slot } l
  | connect {slot : Nat} {u : Unit} (h : c.stage = .connecting slot) :
      CallMove n l c (.connect n (.ok u)) { c with stage := .announcing slot l.connections.length }
        l.opened
  | miss {slot : Nat} {message : String} (h : c.stage = .connecting slot) :
      CallMove n l c (.connect n (.error message))
        { c with stage := .unlocking slot (.decided (.error (.connection
          s!"Failed to connect to gateway at {l.settings.url}: {message}"))) } l
  | announce {slot k : Nat} (h : c.stage = .announcing slot k) :
      CallMove n l c (.proceed n) { c with stage := .sending slot k } (l.tell l.connectedEvent)
  | write {slot k : Nat} {u : Unit} (h : c.stage = .sending slot k) :
      CallMove n l c (.write n (.ok u)) { c with stage := .receiving slot k }
        (l.setConnection k (written n c.request.frame))
  | jam {slot k : Nat} {message : String} (h : c.stage = .sending slot k) :
      CallMove n l c (.write n (.error message))
        { c with stage := .failing slot k (.connection s!"Send failed: {message}") } l
  | ignore {slot k : Nat} {a : Arrival} {rest : List Arrival} (h : c.stage = .receiving slot k)
      (hi : l.inbox? k = some (a :: rest)) (hv : c.request.verdict? a = none) :
      CallMove n l c (.read n) c (l.setConnection k (leaving rest))
  | answer {slot k : Nat} {a : Arrival} {rest : List Arrival} {r : InvokeResponse}
      (h : c.stage = .receiving slot k) (hi : l.inbox? k = some (a :: rest))
      (hv : c.request.verdict? a = some (.ok r)) :
      CallMove n l c (.read n) { c with stage := .parking slot k r }
        (l.setConnection k (leaving rest))
  | fault {slot k : Nat} {a : Arrival} {rest : List Arrival} {e : GatewayError}
      (h : c.stage = .receiving slot k) (hi : l.inbox? k = some (a :: rest))
      (hv : c.request.verdict? a = some (.error e)) :
      CallMove n l c (.read n) { c with stage := .failing slot k e }
        (l.setConnection k (leaving rest))
  | park {slot k : Nat} {r : InvokeResponse} (h : c.stage = .parking slot k r) :
      CallMove n l c (.proceed n) { c with stage := .unlocking slot (.decided (.ok r)) }
        (l.setParked slot (some k))
  | report {slot k : Nat} {e : GatewayError} (h : c.stage = .failing slot k e) :
      CallMove n l c (.proceed n) { c with stage := .hangingUp slot k e }
        (l.tell (l.disconnectedEvent e))
  | hangUp {slot k : Nat} {e : GatewayError} (h : c.stage = .hangingUp slot k e) :
      CallMove n l c (.hangUp n) { c with stage := .letting slot k (.decided (.error e)) } l
  | letGo {slot k : Nat} {ending : AttemptEnd} (h : c.stage = .letting slot k ending) :
      CallMove n l c (.proceed n) { c with stage := .unlocking slot ending } (l.letGo k)
  | unlock {slot : Nat} {ending : AttemptEnd} (h : c.stage = .unlocking slot ending) :
      CallMove n l c (.proceed n) { c with stage := .returning ending } (l.setHolder slot none)
  | giveBack {ending : AttemptEnd} (h : c.stage = .returning ending) :
      CallMove n l c (.proceed n) { c with stage := .settled ending } { l with free := l.free + 1 }
  | retry {e : GatewayError} (h : c.stage = .settled (.decided (.error e)))
      (hr : e.isRetryable = true) (first : c.attempt = 1) :
      CallMove n l c (.proceed n)
        { c with attempt := 2, stage := .launching, retriedAt := some l.connections.length } l
  | fail {e : GatewayError} (h : c.stage = .settled (.decided (.error e)))
      (hr : ¬ (e.isRetryable = true ∧ c.attempt = 1)) :
      CallMove n l c (.proceed n) { c with stage := .finished (some (.error e)) } l
  | succeed {r : InvokeResponse} (h : c.stage = .settled (.decided (.ok r))) :
      CallMove n l c (.proceed n) { c with stage := .finished (some (.ok r)) } l
  | timeOut {elapsed : Nat} (h : c.stage = .settled (.abandoned (some elapsed))) :
      CallMove n l c (.proceed n) { c with stage := .finished (some (.error (.timeout elapsed))) } l
  | vanish (h : c.stage = .settled (.abandoned none)) :
      CallMove n l c (.proceed n) { c with stage := .finished none } l
  | quitEarly {expired : Option Nat} (h : c.stage = .launching ∨ c.stage = .queued) :
      CallMove n l c (.abandon n expired) { c with stage := .settled (.abandoned expired) } l
  | quitStarting {expired : Option Nat} (h : c.stage = .starting) :
      CallMove n l c (.abandon n expired) { c with stage := .settled (.abandoned expired) }
        { l with launching := none }
  | quitStanding {expired : Option Nat} (h : c.stage = .standing) :
      CallMove n l c (.abandon n expired) { c with stage := .returning (.abandoned expired) } l
  | quitConnecting {slot : Nat} {expired : Option Nat} (h : c.stage = .connecting slot) :
      CallMove n l c (.abandon n expired) { c with stage := .unlocking slot (.abandoned expired) } l
  | quitTalking {slot k : Nat} {expired : Option Nat}
      (h : c.stage = .sending slot k ∨ c.stage = .receiving slot k ∨
        ∃ e, c.stage = .hangingUp slot k e) :
      CallMove n l c (.abandon n expired) { c with stage := .letting slot k (.abandoned expired) } l

/-- An attempt to close the link with the number `i` goes from `c` to `c'`, and everything else
from `l` to `l'`. -/
inductive CloserMove (i : Nat) (l : Link) : CloserStage → CloserStage → Link → Prop
  | flag : CloserMove i l .entering .flagged { l with closed := true }
  | shut : CloserMove i l .flagged (.sweeping 0) { l with permitsClosed := true }
  | take {slot : Nat} {parked : Option Nat} (h : l.slots[slot]? = some ⟨none, parked⟩) :
      CloserMove i l (.sweeping slot) (.closing slot parked)
        ((l.setParked slot none).setHolder slot (some (.closer i)))
  | letGo {slot k : Nat} :
      CloserMove i l (.closing slot (some k)) (.closing slot none) (l.letGo k)
  | unlock {slot : Nat} :
      CloserMove i l (.closing slot none) (.sweeping (slot + 1)) (l.setHolder slot none)
  | swept {slot : Nat} (h : l.size ≤ slot) : CloserMove i l (.sweeping slot) .stopping l
  | finish (hp : ∀ p, l.launcher = some p → l.launching = none ∧ p.held = none) :
      CloserMove i l .stopping .returned l
  | seize {p : Launcher} {k : Nat} (hp : l.launcher = some p) (hl : l.launching = none)
      (hk : p.held = some k) :
      CloserMove i l .stopping (.killing k) { l with launcher := some p.release }
  | kill {k : Nat} :
      CloserMove i l (.killing k) .returned { l with launcher := l.launcher.map (·.exit k) }

/-- What an action does. -/
inductive Move : LinkAction → Link → Link → Prop
  | invoke {l : Link} (request : InvokeRequest) : Move (.invoke request) l (l.invoke request)
  | call {a : LinkAction} {l l' : Link} {n : Nat} {c c' : LinkCall} (h : l.calls[n]? = some c)
      (m : CallMove n l c a c' l') : Move a l { l' with calls := l.calls.set n c' }
  | arrive {l : Link} {k : Nat} {c : Connection} (a : Arrival) (h : l.connections[k]? = some c)
      (ho : c.isOpen = true) : Move (.arrive k a) l (l.setConnection k (receiving a))
  | close {l : Link} : Move .close l l.beginClose
  | closer {l l' : Link} {i : Nat} {c c' : CloserStage} (h : l.closers[i]? = some c)
      (m : CloserMove i l c c' l') : Move (.sweep i) l { l' with closers := l.closers.set i c' }
  | exit {l : Link} {p : Launcher} (process : Nat) (hp : l.launcher = some p) :
      Move (.exit process) l { l with launcher := some (p.exit process) }

/-! ### An action is its move -/

theorem setStage_eq {l : Link} {n : Nat} {c : LinkCall} (h : l.calls[n]? = some c)
    (stage : CallStage) :
    l.setStage n stage = { l with calls := l.calls.set n { c with stage } } := by
  simp only [setStage, setCall, h]

theorem stage?_eq_some {l : Link} {n : Nat} {stage : CallStage} (h : l.stage? n = some stage) :
    ∃ c, l.calls[n]? = some c ∧ c.stage = stage :=
  Option.map_eq_some_iff.1 h

theorem setHolder_eq (l : Link) (slot : Nat) (holder : Option SlotHolder) :
    l.setHolder slot holder = { l with slots := (l.setHolder slot holder).slots } := by
  unfold setHolder; split <;> rfl

theorem setParked_eq (l : Link) (slot : Nat) (parked : Option Nat) :
    l.setParked slot parked = { l with slots := (l.setParked slot parked).slots } := by
  unfold setParked; split <;> rfl

theorem setConnection_eq (l : Link) (k : Nat) (f : Connection → Connection) :
    l.setConnection k f = { l with connections := (l.setConnection k f).connections } := by
  unfold setConnection; split <;> rfl

theorem letGo_eq (l : Link) (k : Nat) :
    l.letGo k =
      { l with connections := (l.letGo k).connections, openCount := l.openCount - 1 } := by
  unfold letGo; rw [setConnection_eq]

/-- A call is put back after everything else has moved. -/
theorem move_setStage {a : LinkAction} {l l' : Link} {n : Nat} {c : LinkCall} {stage : CallStage}
    (h : l.calls[n]? = some c) (hs : l'.calls = l.calls)
    (m : CallMove n l c a { c with stage } l') :
    Move a l (l'.setStage n stage) := by
  rw [setStage_eq (c := c) (by rw [hs]; exact h), hs]
  exact .call h m

theorem move_of_launch {l t : Link} {n : Nat} {spawn : Except String Unit}
    (h : l.launch n spawn = some t) : Move (.launch n spawn) l t := by
  unfold launch at h
  split at h
  · rename_i p hs hp hl
    obtain ⟨c, hc, hst⟩ := stage?_eq_some hs
    split at h
    rename_i p' he
    obtain rfl : (p.ensure spawn).2 = p' := congrArg Prod.snd he
    have he := congrArg Prod.fst he
    split at h <;> cases h
    · exact move_setStage hc rfl (.misfire hst hp hl he)
    · exact move_setStage hc rfl (.find hst hp hl he)
    · rw [setStage_eq (l := { l with launcher := some (p.ensure spawn).2 }) hc]
      exact .call hc (.start hst hp hl he)
  · cases h

theorem move_of_comeUp {l t : Link} {n : Nat} (h : l.comeUp n = some t) :
    Move (.comeUp n) l t := by
  unfold comeUp at h
  split at h
  · rename_i hs
    obtain ⟨c, hc, hst⟩ := stage?_eq_some hs
    cases h
    rw [setStage_eq hc]
    exact .call hc (.comeUp hst)
  · cases h

theorem move_of_conclude {l t : Link} {n : Nat} {c : LinkCall} {ending : AttemptEnd}
    (hc : l.calls[n]? = some c) (hst : c.stage = .settled ending)
    (h : l.conclude n ending = some t) : Move (.proceed n) l t := by
  unfold conclude at h
  split at h
  · rw [hc, Option.map_some] at h
    split at h <;> cases h
    · rename_i hr
      exact .call hc (.retry hst hr.1 hr.2)
    · rename_i hr
      exact move_setStage hc rfl (.fail hst hr)
  · cases h
    exact move_setStage hc rfl (.succeed hst)
  · cases h
    exact move_setStage hc rfl (.timeOut hst)
  · cases h
    exact move_setStage hc rfl (.vanish hst)

theorem move_of_proceed {l t : Link} {n : Nat} (h : l.proceed n = some t) :
    Move (.proceed n) l t := by
  unfold proceed at h
  split at h
  case h_14 => cases h
  all_goals
    rename_i hs
    obtain ⟨c, hc, hst⟩ := stage?_eq_some hs
  · split at h <;> cases h
    rename_i hp
    exact move_setStage hc rfl (.skip hst (by simpa using hp))
  · cases h
    split
    · rename_i closed
      exact move_setStage hc rfl (.refuse hst closed)
    · rename_i closed
      exact move_setStage hc rfl (.enter hst (by simpa using closed))
  · split at h
    · rename_i closed
      cases h
      exact move_setStage hc rfl (.deny hst closed)
    · rename_i closed
      split at h <;> cases h
      rename_i hf
      rw [setStage_eq hc]
      exact .call hc (.permit hst (by simpa using closed) hf)
  · cases h
    split
    · rename_i hs
      exact move_setStage hc rfl (.exhaust hst hs)
    · rename_i hs
      split
      · rename_i hu
        exact move_setStage hc (by rw [setHolder_eq]) (.lock (.inl hst) hu)
      · rename_i hu
        exact move_setStage hc rfl (.pass hst (Nat.lt_of_not_le hs) (by simpa using hu))
  · split at h <;> cases h
    rename_i hu
    exact move_setStage hc (by rw [setHolder_eq]) (.lock (.inr ⟨hst, rfl⟩) hu)
  · cases h
    split
    · rename_i hk
      exact move_setStage hc (by rw [setParked_eq]) (.take hst hk)
    · rename_i hk
      exact move_setStage hc rfl (.dial hst hk)
  · cases h
    exact move_setStage hc rfl (.announce hst)
  · cases h
    exact move_setStage hc (by rw [setParked_eq]) (.park hst)
  · cases h
    exact move_setStage hc rfl (.report hst)
  · cases h
    exact move_setStage hc (by rw [letGo_eq]) (.letGo hst)
  · cases h
    exact move_setStage hc (by rw [setHolder_eq]) (.unlock hst)
  · cases h
    rw [setStage_eq hc]
    exact .call hc (.giveBack hst)
  · exact move_of_conclude hc hst h

theorem move_of_connect {l t : Link} {n : Nat} {outcome : Except String Unit}
    (h : l.connect n outcome = some t) : Move (.connect n outcome) l t := by
  unfold connect at h
  split at h
  · rename_i hs
    obtain ⟨c, hc, hst⟩ := stage?_eq_some hs
    split at h <;> cases h
    · exact move_setStage hc rfl (.connect hst)
    · exact move_setStage hc rfl (.miss hst)
  · cases h

theorem move_of_write {l t : Link} {n : Nat} {outcome : Except String Unit}
    (h : l.write n outcome = some t) : Move (.write n outcome) l t := by
  unfold write at h
  split at h
  · rename_i hc
    split at h <;> cases h
    · exact move_setStage hc (by rw [setConnection_eq]) (.write rfl)
    · exact move_setStage hc rfl (.jam rfl)
  · cases h

theorem move_of_arrive {l t : Link} {k : Nat} {a : Arrival} (h : l.arrive k a = some t) :
    Move (.arrive k a) l t := by
  unfold arrive at h
  split at h <;> cases h
  rename_i hk
  exact .arrive a hk rfl

theorem move_of_read {l t : Link} {n : Nat} (h : l.read n = some t) : Move (.read n) l t := by
  unfold read at h
  split at h
  · rename_i request attempt slot k retriedAt hc
    split at h
    · rename_i arrival rest hi
      cases h
      split
      · rename_i hv
        have m := Move.call hc (.ignore rfl hi hv)
        obtain ⟨hn, e⟩ := List.getElem?_eq_some_iff.1 hc
        have same : (l.setConnection k (leaving rest)).calls = l.calls := by rw [setConnection_eq]
        rw [← e, List.set_getElem_self, ← same] at m
        exact m
      · rename_i hv
        exact move_setStage hc (by rw [setConnection_eq]) (.answer rfl hi hv)
      · rename_i hv
        exact move_setStage hc (by rw [setConnection_eq]) (.fault rfl hi hv)
    · cases h
  · cases h

theorem move_of_hangUp {l t : Link} {n : Nat} (h : l.hangUp n = some t) : Move (.hangUp n) l t := by
  unfold hangUp at h
  split at h <;> cases h
  rename_i hs
  obtain ⟨c, hc, hst⟩ := stage?_eq_some hs
  exact move_setStage hc rfl (.hangUp hst)

theorem move_of_abandon {l t : Link} {n : Nat} {expired : Option Nat}
    (h : l.abandon n expired = some t) : Move (.abandon n expired) l t := by
  unfold abandon at h
  split at h
  case h_9 => cases h
  all_goals
    rename_i hs
    obtain ⟨c, hc, hst⟩ := stage?_eq_some hs
    cases h
  · exact move_setStage hc rfl (.quitEarly (.inl hst))
  · exact move_setStage hc rfl (.quitEarly (.inr hst))
  · rw [setStage_eq hc]
    exact .call hc (.quitStarting hst)
  · exact move_setStage hc rfl (.quitStanding hst)
  · exact move_setStage hc rfl (.quitConnecting hst)
  · exact move_setStage hc rfl (.quitTalking (.inl hst))
  · exact move_setStage hc rfl (.quitTalking (.inr (.inl hst)))
  · exact move_setStage hc rfl (.quitTalking (.inr (.inr ⟨_, hst⟩)))

/-- An attempt to close the link is put back after everything else has moved. -/
theorem move_setCloser {l l' : Link} {i : Nat} {c c' : CloserStage} (h : l.closers[i]? = some c)
    (hs : l'.closers = l.closers) (m : CloserMove i l c c' l') :
    Move (.sweep i) l (l'.setCloser i c') := by
  rw [setCloser, hs]
  exact .closer h m

theorem move_of_sweep {l t : Link} {i : Nat} (h : l.sweep i = some t) : Move (.sweep i) l t := by
  unfold sweep at h
  split at h
  · rename_i hc
    cases h
    exact .closer hc .flag
  · rename_i hc
    cases h
    exact .closer hc .shut
  · rename_i hc
    split at h
    · rename_i hs
      cases h
      exact .closer hc (.swept (List.getElem?_eq_none_iff.1 hs))
    · rename_i hs
      cases h
      exact move_setCloser hc (by rw [setHolder_eq, setParked_eq]) (.take hs)
    · cases h
  · rename_i hc
    cases h
    exact move_setCloser hc (by rw [letGo_eq]) .letGo
  · rename_i hc
    cases h
    exact move_setCloser hc (by rw [setHolder_eq]) .unlock
  · rename_i hc
    split at h <;> cases h
    · rename_i hp
      exact .closer hc (.finish fun p hp' => nomatch hp.symm.trans hp')
    · rename_i p hp hl
      split
      · rename_i hk
        exact .closer hc (.seize hp hl hk)
      · rename_i hk
        refine .closer hc (.finish fun p' hp' => ⟨hl, ?_⟩)
        obtain rfl := Option.some.inj (hp.symm.trans hp')
        exact hk
  · rename_i hc
    cases h
    exact .closer hc .kill
  · cases h

/-- Every action is one move. -/
theorem move_of_step {a : LinkAction} {l t : Link} (h : step a l = some t) : Move a l t := by
  cases a with
  | invoke request => cases h; exact .invoke request
  | launch n spawn => exact move_of_launch h
  | comeUp n => exact move_of_comeUp h
  | proceed n => exact move_of_proceed h
  | connect n outcome => exact move_of_connect h
  | write n outcome => exact move_of_write h
  | arrive k a => exact move_of_arrive h
  | read n => exact move_of_read h
  | hangUp n => exact move_of_hangUp h
  | abandon n expired => exact move_of_abandon h
  | close => cases h; exact .close
  | sweep i => exact move_of_sweep h
  | exit process =>
    obtain ⟨p, hp, rfl⟩ := Option.map_eq_some_iff.1 h
    exact .exit process hp

/-! ### Who is moved -/

theorem CallMove.call?_eq {n : Nat} {a : LinkAction} {l l' : Link} {c c' : LinkCall}
    (m : CallMove n l c a c' l') : a.call? = some n := by
  cases m <;> rfl

/-- The calls and the closing of the link stay as they are. -/
structure Apart (l l' : Link) : Prop where
  calls : l'.calls = l.calls
  closers : l'.closers = l.closers
  closed : l'.closed = l.closed
  permitsClosed : l'.permitsClosed = l.permitsClosed

/-- The step of a call changes no other call and has nothing to do with the closing of the link. -/
theorem CallMove.apart {n : Nat} {a : LinkAction} {l l' : Link} {c c' : LinkCall}
    (m : CallMove n l c a c' l') : l.Apart l' := by
  cases m with
  | lock | unlock => rw [setHolder_eq]; exact ⟨rfl, rfl, rfl, rfl⟩
  | take | park => rw [setParked_eq]; exact ⟨rfl, rfl, rfl, rfl⟩
  | write | ignore | answer | fault => rw [setConnection_eq]; exact ⟨rfl, rfl, rfl, rfl⟩
  | letGo => rw [letGo_eq]; exact ⟨rfl, rfl, rfl, rfl⟩
  | _ => exact ⟨rfl, rfl, rfl, rfl⟩

theorem CloserMove.calls {i : Nat} {l l' : Link} {c c' : CloserStage} (m : CloserMove i l c c' l') :
    l'.calls = l.calls := by
  cases m with
  | take => rw [setHolder_eq, setParked_eq]
  | letGo => rw [letGo_eq]
  | unlock => rw [setHolder_eq]
  | flag | shut | swept | finish | seize | kill => rfl

/-- A step of closing marks the link closed, or leaves the mark as it is. -/
theorem CloserMove.closed {i : Nat} {l l' : Link} {c c' : CloserStage}
    (m : CloserMove i l c c' l') :
    l'.closed = l.closed ∨ l'.closed = true := by
  cases m with
  | flag => exact .inr rfl
  | take => exact .inl (by rw [setHolder_eq, setParked_eq])
  | letGo => exact .inl (by rw [letGo_eq])
  | unlock => exact .inl (by rw [setHolder_eq])
  | shut | swept | finish | seize | kill => exact .inl rfl

/-- A step of closing closes the permits and no more, or leaves them as they are. -/
theorem CloserMove.permitsClosed {i : Nat} {l l' : Link} {c c' : CloserStage}
    (m : CloserMove i l c c' l') :
    l'.permitsClosed = l.permitsClosed ∨
      c' = .sweeping 0 ∧ c = .flagged ∧ l' = { l with permitsClosed := true } := by
  cases m with
  | shut => exact .inr ⟨rfl, rfl, rfl⟩
  | take => exact .inl (by rw [setHolder_eq, setParked_eq])
  | letGo => exact .inl (by rw [letGo_eq])
  | unlock => exact .inl (by rw [setHolder_eq])
  | flag | swept | finish | seize | kill => exact .inl rfl

/-- A call is where it was unless the action is a step of it, or begins it. -/
theorem Move.call_of_other {a : LinkAction} {l l' : Link} {n : Nat} (m : Move a l l')
    (ha : a.call? ≠ some n) :
    l'.calls[n]? = l.calls[n]? ∨
      n = l.calls.length ∧ ∃ request, l'.calls[n]? = some ⟨request, 1, .launching, none⟩ := by
  cases m with
  | invoke request =>
    rw [Link.invoke, getElem?_concat_ite]
    split
    · rename_i e
      exact .inr ⟨e, request, rfl⟩
    · exact .inl rfl
  | call h m =>
    rw [List.getElem?_set_ne fun e => ha (m.call?_eq.trans (congrArg some e))]
    exact .inl rfl
  | closer h m => rw [m.calls]; exact .inl rfl
  | arrive => rw [setConnection_eq]; exact .inl rfl
  | close | exit => exact .inl rfl

/-- What every move keeps is kept by every run. -/
theorem kept_of_reaches {P : Link → Prop} (keep : ∀ a l t, Move a l t → P l → P t) {l t : Link}
    (h : Machine.Reaches step l t) (hl : P l) : P t :=
  h.invariant (fun a _ _ ha => keep a _ _ (move_of_step ha)) hl

/-- What holds of a new link and is kept by every move holds always. -/
theorem Reachable.of_moves {settings : GatewaySettings} {l : Link} (h : Reachable settings l)
    {P : Link → Prop} (start : P (ofSettings settings)) (keep : ∀ a l t, Move a l t → P l → P t) :
    P l :=
  kept_of_reaches keep h start

/-! ### A sample -/

/-- A request. -/
def sampleRequest : InvokeRequest where
  version := protocolVersion
  callId := ⟨7⟩
  scriptPath := "clock.py"
  widget := ⟨⟨8⟩, "clock", "label"⟩
  trigger := none
  bindings := []

/-- A call comes to be written to a new connection. -/
def sampleOpening (n : Nat) : List LinkAction :=
  [.invoke sampleRequest] ++ List.replicate 5 (.proceed n) ++
    [.connect n (.ok ()), .proceed n, .write n (.ok ())]

/-- The answer to the request. -/
def sampleAnswer : String := (WireMessage.result (.ofValue sampleRequest.callId none)).text

/-- A call is answered, and parks its connection. -/
def sampleEnding (n k : Nat) : List LinkAction :=
  [.arrive k (.text sampleAnswer), .read n] ++ List.replicate 4 (.proceed n)

end Link

end PanelScript
