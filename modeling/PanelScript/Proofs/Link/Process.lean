import PanelScript.Proofs.Launcher
import PanelScript.Proofs.Link.Closing

/-!
# The process of a link that was closed

To close a link takes its process out of the launcher, and ends it. From then on the launcher is
free for others, and a call looks after the process before it looks whether the link is closed. So
a call that begins afterwards starts the process again, and then is turned away.

* `Move.change`: a step leaves the launcher as it is, or changes it as `Launcher.Change` says;
* `Minded`: a process that is alive is held by the launcher, or is being ended;
* `LinkCall.mayLaunch` tells the calls that can start a process yet when the link is closed;
* `closing_stops`: once an attempt to close the link has taken the process out, only calls start
  processes, each of them one at most, and older ones are alive only until they are ended;
* `process_started_when_closed`: such a call does start one.
-/

namespace PanelScript

/-- Whether a call can yet come to look after the process of a link that is closed: it is about to,
or its first attempt can fail so that there is a second. -/
def LinkCall.mayLaunch (c : LinkCall) : Bool :=
  match c.stage with
  | .launching => true
  | .starting | .entering | .finished _ => false
  | .settled (.decided (.error e)) => e.isRetryable && c.attempt == 1
  | .settled _ => false
  | _ => c.attempt == 1

/-- A call that is over starts no process. -/
theorem LinkCall.mayLaunch_of_over {c : LinkCall} (h : c.isActive = false) :
    c.mayLaunch = false := by
  unfold LinkCall.isActive at h
  unfold LinkCall.mayLaunch
  cases e : c.stage with
  | finished v => rfl
  | _ => simp [e] at h

namespace Link

variable {settings : GatewaySettings} {l l' t : Link} {n : Nat} {p p' : Launcher}

/-! ### What becomes of the launcher -/

/-- A call changes the launcher only when it looks after the process. -/
theorem CallMove.launcher_cases {a : LinkAction} {c c' : LinkCall} (m : CallMove n l c a c' l') :
    l'.launcher = l.launcher ∨
      ∃ p spawn, a = .launch n spawn ∧ l.launcher = some p ∧
        l'.launcher = some (p.ensure spawn).2 := by
  cases m with
  | find _ hp | start _ hp | misfire _ hp => exact .inr ⟨_, _, rfl, hp, rfl⟩
  | lock | unlock => rw [setHolder_eq]; exact .inl rfl
  | take | park => rw [setParked_eq]; exact .inl rfl
  | write | ignore | answer | fault => rw [setConnection_eq]; exact .inl rfl
  | letGo => rw [letGo_eq]; exact .inl rfl
  | _ => exact .inl rfl

/-- An attempt to close the link takes the process out of the launcher, or ends the one that it has
taken out, or leaves the launcher as it is. -/
theorem CloserMove.launcher_cases {i : Nat} {c c' : CloserStage} (m : CloserMove i l c c' l') :
    l'.launcher = l.launcher ∧ (∀ k, c ≠ .killing k) ∨
      (∃ p k, l.launcher = some p ∧ p.held = some k ∧ c = .stopping ∧ c' = .killing k ∧
        l'.launcher = some p.release) ∨
      ∃ k, c = .killing k ∧ c' = .returned ∧ l'.launcher = l.launcher.map (·.exit k) := by
  cases m with
  | seize hp _ hk => exact .inr (.inl ⟨_, _, hp, hk, rfl, rfl, rfl⟩)
  | kill => exact .inr (.inr ⟨_, rfl, rfl, rfl⟩)
  | take => rw [setHolder_eq, setParked_eq]; exact .inl ⟨rfl, nofun⟩
  | letGo => rw [letGo_eq]; exact .inl ⟨rfl, nofun⟩
  | unlock => rw [setHolder_eq]; exact .inl ⟨rfl, nofun⟩
  | flag | shut | swept | finish => exact .inl ⟨rfl, nofun⟩

/-- A step leaves the launcher as it is, or changes it. -/
theorem Move.change {a : LinkAction} (m : Move a l l') (hp : l.launcher = some p)
    (hp' : l'.launcher = some p') : p' = p ∨ p.Change p' := by
  have same (e : l'.launcher = l.launcher) : p' = p ∨ p.Change p' :=
    .inl (Option.some.inj (hp'.symm.trans (e.trans hp)))
  cases m with
  | invoke | close => exact same rfl
  | arrive => exact same (by rw [setConnection_eq])
  | call _ m =>
    rcases m.launcher_cases with e | ⟨q, spawn, -, hq, e⟩
    · exact same e
    · obtain rfl := Option.some.inj (hp.symm.trans hq)
      obtain rfl := Option.some.inj (hp'.symm.trans e)
      exact .inr (.ensure spawn)
  | closer _ m =>
    rcases m.launcher_cases with ⟨e, -⟩ | ⟨q, _, hq, -, -, -, e⟩ | ⟨k, -, -, e⟩
    · exact same e
    · obtain rfl := Option.some.inj (hp.symm.trans hq)
      obtain rfl := Option.some.inj (hp'.symm.trans e)
      exact .inr .release
    · rw [hp, Option.map_some] at e
      obtain rfl := Option.some.inj (hp'.symm.trans e)
      exact .inr (.exit k)
  | exit k hq =>
    obtain rfl := Option.some.inj (hp.symm.trans hq)
    obtain rfl := Option.some.inj hp'
    exact .inr (.exit k)

/-- A step takes no process away that was started. -/
theorem Move.length_le {a : LinkAction} (m : Move a l l') (hp : l.launcher = some p)
    (hp' : l'.launcher = some p') : p.processes.length ≤ p'.processes.length := by
  rcases m.change hp hp' with rfl | ch
  · exact Nat.le_refl _
  · exact ch.length_le

/-- A step neither makes a launcher nor takes it away. -/
theorem Move.exists_launcher {a : LinkAction} (m : Move a l l') (hp : l.launcher = some p) :
    ∃ p', l'.launcher = some p' := by
  have still := m.launcher
  rw [hp] at still
  exact Option.isSome_iff_exists.1 still

/-! ### Who minds a process -/

/-- Who has taken a process out has it until it has ended it. -/
theorem killing_mem_set {i k : Nat} {c c' : CloserStage} (h : l.closers[i]? = some c)
    (other : c ≠ .killing k) (mem : .killing k ∈ l.closers) : .killing k ∈ l.closers.set i c' := by
  obtain ⟨j, hj⟩ := List.mem_iff_getElem?.1 mem
  refine List.mem_of_getElem? (i := j) ?_
  have apart : i ≠ j := by
    rintro rfl
    exact other (Option.some.inj (h.symm.trans hj))
  rw [List.getElem?_set_ne apart]
  exact hj

/-- A process that is alive after a step was started by it, or is minded as before: an attempt to
close the link is ending it, or the launcher holds it and lets go of it only for one. -/
theorem Move.survivor {a : LinkAction} (m : Move a l l') (hp : l.launcher = some p)
    (hp' : l'.launcher = some p') {k : Nat} (alive : p'.isAlive k = true) :
    k = p.processes.length ∧ p'.held = some k ∨
      p.isAlive k = true ∧ (.killing k ∈ l.closers → .killing k ∈ l'.closers) ∧
        (p.held = some k → p'.held = some k ∨ .killing k ∈ l'.closers) := by
  have same (e : l'.launcher = l.launcher)
      (kept : .killing k ∈ l.closers → .killing k ∈ l'.closers) :
      k = p.processes.length ∧ p'.held = some k ∨
        p.isAlive k = true ∧ (.killing k ∈ l.closers → .killing k ∈ l'.closers) ∧
          (p.held = some k → p'.held = some k ∨ .killing k ∈ l'.closers) := by
    obtain rfl := Option.some.inj (hp'.symm.trans (e.trans hp))
    exact .inr ⟨alive, kept, .inl⟩
  cases m with
  | invoke => exact same rfl id
  | close => exact same rfl (List.mem_append_left _)
  | arrive => exact same (by rw [setConnection_eq]) (by rw [setConnection_eq]; exact id)
  | exit j hq =>
    obtain rfl := Option.some.inj (hp.symm.trans hq)
    obtain rfl := Option.some.inj hp'
    exact .inr ⟨(Launcher.isAlive_exit alive).2, id, .inl⟩
  | @call _ _ l' n c c' _ m =>
    have kept : CloserStage.killing k ∈ l.closers → .killing k ∈ l'.closers := by
      rw [m.apart.closers]; exact id
    rcases m.launcher_cases with e | ⟨q, spawn, -, hq, e⟩
    · exact same e kept
    · obtain rfl := Option.some.inj (hp.symm.trans hq)
      obtain rfl := Option.some.inj (hp'.symm.trans e)
      rcases p.ensure_cases spawn with ⟨-, e⟩ | ⟨ended, -, e⟩
      · rw [e] at alive ⊢
        exact .inr ⟨alive, kept, .inl⟩
      · rw [e] at alive ⊢
        rcases Launcher.isAlive_started alive with rfl | old
        · exact .inl ⟨rfl, rfl⟩
        · refine .inr ⟨old, kept, fun held => ?_⟩
          rw [Launcher.isRunning, held] at ended
          exact absurd old (Bool.eq_false_iff.1 ended)
  | closer hc m =>
    rcases m.launcher_cases with ⟨e, other⟩ | ⟨q, j, hq, hj, rfl, rfl, e⟩ | ⟨j, rfl, rfl, e⟩
    · exact same e (killing_mem_set hc (other k))
    · obtain rfl := Option.some.inj (hp.symm.trans hq)
      obtain rfl := Option.some.inj (hp'.symm.trans e)
      refine .inr ⟨alive, killing_mem_set hc (by simp), fun held => .inr ?_⟩
      obtain rfl := Option.some.inj (hj.symm.trans held)
      exact List.mem_set (List.getElem?_eq_some_iff.1 hc).1 _
    · rw [hp, Option.map_some] at e
      obtain rfl := Option.some.inj (hp'.symm.trans e)
      obtain ⟨ne, alive⟩ := Launcher.isAlive_exit alive
      exact .inr ⟨alive, killing_mem_set hc fun e => ne (CloserStage.killing.inj e).symm, .inl⟩

/-- A process that is alive is held by the launcher, or an attempt to close the link is ending it;
and the process that is held was started. -/
structure Minded (l : Link) (p : Launcher) : Prop where
  alive : ∀ k, p.isAlive k = true → p.held = some k ∨ .killing k ∈ l.closers
  started : ∀ k, p.held = some k → k < p.processes.length

theorem Minded.move {a : LinkAction} (h : l.Minded p) (m : Move a l l') (hp : l.launcher = some p)
    (hp' : l'.launcher = some p') : l'.Minded p' where
  alive k alive := by
    rcases m.survivor hp hp' alive with ⟨-, held⟩ | ⟨old, ending, lost⟩
    · exact .inl held
    · rcases h.alive k old with held | minded
      · exact lost held
      · exact .inr (ending minded)
  started k held := by
    rcases m.change hp hp' with rfl | ch
    · exact h.started k held
    · exact ch.held_lt h.started held

/-- The process is minded always. -/
theorem minded (h : Reachable settings l) (hp : l.launcher = some p) : l.Minded p := by
  refine h.of_moves (P := fun l => ∀ p, l.launcher = some p → l.Minded p) ?_ ?_ p hp
  · intro p hp
    obtain ⟨command, -, hq⟩ := Option.bind_eq_some_iff.1 hp
    have sole := Launcher.sole_of_ofCommand? hq
    exact ⟨fun k alive => .inl (sole k alive), fun k held =>
      nomatch (Launcher.held_of_ofCommand? hq).symm.trans held⟩
  · intro a l l' m old p' hp'
    have still := m.launcher
    rw [hp', Option.isSome_some] at still
    obtain ⟨p, hp⟩ := Option.isSome_iff_exists.1 still.symm
    exact (old p hp).move m hp hp'

/-- If the process that the launcher holds is not alive, all that are alive are being ended. -/
theorem Minded.ending (h : l.Minded p) (ended : p.isRunning = false) {k : Nat}
    (alive : p.isAlive k = true) : .killing k ∈ l.closers := by
  refine (h.alive k alive).resolve_left fun held => ?_
  rw [Launcher.isRunning, held] at ended
  exact absurd alive (Bool.eq_false_iff.1 ended)

/-! ### Calls of a link that is closed -/

/-- When the link is closed, a call that starts a process can start no other. -/
theorem CallMove.launches {a : LinkAction} {c c' : LinkCall} (m : CallMove n l c a c' l')
    (closed : l.closed = true) (hp : l.launcher = some p) (hp' : l'.launcher = some p') :
    p'.processes.length + c'.mayLaunch.toNat ≤ p.processes.length + c.mayLaunch.toNat := by
  have same (e : l'.launcher = l.launcher) (le : c'.mayLaunch = true → c.mayLaunch = true) :
      p'.processes.length + c'.mayLaunch.toNat ≤ p.processes.length + c.mayLaunch.toNat := by
    obtain rfl := Option.some.inj (hp'.symm.trans (e.trans hp))
    apply Nat.add_le_add_left
    cases h' : c'.mayLaunch with
    | false => exact Nat.zero_le _
    | true => rw [le h']
  -- A process can start only for a call that goes on to see that the link is closed.
  have started {spawn : Except String Unit} (h : c.stage = .launching)
      (e : l'.launcher = some (p.ensure spawn).2) (none : c'.mayLaunch = false) :
      p'.processes.length + c'.mayLaunch.toNat ≤ p.processes.length + c.mayLaunch.toNat := by
    obtain rfl := Option.some.inj (hp'.symm.trans e)
    rw [none, LinkCall.mayLaunch, h]
    rcases p.ensure_cases spawn with ⟨-, same⟩ | ⟨-, -, start⟩
    · rw [same]
      exact Nat.add_le_add_left (Nat.zero_le _) _
    · rw [start, Launcher.started, List.length_append]
      exact Nat.le_refl _
  cases m with
  | find h hq | start h hq =>
    obtain rfl := Option.some.inj (hp.symm.trans hq)
    exact started h rfl rfl
  | misfire h hq _ he =>
    obtain rfl := Option.some.inj (hp.symm.trans hq)
    obtain ⟨message, rfl⟩ := Launcher.error_of_ensure he
    exact started h rfl rfl
  | enter _ hc => rw [closed] at hc; cases hc
  | retry h hr first =>
    refine same rfl fun _ => ?_
    rw [LinkCall.mayLaunch, h, first]
    simp [hr]
  | @giveBack ending h =>
    refine same rfl fun h' => ?_
    rw [LinkCall.mayLaunch, h]
    cases ending with
    | abandoned => cases h'
    | decided v =>
      cases v with
      | ok r => cases h'
      | error e => exact (Bool.and_eq_true_iff.1 h').2
  | lock h =>
    rw [setHolder_eq] at *
    refine same rfl fun h' => ?_
    rcases h with h | ⟨h, -⟩ <;> (rw [LinkCall.mayLaunch, h]; exact h')
  | quitTalking h =>
    refine same rfl fun h' => ?_
    rcases h with h | h | ⟨_, h⟩ <;> (rw [LinkCall.mayLaunch, h]; exact h')
  | take h | park h =>
    refine same (by rw [setParked_eq]) fun h' => ?_
    rw [LinkCall.mayLaunch, h]
    exact h'
  | unlock h =>
    refine same (by rw [setHolder_eq]) fun h' => ?_
    rw [LinkCall.mayLaunch, h]
    exact h'
  | write h | answer h | fault h =>
    refine same (by rw [setConnection_eq]) fun h' => ?_
    rw [LinkCall.mayLaunch, h]
    exact h'
  | ignore h => exact same (by rw [setConnection_eq]) id
  | letGo h =>
    refine same (by rw [letGo_eq]) fun h' => ?_
    rw [LinkCall.mayLaunch, h]
    exact h'
  | comeUp | skip | refuse | deny | fail | succeed | timeOut | vanish | quitEarly | quitStarting =>
    exact same rfl fun h' => absurd h' Bool.false_ne_true
  | permit h | exhaust h | pass h | dial h | connect h | miss h | announce h | jam h | report h
  | hangUp h | quitStanding h | quitConnecting h =>
    refine same rfl fun h' => ?_
    rw [LinkCall.mayLaunch, h]
    exact h'

/-- A call that is turned away changes nothing but itself, and the process. -/
theorem CallMove.eq_of_barred {a : LinkAction} {c c' : LinkCall} {launches : Bool}
    (m : CallMove n l c a c' l') (b : Barred launches c.stage) :
    l' = { l with launcher := l'.launcher, launching := l'.launching } := by
  cases m with
  | lock h => rcases h with h | ⟨h, -⟩ <;> rw [h] at b <;> cases b
  | permit h | take h | connect h | announce h | write h | ignore h | answer h | fault h | park h
  | report h | letGo h | unlock h | giveBack h => rw [h] at b; cases b
  | _ => rfl

/-! ### After closing -/

/-- Since a state `v` with the launcher `q` the processes that are alive and are not being ended
were started, and not more were started than calls could start one then or have begun since. -/
structure StartedSince (v : Link) (q : Launcher) (t : Link) (p : Launcher) : Prop where
  launcher : t.launcher = some p
  later : q.processes.length ≤ p.processes.length
  young : ∀ k, p.isAlive k = true → q.processes.length ≤ k ∨ .killing k ∈ t.closers
  few : p.processes.length + t.calls.countP LinkCall.mayLaunch + v.calls.length ≤
    q.processes.length + v.calls.countP LinkCall.mayLaunch + t.calls.length

section StartedSince

variable {v : Link} {q : Launcher}

theorem StartedSince.move {a : LinkAction} (st : StartedSince v q t p) (m : Move a t l')
    (closed : t.closed = true) : ∃ p', StartedSince v q l' p' := by
  obtain ⟨p', hp'⟩ := m.exists_launcher st.launcher
  suffices few : p'.processes.length + l'.calls.countP LinkCall.mayLaunch + t.calls.length ≤
      p.processes.length + t.calls.countP LinkCall.mayLaunch + l'.calls.length by
    refine ⟨p', hp', Nat.le_trans st.later (m.length_le st.launcher hp'), fun k alive => ?_,
      by have := st.few; omega⟩
    · rcases m.survivor st.launcher hp' alive with ⟨rfl, -⟩ | ⟨old, ending, -⟩
      · exact .inl st.later
      · exact (st.young k old).imp_right ending
  cases m with
  | invoke request =>
    obtain rfl := Option.some.inj (st.launcher.symm.trans hp')
    rw [Link.invoke, countP_concat, List.length_append, List.length_singleton]
    show _ + (_ + 1) + _ ≤ _
    omega
  | @call _ _ l' n c c' hc m =>
    have moved := m.launches closed st.launcher hp'
    have counted := countP_set_add hc c' LinkCall.mayLaunch
    show _ + (t.calls.set n c').countP _ + _ ≤ _ + _ + (t.calls.set n c').length
    rw [List.length_set]
    omega
  | arrive =>
    rw [setConnection_eq] at hp' ⊢
    obtain rfl := Option.some.inj (st.launcher.symm.trans hp')
    exact Nat.le_refl _
  | close =>
    obtain rfl := Option.some.inj (st.launcher.symm.trans hp')
    exact Nat.le_refl _
  | @closer _ l' i c c' hc m =>
    show _ + l'.calls.countP _ + _ ≤ _ + _ + l'.calls.length
    rw [m.calls]
    apply Nat.add_le_add_right
    apply Nat.add_le_add_right
    rcases m.launcher_cases with ⟨same, -⟩ | ⟨p₀, _, hp₀, -, -, -, e⟩ | ⟨k, -, -, e⟩
    · obtain rfl := Option.some.inj (hp'.symm.trans (same.trans st.launcher))
      exact Nat.le_refl _
    · obtain rfl := Option.some.inj (st.launcher.symm.trans hp₀)
      obtain rfl := Option.some.inj (hp'.symm.trans e)
      exact Nat.le_refl _
    · rw [st.launcher, Option.map_some] at e
      obtain rfl := Option.some.inj (hp'.symm.trans e)
      exact Nat.le_of_eq List.length_set
  | exit k hq =>
    obtain rfl := Option.some.inj (st.launcher.symm.trans hq)
    obtain rfl := Option.some.inj hp'
    rw [Launcher.exit, List.length_set]

theorem StartedSince.run (st : StartedSince v q v q) (closed : v.closed = true)
    (r : Machine.Reaches step v t) : ∃ p, StartedSince v q t p := by
  refine (kept_of_reaches (P := fun t => t.closed = true ∧ ∃ p, StartedSince v q t p) ?_ r
    ⟨closed, q, st⟩).2
  rintro a u u' m ⟨closed, p, st⟩
  exact ⟨m.closed closed, st.move m closed⟩

end StartedSince

/-- An attempt to close the link that has taken a process out, or has returned and the process has
ended. -/
def Ends (i k : Nat) (t : Link) (p : Launcher) : Prop :=
  t.closers[i]? = some (.killing k) ∨
    t.closers[i]? = some .returned ∧ p.isAlive k = false

theorem Ends.move {i k : Nat} {a : LinkAction} (h : l.Ends i k p) (m : Move a l l')
    (hp : l.launcher = some p) (hp' : l'.launcher = some p') (old : k < p.processes.length) :
    l'.Ends i k p' := by
  -- What has ended once does not live again.
  have still (ended : p.isAlive k = false) : p'.isAlive k = false := by
    refine Bool.eq_false_iff.2 fun alive => ?_
    rcases m.survivor hp hp' alive with ⟨rfl, -⟩ | ⟨alive, -⟩
    · exact Nat.lt_irrefl _ old
    · exact Bool.eq_false_iff.1 ended alive
  have same (e : l'.closers[i]? = l.closers[i]?) : l'.Ends i k p' := by
    unfold Ends
    rw [e]
    exact h.imp_right fun ⟨back, ended⟩ => ⟨back, still ended⟩
  cases m with
  | invoke | exit => exact same rfl
  | arrive => exact same (by rw [setConnection_eq])
  | call _ m => exact same (by rw [← m.apart.closers])
  | close =>
    have lt : i < l.closers.length := by
      rcases h with h | ⟨h, -⟩ <;> exact (List.getElem?_eq_some_iff.1 h).1
    exact same (List.getElem?_append_left lt)
  | @closer _ _ j c c' hc m =>
    by_cases e : i = j
    · subst e
      rcases h with h | ⟨h, -⟩
      · obtain rfl := Option.some.inj (h.symm.trans hc)
        cases m with
        | kill =>
          refine .inr ⟨List.getElem?_set_self (List.getElem?_eq_some_iff.1 hc).1, ?_⟩
          rw [hp, Option.map_some] at hp'
          obtain rfl := Option.some.inj hp'
          exact Bool.eq_false_iff.2 fun alive => (Launcher.isAlive_exit alive).1 rfl
      · obtain rfl := Option.some.inj (h.symm.trans hc)
        cases m
    · exact same (List.getElem?_set_ne (Ne.symm e))

theorem Ends.run {i k : Nat} (h : l.Ends i k p) (hp : l.launcher = some p)
    (old : k < p.processes.length) (r : Machine.Reaches step l t) :
    ∃ p', t.launcher = some p' ∧ t.Ends i k p' := by
  have kept : ∃ p', t.launcher = some p' ∧ k < p'.processes.length ∧ t.Ends i k p' := by
    refine kept_of_reaches
      (P := fun t => ∃ p, t.launcher = some p ∧ k < p.processes.length ∧ t.Ends i k p) ?_ r
      ⟨p, hp, old, h⟩
    rintro a u u' m ⟨p, hp, old, ends⟩
    obtain ⟨p', hp'⟩ := m.exists_launcher hp
    exact ⟨p', hp', Nat.lt_of_lt_of_le old (m.length_le hp hp'), ends.move m hp hp' old⟩
  obtain ⟨p', hp', -, ends⟩ := kept
  exact ⟨p', hp', ends⟩

/-- An attempt to close the link that goes on from the launcher leaves it without a process, and has
the one that it held. -/
theorem taken_of_stopping {u v : Link} {i : Nat} {q : Launcher} (h : Reachable settings u)
    (there : u.closers[i]? = some .stopping) (hs : step (.sweep i) u = some v)
    (hq : v.launcher = some q) :
    q.held = none ∧ ∀ k, u.launcher.bind Launcher.held = some k →
      v.closers[i]? = some (.killing k) ∧ k < q.processes.length := by
  cases move_of_step hs with
  | call _ m => cases m.call?_eq
  | closer hc m =>
    obtain rfl := Option.some.inj (there.symm.trans hc)
    cases m with
    | finish bare =>
      refine ⟨(bare q hq).2, fun k held => ?_⟩
      rw [hq, Option.bind_some, (bare q hq).2] at held
      cases held
    | @seize p j hp _ hj =>
      obtain rfl := Option.some.inj hq
      refine ⟨rfl, fun k held => ?_⟩
      rw [hp, Option.bind_some, hj] at held
      obtain rfl := Option.some.inj held
      exact ⟨List.getElem?_set_self (List.getElem?_eq_some_iff.1 hc).1,
        (minded h hp).started j hj⟩

/-- **What closing does to the process.** Once an attempt to close the link has waited for the
launcher and taken its process out, a process is alive only if it was started since, or is one that
an attempt to close the link is ending; and when this attempt returns, the process that it has taken
out has ended. Only calls start processes: each of those that were under way one at most, and each
of those that begin. So if no call was under way and none has begun, no process is alive as soon as
none is being ended. A call that begins is turned away, and changes nothing but itself and the
launcher, and this only by starting a process when all that are alive are being ended. -/
theorem closing_stops {u v : Link} {i : Nat} {q : Launcher} (h : Reachable settings u)
    (there : u.closers[i]? = some .stopping) (hs : step (.sweep i) u = some v)
    (hq : v.launcher = some q) (r : Machine.Reaches step v t) :
    ∃ p, t.launcher = some p ∧
      (∀ k, p.isAlive k = true → q.processes.length ≤ k ∨ .killing k ∈ t.closers) ∧
      (t.closers[i]? = some .returned →
        ∀ k, u.launcher.bind Launcher.held = some k → p.isAlive k = false) ∧
      p.processes.length ≤
        q.processes.length + v.calls.countP LinkCall.mayLaunch + (t.calls.length - v.calls.length) ∧
      ((∀ c ∈ v.calls, c.isActive = false) → t.calls.length = v.calls.length →
        (∀ k, .killing k ∉ t.closers) → p.alive = 0) ∧
      ∀ n, v.calls[n]? = none →
        (∀ c, t.calls[n]? = some c → Barred true c.stage) ∧
        ∀ a t', a.call? = some n → step a t = some t' →
          (∃ launcher launching, t' = { t with calls := t'.calls, launcher, launching }) ∧
          (t'.launcher = t.launcher ∨
            a = .launch n (.ok ()) ∧ (∀ k, p.isAlive k = true → .killing k ∈ t.closers) ∧
              t'.launcher = some p.started) := by
  have hv : Reachable settings v := h.snoc hs
  have closed : v.closed = true :=
    (move_of_step hs).closed (closed_of_flagged h (List.mem_of_getElem? there) nofun)
  obtain ⟨bare, taken⟩ := taken_of_stopping h there hs hq
  have start : StartedSince v q v q := by
    refine ⟨hq, Nat.le_refl _, fun k alive => .inr ((minded hv hq).ending ?_ alive), Nat.le_refl _⟩
    rw [Launcher.isRunning, bare]
  obtain ⟨p, st⟩ := start.run closed r
  have minded : t.Minded p := minded (Machine.Reaches.trans hv r) st.launcher
  refine ⟨p, st.launcher, st.young, fun back k held => ?_, ?_, fun idle same calm => ?_,
    fun n new => ?_⟩
  · obtain ⟨ends, lt⟩ := taken k held
    obtain ⟨p', hp', ends⟩ := Ends.run (.inl ends) hq lt r
    obtain rfl := Option.some.inj (hp'.symm.trans st.launcher)
    rcases ends with there | ⟨-, ended⟩
    · cases there.symm.trans back
    · exact ended
  · have := st.few
    omega
  · have still : v.calls.countP LinkCall.mayLaunch = 0 :=
      List.countP_eq_zero.2 fun c hc =>
        Bool.eq_false_iff.1 (LinkCall.mayLaunch_of_over (idle c hc))
    apply List.count_eq_zero.2
    intro mem
    obtain ⟨k, hk⟩ := List.mem_iff_getElem?.1 mem
    have young := (st.young k (Launcher.isAlive_iff.2 hk)).resolve_right (calm k)
    have lt := (List.getElem?_eq_some_iff.1 hk).1
    have := st.few
    omega
  · obtain ⟨-, -, barred⟩ := barred_of_reaches closed new r
    have launches : t.launcher.isSome = true := by rw [st.launcher]; rfl
    rw [launches] at barred
    refine ⟨barred, fun a t' ha hs => ?_⟩
    cases move_of_step hs with
    | call hc m =>
      obtain rfl := Option.some.inj (m.call?_eq.symm.trans ha)
      constructor
      · rw [m.eq_of_barred (barred _ hc)]
        exact ⟨_, _, rfl⟩
      · rcases m.launcher_cases with same | ⟨p₀, spawn, rfl, hp₀, e⟩
        · exact .inl same
        · obtain rfl := Option.some.inj (st.launcher.symm.trans hp₀)
          rcases p.ensure_cases spawn with ⟨-, same⟩ | ⟨ended, rfl, start⟩
          · rw [same] at e
            exact .inl (e.trans hp₀.symm)
          · rw [start] at e
            exact .inr ⟨rfl, fun k alive => minded.ending ended alive, e⟩
    | invoke | arrive | close | closer | exit => cases ha

/-- A link that starts its process itself. -/
def sampleSettings : GatewaySettings := { command := some ["interpreter"] }

/-- A call starts the process and is given up; the link is closed up to its process. -/
def sampleStopping : List LinkAction :=
  [.invoke sampleRequest, .launch 0 (.ok ()), .comeUp 0, .proceed 0, .abandon 0 none, .proceed 0,
    .close] ++ List.replicate 7 (.sweep 0)

/-- A call begins and is over. -/
def sampleRefused (n : Nat) : List LinkAction :=
  [.invoke sampleRequest, .launch n (.ok ()), .comeUp n, .proceed n, .proceed n]

theorem closing_stops_sample :
    ∃ u v t p, Machine.run step sampleStopping (ofSettings sampleSettings) = some u ∧
      u.launcher.map Launcher.alive = some 1 ∧ step (.sweep 0) u = some v ∧
      v.launcher.map Launcher.alive = some 1 ∧ v.closers = [.killing 0] ∧
      Machine.run step (.sweep 0 :: sampleRefused 1) v = some t ∧ t.launcher = some p ∧
      p.isAlive 0 = false ∧ p.processes.length ≤ 2 ∧ (∀ k, p.isAlive k = true → 1 ≤ k) ∧
      ∃ c, t.calls[1]? = some c ∧ Barred true c.stage := by
  have run : (Machine.run step sampleStopping (ofSettings sampleSettings)).map (fun u =>
      (u.closers, u.launcher.map Launcher.alive, u.launcher.bind Launcher.held)) =
      some ([.stopping], some 1, some 0) := by decide +kernel
  have rest : ((Machine.run step sampleStopping (ofSettings sampleSettings)).bind fun u =>
      (step (.sweep 0) u).bind fun v =>
        (Machine.run step (.sweep 0 :: sampleRefused 1) v).map fun t =>
          ((v.closers, v.launcher.map Launcher.alive, v.launcher.map (·.processes.length)),
            (v.calls.length, v.calls.countP LinkCall.mayLaunch), t.calls.length, t.closers)) =
      some (([.killing 0], some 1, some 1), (1, 0), 2, [.returned]) := by decide +kernel
  obtain ⟨u, hu, before⟩ := Option.map_eq_some_iff.1 run
  rw [hu, Option.bind_some, Option.bind_eq_some_iff] at rest
  obtain ⟨v, hv, rest⟩ := rest
  obtain ⟨t, ht, after⟩ := Option.map_eq_some_iff.1 rest
  simp only [Prod.mk.injEq] at before after
  obtain ⟨there, alive, held⟩ := before
  obtain ⟨⟨killing, lives, started⟩, ⟨first, idle⟩, second, closers⟩ := after
  obtain ⟨q, hq, one⟩ := Option.map_eq_some_iff.1 started
  obtain ⟨p, hp, young, dead, few, -, turned⟩ :=
    closing_stops ⟨_, hu⟩ (by rw [there]; rfl) hv hq ⟨_, ht⟩
  have two : 1 < t.calls.length := by rw [second]; decide
  have new : v.calls[1]? = none := List.getElem?_eq_none (Nat.le_of_eq first)
  refine ⟨u, v, t, p, hu, alive, hv, lives, killing, ht, hp, dead (by rw [closers]; rfl) 0 held, ?_,
    fun k alive => ?_, _, List.getElem?_eq_getElem two,
    (turned 1 new).1 _ (List.getElem?_eq_getElem two)⟩
  · omega
  · have old := (young k alive).resolve_right (by rw [closers]; simp)
    omega

/-- A call that begins when the link was closed starts the process that was ended, and leaves it
behind. And if the process cannot be started, the call fails because of that. -/
theorem process_started_when_closed :
    ((Machine.run step (sampleStopping ++ [.sweep 0, .sweep 0] ++ sampleRefused 1)
      (ofSettings sampleSettings)).map fun l =>
        (l.closers, l.calls.map LinkCall.isActive, l.launcher.map Launcher.isRunning)) =
      some ([.returned], [false, false], some true) ∧
    ((Machine.run step (sampleStopping ++ [.sweep 0, .sweep 0] ++
        [.invoke sampleRequest, .launch 1 (.error "not found"), .proceed 1])
      (ofSettings sampleSettings)).bind fun l => l.verdict? 1) =
      some (.error (.launch "interpreter: not found")) := by
  decide +kernel

end Link

end PanelScript
