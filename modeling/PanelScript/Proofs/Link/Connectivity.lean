import PanelScript.Proofs.Link.Balance

/-!
# What observers learn of connections

Observers are told when a connection was opened and when one has failed. They are not told of a
connection that is given up because nobody waits for its call any more, or because the link is
closed.

* `CallStage.hides` tells the stages at which a connection is open and the events do not say so;
* `untold` counts the connections that an action gives up and nobody is told of;
* `connectivity_accounts`: connections that were told to be opened are lost, open, or were given up
  untold, and at no time are more told to be lost than opened;
* `given_up_untold`: there are such connections.
-/

namespace PanelScript

/-- Whether observers are told that a connection was opened. -/
def Event.isOpening (e : Event) : Bool := e.kind = .gatewayConnected

/-- Whether observers are told that a connection was lost. -/
def Event.isLoss (e : Event) : Bool := e.kind = .gatewayDisconnected

/-- Whether the connection of a call is open although the events do not say so: nobody was told yet
that it was opened, or it was given for lost already. -/
def CallStage.hides : CallStage → Bool
  | .announcing _ _ | .hangingUp _ _ _ | .letting _ _ _ => true
  | _ => false

/-- Whether an action can give a connection up without a word. -/
def LinkAction.isSilent : LinkAction → Bool
  | .abandon _ _ | .sweep _ => true
  | _ => false

theorem CallStage.connection?_of_hides {stage : CallStage} (h : stage.hides = true) :
    stage.hold.connection?.isSome = true := by
  cases stage <;> first | rfl | cases h

namespace Link

variable {settings : GatewaySettings} {l l' : Link} {n : Nat}

/-- How many connections an action gives up that observers are not told of. -/
def untold (a : LinkAction) (l : Link) : Nat :=
  match a with
  | .abandon call _ =>
    match l.stage? call with
    | some (.sending _ _) | some (.receiving _ _) => 1
    | _ => 0
  | .sweep closer =>
    match l.closers[closer]? with
    | some (.closing _ (some _)) => 1
    | _ => 0
  | _ => 0

/-- How many connections are given up along a run that observers are not told of. -/
def untoldIn : List LinkAction → Link → Nat
  | [], _ => 0
  | a :: actions, l =>
    match step a l with
    | some l' => untold a l + untoldIn actions l'
    | none => 0

/-! ### What one action tells -/

theorem untold_of_not_silent {a : LinkAction} (h : a.isSilent = false) : untold a l = 0 := by
  cases a <;> first | rfl | cases h

/-- A call tells of a connection that it opens, and of one that fails; it tells nothing of one that
it gives up. -/
theorem CallMove.told {a : LinkAction} {c c' : LinkCall} (m : CallMove n l c a c' l')
    (hc : l.calls[n]? = some c) (cu : l.Custody) :
    ∃ told, l'.events = l.events ++ told ∧ told.length ≤ 1 ∧
      told.countP Event.isLoss + l'.openCount + untold a l + c.stage.hides.toNat =
        told.countP Event.isOpening + l.openCount + c'.stage.hides.toNat := by
  have quiet (e : l'.events = l.events) (o : l'.openCount = l.openCount) (u : untold a l = 0)
      (s : c'.stage.hides = c.stage.hides) :
      ∃ told, l'.events = l.events ++ told ∧ told.length ≤ 1 ∧
        told.countP Event.isLoss + l'.openCount + untold a l + c.stage.hides.toNat =
          told.countP Event.isOpening + l.openCount + c'.stage.hides.toNat := by
    refine ⟨[], by rw [e, List.append_nil], Nat.zero_le _, ?_⟩
    rw [o, u, s]
    rfl
  have stage : l.stage? n = some c.stage := by rw [stage?, hc]; rfl
  cases m with
  | announce h =>
    refine ⟨[l.connectedEvent], rfl, Nat.le_refl _, ?_⟩
    rw [h]
    show 0 + l.openCount + 0 + 1 = 1 + l.openCount + 0
    omega
  | @report _ _ e h =>
    refine ⟨[l.disconnectedEvent e], rfl, Nat.le_refl _, ?_⟩
    rw [h]
    show 1 + l.openCount + 0 + 0 = 0 + l.openCount + 1
    omega
  | connect h =>
    refine ⟨[], (List.append_nil _).symm, Nat.zero_le _, ?_⟩
    rw [h]
    show 0 + (l.openCount + 1) + 0 + 0 = 0 + l.openCount + 1
    omega
  | @letGo s k _ h =>
    have held : l.hold (.call n) = .connection s k := by
      rw [hold_call hc, LinkCall.hold, h]
      rfl
    have some : 0 < l.openCount := openCount_pos cu held
    refine ⟨[], by rw [letGo_eq, List.append_nil], Nat.zero_le _, ?_⟩
    rw [letGo_eq, h]
    show 0 + (l.openCount - 1) + 0 + 1 = 0 + l.openCount + 0
    omega
  | quitTalking h =>
    rcases h with h | h | ⟨e, h⟩
    · refine ⟨[], (List.append_nil _).symm, Nat.zero_le _, ?_⟩
      rw [untold, stage, h]
      show 0 + l.openCount + 1 + 0 = 0 + l.openCount + 1
      omega
    · refine ⟨[], (List.append_nil _).symm, Nat.zero_le _, ?_⟩
      rw [untold, stage, h]
      show 0 + l.openCount + 1 + 0 = 0 + l.openCount + 1
      omega
    · exact quiet rfl rfl (by rw [untold, stage, h]) (by rw [h]; rfl)
  | quitEarly h =>
    rcases h with h | h <;> exact quiet rfl rfl (by rw [untold, stage, h]) (by rw [h]; rfl)
  | quitStarting h | quitStanding h | quitConnecting h =>
    exact quiet rfl rfl (by rw [untold, stage, h]) (by rw [h]; rfl)
  | lock h =>
    rcases h with h | ⟨h, -⟩ <;>
      exact quiet (by rw [setHolder_eq]) (by rw [setHolder_eq]) rfl (by rw [h]; rfl)
  | unlock h => exact quiet (by rw [setHolder_eq]) (by rw [setHolder_eq]) rfl (by rw [h]; rfl)
  | take h | park h =>
    exact quiet (by rw [setParked_eq]) (by rw [setParked_eq]) rfl (by rw [h]; rfl)
  | write h | answer h | fault h =>
    exact quiet (by rw [setConnection_eq]) (by rw [setConnection_eq]) rfl (by rw [h]; rfl)
  | ignore => exact quiet (by rw [setConnection_eq]) (by rw [setConnection_eq]) rfl rfl
  | find h | start h | misfire h | comeUp h | skip h | refuse h | enter h | deny h | permit h
  | exhaust h | pass h | dial h | miss h | jam h | hangUp h | giveBack h | retry h | fail h
  | succeed h | timeOut h | vanish h => exact quiet rfl rfl rfl (by rw [h]; rfl)

/-- An attempt to close the link tells nothing of a connection that it gives up. -/
theorem CloserMove.told {i : Nat} {c c' : CloserStage} (m : CloserMove i l c c' l')
    (hc : l.closers[i]? = some c) (cu : l.Custody) :
    l'.events = l.events ∧ l'.openCount + untold (.sweep i) l = l.openCount := by
  rw [untold, hc]
  cases m with
  | @letGo s k =>
    have some : 0 < l.openCount :=
      openCount_pos cu (x := .closer i) (s := s) (k := k) (by rw [hold_closer hc]; rfl)
    rw [letGo_eq]
    refine ⟨rfl, ?_⟩
    show l.openCount - 1 + 1 = l.openCount
    omega
  | take => rw [setHolder_eq, setParked_eq]; exact ⟨rfl, rfl⟩
  | unlock => rw [setHolder_eq]; exact ⟨rfl, rfl⟩
  | flag | shut | swept | finish | seize | kill => exact ⟨rfl, rfl⟩

/-- An action tells at most one thing. What was opened is told, lost, open, or given up untold
afterwards if it was before. -/
theorem Move.told {a : LinkAction} (m : Move a l l') (cu : l.Custody) :
    ∃ told, l'.events = l.events ++ told ∧ told.length ≤ 1 ∧
      told.countP Event.isLoss + l'.openCount + untold a l + l.calls.countP (·.stage.hides) =
        told.countP Event.isOpening + l.openCount + l'.calls.countP (·.stage.hides) := by
  have quiet (e : l'.events = l.events) (o : l'.openCount = l.openCount) (u : untold a l = 0)
      (s : l'.calls.countP (·.stage.hides) = l.calls.countP (·.stage.hides)) :
      ∃ told, l'.events = l.events ++ told ∧ told.length ≤ 1 ∧
        told.countP Event.isLoss + l'.openCount + untold a l + l.calls.countP (·.stage.hides) =
          told.countP Event.isOpening + l.openCount + l'.calls.countP (·.stage.hides) := by
    refine ⟨[], by rw [e, List.append_nil], Nat.zero_le _, ?_⟩
    rw [o, u, s]
    rfl
  cases m with
  | invoke request => exact quiet rfl rfl rfl (by rw [Link.invoke, countP_concat]; rfl)
  | close | exit => exact quiet rfl rfl rfl rfl
  | arrive =>
    exact quiet (by rw [setConnection_eq]) (by rw [setConnection_eq]) rfl (by rw [setConnection_eq])
  | @call _ _ l' n c c' hc m =>
    obtain ⟨told, events, few, balance⟩ := m.told hc cu
    refine ⟨told, events, few, ?_⟩
    have counted := countP_set_add hc c' (·.stage.hides)
    show _ + l'.openCount + _ + _ = _ + _ + (l.calls.set n c').countP (·.stage.hides)
    omega
  | @closer _ l' i c c' hc m =>
    obtain ⟨events, balance⟩ := m.told hc cu
    refine ⟨[], by rw [List.append_nil]; exact events, Nat.zero_le _, ?_⟩
    show 0 + l'.openCount + _ + _ = 0 + _ + l'.calls.countP _
    rw [m.calls]
    omega

/-! ### What is told along a run -/

/-- The connections that were told to be opened, with those that are not told yet, are the ones that
were told to be lost, that are open, and that were given up untold. -/
def Accounted (l : Link) (before : Nat) : Prop :=
  l.events.countP Event.isOpening + l.calls.countP (·.stage.hides) =
    l.events.countP Event.isLoss + l.connected + before

theorem Accounted.run {actions : List LinkAction} {before : Nat} (ac : l.Accounted before)
    (cu : l.Custody) (h : Machine.run step actions l = some l') :
    l'.Accounted (before + untoldIn actions l) := by
  induction actions generalizing l before with
  | nil =>
    obtain rfl := Option.some.inj h
    exact ac
  | cons a actions ih =>
    rw [Machine.run_cons, Option.bind_eq_some_iff] at h
    obtain ⟨u, ha, hu⟩ := h
    have m := move_of_step ha
    obtain ⟨told, events, -, balance⟩ := m.told cu
    have ac' : u.Accounted (before + untold a l) := by
      unfold Accounted connected at *
      rw [events, List.countP_append, List.countP_append]
      omega
    have := ih ac' (cu.move m) hu
    rwa [Nat.add_assoc, show untold a l + untoldIn actions u = untoldIn (a :: actions) l by
      rw [untoldIn, ha]] at this

/-- At every time as many connections are open as the events do not tell of. -/
theorem hides_le_connected (h : Reachable settings l) :
    l.calls.countP (·.stage.hides) ≤ l.connected := by
  have held : l.calls.countP (·.stage.hides) ≤ l.calls.countP (·.hold.connection?.isSome) :=
    List.countP_mono_left fun c _ hides => CallStage.connection?_of_hides hides
  have := (balanced h).connected
  omega

theorem losses_le (h : Reachable settings l) :
    l.events.countP Event.isLoss ≤ l.events.countP Event.isOpening := by
  have hidden := hides_le_connected h
  obtain ⟨actions, run⟩ := h
  have start : (ofSettings settings).Accounted 0 := rfl
  have := start.run (custody_ofSettings settings) run
  unfold Accounted at this
  omega

/-- In no beginning of the events are more losses than openings. -/
theorem losses_le_of_prefix (h : Reachable settings l) {seen : List Event}
    (hs : seen <+: l.events) : seen.countP Event.isLoss ≤ seen.countP Event.isOpening := by
  refine (Machine.Reaches.invariant h
    (P := fun l => Reachable settings l ∧ ∀ seen, seen <+: l.events →
      seen.countP Event.isLoss ≤ seen.countP Event.isOpening)
    (fun a u v ha ⟨hu, old⟩ => ⟨hu.snoc ha, fun seen hs => ?_⟩) ⟨.refl _ _, fun seen hs => ?_⟩).2
    seen hs
  · obtain ⟨told, events, few, -⟩ := (move_of_step ha).told (custody hu)
    cases told with
    | nil =>
      rw [events, List.append_nil] at hs
      exact old seen hs
    | cons e rest =>
      obtain rfl : rest = [] := List.length_eq_zero_iff.1 (by simpa using few)
      -- The events seen are those that were told before, or all.
      rw [events] at hs
      rcases List.prefix_concat_iff.1 hs with whole | before
      · rw [whole, ← events]
        exact losses_le (hu.snoc ha)
      · exact old seen before
  · rw [List.prefix_nil.1 hs]
    exact Nat.le_refl 0

theorem untoldIn_eq_zero {actions : List LinkAction} (h : ∀ a ∈ actions, a.isSilent = false)
    (l : Link) : untoldIn actions l = 0 := by
  induction actions generalizing l with
  | nil => rfl
  | cons a actions ih =>
    rw [untoldIn]
    split
    · rename_i u ha
      rw [untold_of_not_silent (h a List.mem_cons_self),
        ih (fun b hb => h b (List.mem_cons_of_mem a hb)) u]
    · rfl

/-- **What observers learn of connections.** At no time were more connections told to be lost than
to be opened. While no call is under way, those that were told to be opened are those that were told
to be lost, those that are open, and those that were given up without a word, because nobody waited
for a call any more or because the link was closed. If neither has happened, the events account for
all connections. -/
theorem connectivity_accounts {actions : List LinkAction}
    (h : Machine.run step actions (ofSettings settings) = some l) :
    (∀ seen, seen <+: l.events →
      seen.countP Event.isLoss ≤ seen.countP Event.isOpening) ∧
    l.events.countP Event.isOpening + l.calls.countP (·.stage.hides) =
      l.events.countP Event.isLoss + l.connected + untoldIn actions (ofSettings settings) ∧
    ((∀ c ∈ l.calls, c.isActive = false) →
      l.events.countP Event.isOpening =
        l.events.countP Event.isLoss + l.connected + untoldIn actions (ofSettings settings) ∧
      ((∀ a ∈ actions, a.isSilent = false) →
        l.events.countP Event.isOpening = l.events.countP Event.isLoss + l.connected)) := by
  have start : (ofSettings settings).Accounted 0 := rfl
  have accounted := start.run (custody_ofSettings settings) h
  rw [Nat.zero_add] at accounted
  refine ⟨fun seen hs => losses_le_of_prefix ⟨actions, h⟩ hs, accounted, fun idle => ?_⟩
  have none : l.calls.countP (·.stage.hides) = 0 := by
    apply List.countP_eq_zero.2
    intro c hc hides
    have ended := idle c hc
    unfold LinkCall.isActive at ended
    cases e : c.stage with
    | finished v => rw [e] at hides; cases hides
    | _ => simp [e] at ended
  unfold Accounted at accounted
  rw [none, Nat.add_zero] at accounted
  refine ⟨accounted, fun loud => ?_⟩
  rwa [untoldIn_eq_zero loud, Nat.add_zero] at accounted

/-- A call is given up while it waits for its answer. Another one loses its connection and is
answered on a third one. -/
def sampleLosses : List LinkAction :=
  sampleOpening 0 ++ [.abandon 0 none] ++ List.replicate 4 (.proceed 0) ++ sampleOpening 1 ++
    [.arrive 1 .ended, .read 1, .proceed 1, .hangUp 1] ++ List.replicate 9 (.proceed 1) ++
    [.connect 1 (.ok ()), .proceed 1, .write 1 (.ok ())] ++ sampleEnding 1 2

theorem connectivity_accounts_sample :
    ∃ l, Machine.run step sampleLosses (ofSettings {}) = some l ∧
      untoldIn sampleLosses (ofSettings {}) = 1 ∧ l.connected = 1 ∧
      l.events.countP Event.isOpening = l.events.countP Event.isLoss + 1 + 1 ∧
      (l.events.take 2).countP Event.isLoss ≤ (l.events.take 2).countP Event.isOpening := by
  have run : (Machine.run step sampleLosses (ofSettings {})).map (fun l =>
      (l.connected, l.calls.all (!·.isActive), untoldIn sampleLosses (ofSettings {}))) =
      some (1, true, 1) := by decide +kernel
  obtain ⟨l, hl, after⟩ := Option.map_eq_some_iff.1 run
  simp only [Prod.mk.injEq] at after
  obtain ⟨one, idle, lost⟩ := after
  obtain ⟨least, -, ended⟩ := connectivity_accounts hl
  obtain ⟨balance, -⟩ := ended (by simpa using idle)
  rw [one, lost] at balance
  exact ⟨l, hl, lost, one, balance, least _ (List.take_prefix 2 l.events)⟩

/-- Observers are told that one connection was opened and never that one was lost, while nothing is
under way and no connection is open: the link was closed with the connection parked, or the time of
the call was over before its answer came. -/
theorem given_up_untold :
    (Machine.run step (sampleOpening 0 ++ sampleEnding 0 0 ++ [.close] ++
        List.replicate 9 (.sweep 0)) (ofSettings {})).map (fun l =>
      (l.events.countP Event.isOpening, l.events.countP Event.isLoss, l.connected,
        l.calls.map LinkCall.isActive, l.closers)) =
      some (1, 0, 0, [false], [.returned]) ∧
    (Machine.run step (sampleOpening 0 ++ [.abandon 0 (some 10000)] ++
        List.replicate 4 (.proceed 0)) (ofSettings {})).map (fun l =>
      (l.events.countP Event.isOpening, l.events.countP Event.isLoss, l.connected,
        l.calls.map LinkCall.isActive, l.closers)) =
      some (1, 0, 0, [false], []) := by
  constructor <;> decide +kernel

end Link

end PanelScript
