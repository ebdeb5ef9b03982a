import PanelScript.Proofs.Link.Dialogue
import PanelScript.Proofs.Link.Search

/-!
# The second attempt at a call

A call whose connection has failed is tried once more. It has given that connection up, but it takes
the first slot that it finds free, and in another slot a connection can be parked that was opened
before the failure.

* `HasAt` tells which connections belong to a slot, and `Move.hasAt` that a connection stays with
  its slot;
* `Failed` is what holds after a first attempt has failed: the slot of that attempt has no older
  connection;
* `servedStep` takes only actions that can happen once the gateway was started anew and serves all
  that reaches it; the connections of before are of no use;
* `spent` counts these connections and the failures of calls: a failure uses such a connection up;
* `retry_connection`: what the second attempt runs on, and how many calls fail after a new start;
* `retried_in_vain`: such a call.
-/

namespace PanelScript

/-- The error that an attempt has ended with. -/
def AttemptEnd.error? : AttemptEnd → Option GatewayError
  | .decided (.error e) => some e
  | .abandoned (some elapsed) => some (.timeout elapsed)
  | .decided (.ok _) | .abandoned none => none

/-- The error that the attempt at a call has come to. -/
def CallStage.error? : CallStage → Option GatewayError
  | .failing _ _ e | .hangingUp _ _ e | .finished (some (.error e)) => some e
  | .letting _ _ ending | .unlocking _ ending | .returning ending | .settled ending => ending.error?
  | _ => none

/-- Whether nobody waits for an attempt any more. -/
def AttemptEnd.isAbandoned : AttemptEnd → Bool
  | .abandoned _ => true
  | .decided _ => false

/-- Whether nobody waits for a call any more. -/
def CallStage.isAbandoned : CallStage → Bool
  | .letting _ _ ending | .unlocking _ ending | .returning ending | .settled ending =>
    ending.isAbandoned
  | .finished v => v.isNone
  | _ => false

/-- Whether the first attempt at a call has failed. -/
def LinkCall.hasFailed (c : LinkCall) : Bool := c.attempt = 2 || c.stage.error?.isSome

/-- Whether the second attempt at a call has failed. -/
def LinkCall.hasFailedTwice (c : LinkCall) : Bool := c.attempt = 2 && c.stage.error?.isSome

/-- Whether a call is over and has failed. -/
def LinkCall.isLost (c : LinkCall) : Bool := !c.isActive && c.stage.error?.isSome

/-- Whether a call talks on one of the first `m` connections. -/
def LinkCall.usesOld (m : Nat) (c : LinkCall) : Bool := c.stage.talksOn?.any (· < m)

/-- What holds of a call that begins when the gateway serves all that reaches it. -/
structure LinkCall.Served (c : LinkCall) : Prop where
  attempt : c.attempt = 1 ∨ c.attempt = 2
  error : ∀ e, c.stage.error? = some e → e.isRetryable = true
  awaited : c.stage.isAbandoned = false
  twice : c.isLost = true → c.attempt = 2

theorem LinkCall.Served.of_same {c c' : LinkCall} (sv : c.Served) (attempt : c'.attempt = c.attempt)
    (error : c'.stage.error? = c.stage.error?)
    (awaited : c'.stage.isAbandoned = c.stage.isAbandoned) (active : c'.isActive = true) :
    c'.Served where
  attempt := by rw [attempt]; exact sv.attempt
  error e he := sv.error e (error ▸ he)
  awaited := awaited.trans sv.awaited
  twice lost := by
    rw [LinkCall.isLost, active] at lost
    cases lost

namespace Link

variable {settings : GatewaySettings} {l l' t u v : Link} {n : Nat}

/-! ### Connections and their slots -/

/-- A connection belongs to a slot: it is parked there, or it is held by the one that has locked
the slot. -/
def HasAt (l : Link) (s k : Nat) : Prop := l.parked? s = some k ∨ ∃ x, l.hold x = .connection s k

/-- A participant puts into a slot and takes out of it what belongs to it, or what it has opened. -/
theorem Trade.hasAt {x : SlotHolder} {h h' : Hold} {s k : Nat} (tr : Trade x l h h' t)
    (own : ∀ s, h.slot? = some s → s < l.size)
    (after : t.parked? s = some k ∨ h' = .connection s k) :
    l.parked? s = some k ∨ h = .connection s k ∨ k = l.connections.length := by
  cases tr with
  | keep => exact after.imp_right .inl
  | lock hu =>
    rcases after with hp | e
    · rw [parked?_setHolder (isUnlocked_iff.1 hu).1] at hp
      exact .inl hp
    · cases e
  | @seize s₀ parked hs =>
    have lt : s₀ < l.size := (List.getElem?_eq_some_iff.1 hs).1
    have found : l.parked? s₀ = parked := by rw [parked?, hs]; rfl
    left
    rcases after with hp | e
    · rw [parked?_setHolder (by rw [size_setParked]; exact lt), parked?_setParked lt] at hp
      split at hp
      · cases hp
      · exact hp
    · cases parked with
      | none => cases e
      | some k => cases e; exact found
  | @take s₀ k₀ hk =>
    rcases after with hp | e
    · rw [parked?_setParked (own _ rfl)] at hp
      split at hp
      · cases hp
      · exact .inl hp
    · cases e
      exact .inl hk
  | dial | miss =>
    rcases after with hp | e
    · exact .inl hp
    · cases e
  | connect =>
    rcases after with hp | e
    · exact .inl hp
    · cases e
      exact .inr (.inr rfl)
  | @park s₀ k₀ =>
    rcases after with hp | e
    · rw [parked?_setParked (own _ rfl)] at hp
      split at hp
      · rename_i e
        cases hp
        rw [e]
        exact .inr (.inl rfl)
      · exact .inl hp
    · cases e
  | letGo _ hk =>
    rcases after with hp | e
    · rw [letGo_eq] at hp
      exact .inl hp
    · rw [e] at hk
      cases hk
  | unlock hs =>
    rcases after with hp | e
    · rw [parked?_setHolder (own _ hs)] at hp
      exact .inl hp
    · cases e

/-- A connection stays with its slot. -/
theorem Move.hasAt {a : LinkAction} {s k : Nat} (m : Move a l l') (cu : l.Custody)
    (h : l'.HasAt s k) : l.HasAt s k ∨ k = l.connections.length := by
  obtain ⟨x, hold, t, tr, st, sw⟩ := m.trade
  have traded (after : t.parked? s = some k ∨ hold = .connection s k) :
      l.HasAt s k ∨ k = l.connections.length := by
    rcases tr.hasAt cu.lt_size after with hp | hx | new
    · exact .inl (.inl hp)
    · exact .inl (.inr ⟨x, hx⟩)
    · exact .inr new
  rcases h with hp | ⟨y, hy⟩
  · rw [st.parked?] at hp
    exact traded (.inl hp)
  · rw [sw.hold] at hy
    split at hy
    · exact traded (.inr hy)
    · exact .inl (.inr ⟨y, hy⟩)

theorem length_setConnection (l : Link) (k : Nat) (f : Connection → Connection) :
    (l.setConnection k f).connections.length = l.connections.length := by
  unfold setConnection
  split
  · exact List.length_set
  · rfl

theorem CallMove.length_connections {a : LinkAction} {c c' : LinkCall}
    (m : CallMove n l c a c' l') : l.connections.length ≤ l'.connections.length := by
  cases m with
  | connect => exact Nat.le_of_lt (by rw [opened, List.length_append]; exact Nat.lt_succ_self _)
  | write | ignore | answer | fault => rw [length_setConnection]
  | letGo => exact Nat.le_of_eq (length_setConnection l _ _).symm
  | lock | unlock => rw [setHolder_eq]
  | take | park => rw [setParked_eq]
  | _ => exact Nat.le_refl _

/-- No connection is forgotten. -/
theorem Move.length_connections {a : LinkAction} (m : Move a l l') :
    l.connections.length ≤ l'.connections.length := by
  cases m with
  | call _ m => exact m.length_connections
  | arrive => rw [length_setConnection]
  | closer _ m =>
    cases m with
    | letGo => exact Nat.le_of_eq (length_setConnection l _ _).symm
    | take => rw [setHolder_eq, setParked_eq]
    | unlock => rw [setHolder_eq]
    | _ => exact Nat.le_refl _
  | invoke | close | exit => exact Nat.le_refl _

section Custody

variable (cu : l.Custody) {x : SlotHolder} {s k : Nat}
include cu

/-- A connection that belongs to a slot is open. -/
theorem isOpenAt_of_hasAt (h : l.HasAt s k) : l.isOpenAt k = true := by
  have some : 0 < l.custodians (· == k) := by
    rcases h with hp | ⟨x, hx⟩
    · have lt := lt_size_of_parked? hp
      refine Nat.add_pos_left (List.countP_pos_iff.2
        ⟨_, List.mem_of_getElem? (getElem?_slots lt), ?_⟩) _
      rw [hp]
      exact beq_self_eq_true k
    · have m : l.hold x ∈ l.holds := hold_mem_holds (by rw [hx]; nofun)
      rw [hx] at m
      exact Nat.add_pos_right _ (List.countP_pos_iff.2 ⟨_, m, beq_self_eq_true k⟩)
  rw [cu.owners k] at some
  cases e : l.isOpenAt k with
  | true => rfl
  | false => rw [e] at some; cases some

/-- To a slot that someone has emptied belongs only the connection that was taken out. -/
theorem hold_of_hasAt (h : l.HasAt s k) (he : (l.hold x).emptied? = some s) :
    l.hold x = .connection s k := by
  rcases h with hp | ⟨y, hy⟩
  · exact nomatch hp.symm.trans (cu.emptied x s he)
  · have mine := (cu.locks x s).1 (Hold.slot?_of_emptied? he)
    have other := (cu.locks y s).1 (by rw [hy]; rfl)
    obtain rfl : x = y := Option.some.inj (mine.symm.trans other)
    exact hy

end Custody

/-! ### After a first attempt -/

/-- After a call has failed in a slot `s₀`, when the link stood at `v`: the older connections are
with the slots that they were with, and with `s₀` there is none but the one that the call is giving
up. -/
structure Failed (v : Link) (n s₀ : Nat) (l : Link) : Prop where
  custody : l.Custody
  older : v.connections.length ≤ l.connections.length
  home : ∀ s k, l.HasAt s k → k < v.connections.length → v.HasAt s k
  gone : ∀ k, l.HasAt s₀ k → k < v.connections.length →
    ∃ c, l.calls[n]? = some c ∧ c.attempt = 1 ∧ c.stage.givesUp? = some k

/-- A call that gives a connection up goes on to do so, in the same attempt, until it is closed. -/
theorem CallMove.givesUp {a : LinkAction} {c c' : LinkCall} {k : Nat} (m : CallMove n l c a c' l')
    (h : c.stage.givesUp? = some k) :
    c'.attempt = c.attempt ∧ (c'.stage.givesUp? = some k ∨ l'.isOpenAt k = false) := by
  cases m with
  | report e | hangUp e =>
    rw [e] at h
    exact ⟨rfl, .inl h⟩
  | letGo e =>
    rw [e] at h
    cases h
    refine ⟨rfl, .inr ?_⟩
    rw [isOpenAt_letGo, if_pos rfl]
  | quitTalking e =>
    rcases e with e | e | ⟨_, e⟩ <;> rw [e] at h
    · cases h
    · cases h
    · exact ⟨rfl, .inl h⟩
  | quitEarly e => rcases e with e | e <;> rw [e] at h <;> cases h
  | lock e => rcases e with e | ⟨e, -⟩ <;> rw [e] at h <;> cases h
  | find e | start e | misfire e | comeUp e | skip e | refuse e | enter e | deny e | permit e
  | exhaust e | pass e | take e | dial e | connect e | miss e | announce e | write e | jam e
  | ignore e | answer e | fault e | park e | unlock e | giveBack e | retry e | fail e | succeed e
  | timeOut e | vanish e | quitStarting e | quitStanding e | quitConnecting e =>
    rw [e] at h
    cases h

theorem Failed.move {a : LinkAction} {s₀ : Nat} (f : Failed v n s₀ l) (m : Move a l l') :
    Failed v n s₀ l' := by
  have cu' := f.custody.move m
  have before {s k} (h : l'.HasAt s k) (lt : k < v.connections.length) : l.HasAt s k := by
    refine (m.hasAt f.custody h).resolve_right fun e => ?_
    have := f.older
    omega
  refine ⟨cu', Nat.le_trans f.older m.length_connections, fun s k h lt => ?_, fun k h lt => ?_⟩
  · exact f.home s k (before h lt) lt
  · obtain ⟨c, hc, first, up⟩ := f.gone k (before h lt) lt
    by_cases ha : a.call? = some n
    · cases m with
      | @call _ _ l' _ c₀ c' h₀ m =>
        obtain rfl := Option.some.inj (m.call?_eq.symm.trans ha)
        obtain rfl := Option.some.inj (h₀.symm.trans hc)
        obtain ⟨same, still | closed⟩ := m.givesUp up
        · have lt := (List.getElem?_eq_some_iff.1 h₀).1
          exact ⟨c', List.getElem?_set_self lt, same.trans first, still⟩
        · -- The connection that was closed belongs to no slot any more.
          have isOpen := isOpenAt_of_hasAt cu' h
          exact nomatch closed.symm.trans isOpen
      | invoke | arrive | close | closer | exit => cases ha
    · rcases m.call_of_other ha with same | ⟨e, -⟩
      · exact ⟨c, same.trans hc, first, up⟩
      · have lt := (List.getElem?_eq_some_iff.1 hc).1
        omega

/-- An attempt comes to an error of its connection in a slot that it has emptied. -/
theorem CallMove.failed {a : LinkAction} {c c' : LinkCall} {e : GatewayError}
    (m : CallMove n l c a c' l') (fine : c.stage.error? = none) (he : c'.stage.error? = some e)
    (hr : e.isRetryable = true) :
    c'.attempt = c.attempt ∧ l'.connections.length = l.connections.length ∧
      ∃ s, c.hold.emptied? = some s ∧
        ∀ k, c.hold = .connection s k → c'.stage.givesUp? = some k := by
  unfold LinkCall.hold
  cases m with
  | miss h =>
    rw [h]
    exact ⟨rfl, rfl, _, rfl, nofun⟩
  | jam h =>
    rw [h]
    exact ⟨rfl, rfl, _, rfl, fun k e => by cases e; rfl⟩
  | fault h =>
    rw [h]
    exact ⟨rfl, length_setConnection l _ _, _, rfl, fun k e => by cases e; rfl⟩
  | misfire h _ _ launch =>
    obtain ⟨message, rfl⟩ := Launcher.error_of_ensure launch
    cases he
    cases hr
  | refuse | deny | timeOut => cases he; cases hr
  | ignore => exact nomatch fine.symm.trans he
  | report h | hangUp h | letGo h | unlock h | giveBack h | fail h =>
    rw [h] at fine
    exact nomatch fine.symm.trans he
  | @quitEarly expired | @quitStarting expired | @quitStanding expired | @quitConnecting _ expired
  | @quitTalking _ _ expired =>
    -- A timeout is not retried.
    cases expired <;> cases he
    cases hr
  | find | start | comeUp | skip | enter | permit | exhaust | lock | pass | take | dial | connect
  | announce | write | answer | park | retry | succeed | vanish => cases he

/-- After a first attempt has failed, the second one runs on a connection that is newer, or on one
that belonged to another slot at that time. -/
theorem retried {a : LinkAction} {c c' : LinkCall} {e : GatewayError} (h : Reachable settings u)
    (ha : step a u = some v) (hc : u.calls[n]? = some c) (first : c.attempt = 1)
    (fine : c.stage.error? = none) (hc' : v.calls[n]? = some c') (he : c'.stage.error? = some e)
    (hr : e.isRetryable = true) :
    ∃ s₀, c.hold.slot? = some s₀ ∧ ∀ t d s k, Machine.Reaches step v t → t.calls[n]? = some d →
      d.attempt = 2 → d.hold = .connection s k →
        v.connections.length ≤ k ∨ s ≠ s₀ ∧ v.HasAt s k := by
  have cu := custody h
  have m := move_of_step ha
  have cu' := cu.move m
  have moved : a.call? = some n := by
    refine Decidable.byContradiction fun other => ?_
    rcases m.call_of_other other with same | ⟨new, -⟩
    · rw [same, hc] at hc'
      obtain rfl := Option.some.inj hc'
      exact nomatch fine.symm.trans he
    · have := (List.getElem?_eq_some_iff.1 hc).1
      omega
  cases m with
  | @call _ _ l' n' c₀ c₁ h₀ m =>
    obtain rfl := Option.some.inj (m.call?_eq.symm.trans moved)
    obtain rfl := Option.some.inj (h₀.symm.trans hc)
    have lt := (List.getElem?_eq_some_iff.1 h₀).1
    rw [List.getElem?_set_self lt] at hc'
    obtain rfl := Option.some.inj hc'
    obtain ⟨same, length, s₀, emptied, up⟩ := m.failed fine he hr
    -- What belongs to the slot now belonged to it when the attempt still ran, so the call held it.
    have start : Failed { l' with calls := u.calls.set n' c₁ } n' s₀
        { l' with calls := u.calls.set n' c₁ } := by
      refine ⟨cu', Nat.le_refl _, fun _ _ h _ => h, fun k hk lt' => ?_⟩
      refine ⟨c₁, List.getElem?_set_self lt, same.trans first, up k ?_⟩
      have older : u.HasAt s₀ k := by
        refine ((Move.call h₀ m).hasAt cu hk).resolve_right fun e => ?_
        have lt' : k < l'.connections.length := lt'
        omega
      rw [← hold_call h₀] at emptied ⊢
      exact hold_of_hasAt cu older emptied
    refine ⟨s₀, Hold.slot?_of_emptied? emptied, fun t d s k r hd second hold => ?_⟩
    have f := kept_of_reaches (fun _ _ _ m f => Failed.move f m) r start
    have there : t.HasAt s k := .inr ⟨.call n', (hold_call hd).trans hold⟩
    rcases Nat.lt_or_ge k l'.connections.length with old | new
    · refine .inr ⟨?_, f.home s k there old⟩
      rintro rfl
      obtain ⟨c, hc, first, -⟩ := f.gone k there old
      obtain rfl := Option.some.inj (hc.symm.trans hd)
      exact nomatch first.symm.trans second
    · exact .inl new
  | invoke | arrive | close | closer | exit => cases moved

/-! ### After a new start of the gateway -/

/-- What a call is about to read. -/
def heard? (l : Link) (n : Nat) : Option Verdict :=
  (l.calls[n]?).bind fun c => c.stage.talksOn?.bind fun k =>
    (l.inbox? k).bind fun inbox => inbox.head?.bind c.request.verdict?

/-- Whether an action can happen with a gateway that was started anew when there had been `m`
connections, and serves all that reaches it: processes start, connections open, and on the newer
ones requests are written and no answer is an error. On the older ones calls may fail as on a lost
connection. Nobody is in a hurry, and nobody closes the link. -/
def isServed (m : Nat) (a : LinkAction) (l : Link) : Bool :=
  match a with
  | .launch _ outcome | .connect _ outcome => outcome.isOk
  | .write n outcome => outcome.isOk || (l.calls[n]?).any (LinkCall.usesOld m)
  | .read n =>
    match l.heard? n with
    | some (.error e) => e.isRetryable && (l.calls[n]?).any (LinkCall.usesOld m)
    | _ => true
  | .abandon _ _ | .close | .sweep _ => false
  | _ => true

/-- What an action does; none also if it cannot happen with such a gateway. -/
def servedStep (m : Nat) (a : LinkAction) (l : Link) : Option Link :=
  if isServed m a l then step a l else none

/-- How many of the first `m` connections are parked. -/
def oldParked (m : Nat) (l : Link) : Nat := l.slots.countP (·.parked.any (· < m))

/-- The first `m` connections that are parked or that calls talk on, with the failures of the calls
from the number `first` on. -/
def spent (m first : Nat) (l : Link) : Nat :=
  l.oldParked m + l.calls.countP (LinkCall.usesOld m) +
    (l.calls.drop first).countP LinkCall.hasFailed +
    (l.calls.drop first).countP LinkCall.hasFailedTwice

section Spends

variable {m : Nat} {c c' : LinkCall}

/-- A step of a call turns an old connection into a failure, or leaves both as they are. -/
structure Spends (m : Nat) (l : Link) (c c' : LinkCall) (l' : Link) : Prop where
  failed : c.hasFailed.toNat ≤ c'.hasFailed.toNat
  twice : c.hasFailedTwice.toNat ≤ c'.hasFailedTwice.toNat
  less : l'.oldParked m + (c'.usesOld m).toNat + c'.hasFailed.toNat + c'.hasFailedTwice.toNat ≤
    l.oldParked m + (c.usesOld m).toNat + c.hasFailed.toNat + c.hasFailedTwice.toNat

/-- The connections change hands, and the call does not fail. -/
theorem Spends.of_moved
    (moved : l'.oldParked m + (c'.usesOld m).toNat = l.oldParked m + (c.usesOld m).toNat)
    (attempt : c'.attempt = c.attempt) (error : c'.stage.error? = c.stage.error?) :
    Spends m l c c' l' := by
  have failed : c'.hasFailed = c.hasFailed := by
    rw [LinkCall.hasFailed, LinkCall.hasFailed, attempt, error]
  have twice : c'.hasFailedTwice = c.hasFailedTwice := by
    rw [LinkCall.hasFailedTwice, LinkCall.hasFailedTwice, attempt, error]
  refine ⟨?_, ?_, ?_⟩
  · rw [failed]
  · rw [twice]
  · rw [failed, twice]
    omega

/-- The call fails on an old connection. -/
theorem Spends.of_failure (slots : l'.oldParked m = l.oldParked m) (old : c.usesOld m = true)
    (none : c'.usesOld m = false) (attempt : c'.attempt = c.attempt)
    (fine : c.stage.error? = Option.none) (error : c'.stage.error?.isSome = true) :
    Spends m l c c' l' := by
  have before : c.hasFailed = decide (c.attempt = 2) ∧ c.hasFailedTwice = false := by
    rw [LinkCall.hasFailed, LinkCall.hasFailedTwice, fine]
    simp
  have after : c'.hasFailed = true ∧ c'.hasFailedTwice = decide (c.attempt = 2) := by
    rw [LinkCall.hasFailed, LinkCall.hasFailedTwice, error, attempt]
    simp
  have le := Bool.toNat_le (decide (c.attempt = 2))
  refine ⟨?_, ?_, ?_⟩
  · rw [before.1, after.1]
    exact le
  · rw [before.2]
    exact Nat.zero_le _
  · rw [before.1, before.2, after.1, after.2, slots, old, none]
    simp only [Bool.toNat_true, Bool.toNat_false]
    omega

theorem oldParked_setHolder {s : Nat} (hs : s < l.size) (x : Option SlotHolder) :
    (l.setHolder s x).oldParked m = l.oldParked m :=
  countP_setHolder hs x _

/-- A process that can be started is started. -/
theorem ensure_ne_error {p : Launcher} {outcome : Except String Unit} {e : GatewayError}
    (h : outcome.isOk = true) : (p.ensure outcome).1 ≠ .error e := by
  intro launch
  cases outcome with
  | ok =>
    unfold Launcher.ensure at launch
    split at launch <;> cases launch
  | error message => cases h

/-- A call that reads hears what comes first on its connection. -/
theorem heard?_eq {s k : Nat} {arrival : Arrival} {rest : List Arrival}
    (hc : l.calls[n]? = some c) (h : c.stage = .receiving s k)
    (hi : l.inbox? k = some (arrival :: rest)) : l.heard? n = c.request.verdict? arrival := by
  have talks : c.stage.talksOn? = some k := by
    rw [h]
    rfl
  rw [heard?, hc, Option.bind_some, talks, Option.bind_some, hi]
  rfl

/-- Where the gateway serves all that reaches it, a step uses an old connection up for each
failure. -/
theorem CallMove.spends {a : LinkAction} (mv : CallMove n l c a c' l') (hc : l.calls[n]? = some c)
    (cu : l.Custody) (served : isServed m a l = true) (le : m ≤ l.connections.length)
    (open_ : l.closed = false) (given : l.permitsClosed = false) : Spends m l c c' l' := by
  have own s (hs : c.hold.slot? = some s) : s < l.size :=
    cu.lt_size (x := .call n) s (by rw [hold_call hc]; exact hs)
  have still (slots : l'.oldParked m = l.oldParked m) (old : c'.usesOld m = c.usesOld m)
      (attempt : c'.attempt = c.attempt) (error : c'.stage.error? = c.stage.error?) :
      Spends m l c c' l' :=
    .of_moved (by rw [slots, old]) attempt error
  simp only [LinkCall.usesOld, LinkCall.hold] at own still
  cases mv with
  | find h | start h | comeUp h | skip h | enter h | permit h | exhaust h | pass h | dial h
  | announce h | report h | hangUp h | giveBack h | fail h | succeed h =>
    exact still rfl (by rw [h]; rfl) rfl (by rw [h]; rfl)
  | misfire _ _ _ launch => exact absurd launch (ensure_ne_error served)
  | refuse _ closed => exact absurd (open_.symm.trans closed) Bool.false_ne_true
  | deny _ closed => exact absurd (given.symm.trans closed) Bool.false_ne_true
  | lock h hu =>
    have slots := oldParked_setHolder (m := m) (isUnlocked_iff.1 hu).1 (some (.call n))
    rcases h with h | ⟨h, -⟩ <;> exact still slots (by rw [h]; rfl) rfl (by rw [h]; rfl)
  | unlock h =>
    have slots := oldParked_setHolder (m := m) (own _ (by rw [h]; rfl)) none
    exact still slots (by rw [h]; rfl) rfl (by rw [h]; rfl)
  | @take s k h hk =>
    refine .of_moved ?_ rfl (by rw [h]; rfl)
    have moved := countP_setParked (own s (by rw [h]; rfl)) none (· < m)
    rw [hk] at moved
    rw [LinkCall.usesOld, LinkCall.usesOld, h]
    exact moved
  | @park s k r h =>
    refine .of_moved ?_ rfl (by rw [h]; rfl)
    have moved := countP_setParked (own s (by rw [h]; rfl)) (some k) (· < m)
    rw [cu.emptied (.call n) s (by rw [hold_call hc, LinkCall.hold, h]; rfl)] at moved
    rw [LinkCall.usesOld, LinkCall.usesOld, h]
    exact moved
  | connect h =>
    -- The new connection is not among the old ones.
    refine still rfl ?_ rfl (by rw [h]; rfl)
    rw [h]
    exact decide_eq_false (Nat.not_lt.2 le)
  | miss => cases served
  | write h | answer h =>
    exact still (by rw [oldParked, setConnection_eq]; rfl) (by rw [h]; rfl) rfl (by rw [h]; rfl)
  | ignore => exact still (by rw [oldParked, setConnection_eq]; rfl) rfl rfl rfl
  | jam h =>
    rw [isServed, hc] at served
    exact .of_failure rfl served rfl rfl (by rw [h]; rfl) rfl
  | fault h hi hv =>
    have heard := heard?_eq hc h hi
    rw [isServed, heard, hv, hc] at served
    have served := (Bool.and_eq_true _ _ ▸ served).2
    exact .of_failure (by rw [oldParked, setConnection_eq]; rfl) served rfl rfl (by rw [h]; rfl) rfl
  | letGo h =>
    exact still (by rw [oldParked, letGo_eq]; rfl) (by rw [h]; rfl) rfl (by rw [h]; rfl)
  | @retry e h _ first =>
    have before : c.hasFailed = true ∧ c.hasFailedTwice = false := by
      rw [LinkCall.hasFailed, LinkCall.hasFailedTwice, h, first]
      exact ⟨rfl, rfl⟩
    refine ⟨Bool.toNat_le _, ?_, ?_⟩
    · rw [before.2]
      exact Nat.zero_le _
    · rw [before.1, before.2, LinkCall.usesOld, LinkCall.usesOld, h]
      exact Nat.le_refl _
  | timeOut h | vanish h => exact still rfl (by rw [h]; rfl) rfl (by rw [h]; rfl)
  | quitEarly | quitStarting | quitStanding | quitConnecting | quitTalking => cases served

/-- Where the gateway serves all that reaches it, a call fails in its second attempt if at all. -/
theorem CallMove.served {a : LinkAction} (mv : CallMove n l c a c' l') (hc : l.calls[n]? = some c)
    (sv : c.Served) (served : isServed m a l = true) (open_ : l.closed = false)
    (given : l.permitsClosed = false) : c'.Served := by
  cases mv with
  | find h | start h | comeUp h | skip h | enter h | permit h | exhaust h | pass h | take h | dial h
  | connect h | announce h | write h | answer h | park h | report h | hangUp h | letGo h | unlock h
  | giveBack h => exact sv.of_same rfl (by rw [h]; rfl) (by rw [h]; rfl) rfl
  | lock h =>
    rcases h with h | ⟨h, -⟩ <;> exact sv.of_same rfl (by rw [h]; rfl) (by rw [h]; rfl) rfl
  | ignore => exact sv
  | misfire _ _ _ launch => exact absurd launch (ensure_ne_error served)
  | refuse _ closed => exact absurd (open_.symm.trans closed) Bool.false_ne_true
  | deny _ closed => exact absurd (given.symm.trans closed) Bool.false_ne_true
  | miss => cases served
  | jam h => exact ⟨sv.attempt, fun e he => by cases he; rfl, rfl, nofun⟩
  | fault h hi hv =>
    have heard := heard?_eq hc h hi
    rw [isServed, heard, hv, hc] at served
    have retryable := (Bool.and_eq_true _ _ ▸ served).1
    exact ⟨sv.attempt, fun e he => by cases he; exact retryable, rfl, nofun⟩
  | retry => exact ⟨.inr rfl, nofun, rfl, nofun⟩
  | @fail e h hr =>
    have retryable := sv.error e (by rw [h]; rfl)
    have second : c.attempt = 2 := sv.attempt.resolve_left fun first => hr ⟨retryable, first⟩
    exact ⟨sv.attempt, fun e he => by cases he; exact retryable, rfl, fun _ => second⟩
  | succeed => exact ⟨sv.attempt, nofun, rfl, nofun⟩
  | timeOut h | vanish h =>
    have awaited := sv.awaited
    rw [h] at awaited
    cases awaited
  | quitEarly | quitStarting | quitStanding | quitConnecting | quitTalking => cases served

/-- What is kept once the gateway was started anew, when there had been `m` connections and the
calls before the number `first`. -/
structure Restarted (m first bound : Nat) (l : Link) : Prop where
  custody : l.Custody
  open_ : l.closed = false
  given : l.permitsClosed = false
  older : m ≤ l.connections.length
  begun : first ≤ l.calls.length
  served : ∀ c ∈ l.calls.drop first, c.Served
  spent : l.spent m first ≤ bound

theorem drop_set_eq {α : Type} {xs : List α} {i : Nat} {x : α} (first : Nat) (h : xs[i]? = some x)
    (y : α) : (xs.set i y).drop first = xs.drop first ∨
      (xs.drop first)[i - first]? = some x ∧
        (xs.set i y).drop first = (xs.drop first).set (i - first) y := by
  rw [List.drop_set]
  split
  · exact .inl rfl
  · rename_i le
    rw [List.getElem?_drop, Nat.add_sub_cancel' (Nat.le_of_not_lt le)]
    exact .inr ⟨h, rfl⟩

theorem Restarted.of_call {first bound : Nat} {a : LinkAction} (r : Restarted m first bound l)
    (hc : l.calls[n]? = some c) (mv : CallMove n l c a c' l') (served : isServed m a l = true) :
    Restarted m first bound { l' with calls := l.calls.set n c' } := by
  have sp := mv.spends hc r.custody served r.older r.open_ r.given
  have users := countP_set_add hc c' (LinkCall.usesOld m)
  have bound := r.spent
  have less := sp.less
  have failed := sp.failed
  have twice := sp.twice
  refine ⟨r.custody.move (.call hc mv), mv.apart.closed.trans r.open_,
    mv.apart.permitsClosed.trans r.given, Nat.le_trans r.older mv.length_connections, ?_, ?_, ?_⟩
  · rw [List.length_set]
    exact r.begun
  · show ∀ d ∈ (l.calls.set n c').drop first, d.Served
    rcases drop_set_eq first hc c' with same | ⟨found, set⟩
    · rw [same]
      exact r.served
    · rw [set]
      intro d hd
      rcases List.mem_or_eq_of_mem_set hd with old | rfl
      · exact r.served d old
      · exact mv.served hc (r.served c (List.mem_of_getElem? found)) served r.open_ r.given
  · show l'.oldParked m + (l.calls.set n c').countP (LinkCall.usesOld m) +
      ((l.calls.set n c').drop first).countP LinkCall.hasFailed +
      ((l.calls.set n c').drop first).countP LinkCall.hasFailedTwice ≤ _
    unfold Link.spent at bound
    rcases drop_set_eq first hc c' with same | ⟨found, set⟩
    · rw [same]
      omega
    · have failures := countP_set_add found c' LinkCall.hasFailed
      have failuresTwice := countP_set_add found c' LinkCall.hasFailedTwice
      rw [set]
      omega

theorem Restarted.step {first bound : Nat} {a : LinkAction} (r : Restarted m first bound l)
    (h : servedStep m a l = some l') : Restarted m first bound l' := by
  unfold servedStep at h
  split at h
  swap
  · cases h
  rename_i served
  have mv := move_of_step h
  have cu' := r.custody.move mv
  cases mv with
  | call hc mv => exact r.of_call hc mv served
  | invoke request =>
    have begun : (l.invoke request).calls.drop first =
        l.calls.drop first ++ [(⟨request, 1, .launching, none⟩ : LinkCall)] :=
      List.drop_append_of_le_length r.begun
    refine ⟨cu', r.open_, r.given, r.older, ?_, ?_, ?_⟩
    · rw [Link.invoke, List.length_append]
      exact Nat.le_trans r.begun (Nat.le_add_right ..)
    · rw [begun]
      intro c hc
      rcases List.mem_append.1 hc with old | new
      · exact r.served c old
      · obtain rfl := List.mem_singleton.1 new
        refine ⟨.inl rfl, ?_, rfl, ?_⟩
        · intro e he
          cases he
        · intro lost
          cases lost
    · have bound := r.spent
      unfold Link.spent at bound ⊢
      rw [begun, countP_concat, countP_concat, Link.invoke, countP_concat]
      exact bound
  | arrive =>
    rw [setConnection_eq] at cu' ⊢
    exact ⟨cu', r.open_, r.given, by rw [length_setConnection]; exact r.older, r.begun, r.served,
      r.spent⟩
  | exit => exact ⟨cu', r.open_, r.given, r.older, r.begun, r.served, r.spent⟩
  | close | closer => cases served

end Spends

/-- A link that nobody has begun to close is open. -/
theorem open_of_no_closers (h : Reachable settings l) (none : l.closers = []) :
    l.closed = false ∧ l.permitsClosed = false := by
  refine h.of_moves (P := fun l => l.closers = [] → l.closed = false ∧ l.permitsClosed = false)
    (fun _ => ⟨rfl, rfl⟩) (fun a l l' m old none => ?_) none
  cases m with
  | invoke | exit => exact old none
  | @call _ _ l' _ _ _ _ m =>
    show l'.closed = false ∧ l'.permitsClosed = false
    rw [m.apart.closed, m.apart.permitsClosed]
    exact old (m.apart.closers.symm.trans none)
  | arrive =>
    rw [setConnection_eq] at none ⊢
    exact old none
  | close => exact absurd none (List.append_ne_nil_of_right_ne_nil _ (List.cons_ne_nil _ _))
  | closer hc =>
    have lt := (List.getElem?_eq_some_iff.1 hc).1
    have length : (l.closers.set _ _).length = 0 := congrArg List.length none
    rw [List.length_set] at length
    omega

/-- The old connections that are parked or that calls talk on are open. -/
theorem old_le_connected (cu : l.Custody) (m : Nat) :
    l.oldParked m + l.calls.countP (LinkCall.usesOld m) ≤ l.connected := by
  have parked : l.oldParked m ≤ l.slots.countP (·.parked.any fun _ => true) :=
    List.countP_mono_left fun slot _ old => by
      cases e : slot.parked with
      | none => rw [e] at old; cases old
      | some k => rfl
  have held : l.calls.countP (LinkCall.usesOld m) ≤
      l.holds.countP (·.connection?.any fun _ => true) := by
    rw [holds, List.countP_append, List.countP_map]
    refine Nat.le_trans (List.countP_mono_left fun c _ old => ?_) (Nat.le_add_right ..)
    obtain ⟨k, talks, -⟩ := (Option.any_eq_true _ _).1 old
    rw [Function.comp_apply, LinkCall.hold, CallStage.hold_of_talksOn? talks]
    rfl
  rw [connected, cu.counted, custodians]
  omega

theorem restarted (h : Reachable settings l) (none : l.closers = []) :
    Restarted l.connections.length l.calls.length l.connected l := by
  obtain ⟨open_, given⟩ := open_of_no_closers h none
  refine ⟨custody h, open_, given, Nat.le_refl _, Nat.le_refl _, ?_, ?_⟩
  · rw [List.drop_length]
    exact fun c hc => absurd hc List.not_mem_nil
  · rw [Link.spent, List.drop_length]
    exact old_le_connected (custody h) _

/-- Each call that is lost has used two old connections up. -/
theorem Restarted.lost {m first bound : Nat} (r : Restarted m first bound l) :
    2 * (l.calls.drop first).countP LinkCall.isLost ≤ bound := by
  have twice {c : LinkCall} (hc : c ∈ l.calls.drop first) (lost : c.isLost = true) :
      c.hasFailed = true ∧ c.hasFailedTwice = true := by
    have second := (r.served c hc).twice lost
    have error := (Bool.and_eq_true _ _ ▸ lost).2
    rw [LinkCall.hasFailed, LinkCall.hasFailedTwice, second, error]
    exact ⟨rfl, rfl⟩
  have once := List.countP_mono_left fun c hc lost => (twice hc lost).1
  have again := List.countP_mono_left fun c hc lost => (twice hc lost).2
  have spent := r.spent
  unfold Link.spent at spent
  omega

/-- A call that is over has an answer or is lost. -/
theorem Restarted.concluded {m first bound : Nat} {c : LinkCall} (r : Restarted m first bound l)
    (hc : c ∈ l.calls.drop first) (ended : c.isActive = false) :
    (∃ response, c.stage = .finished (some (.ok response))) ∨ c.isLost = true := by
  have awaited := (r.served c hc).awaited
  unfold LinkCall.isActive at ended
  cases e : c.stage with
  | finished v =>
    rw [e] at awaited
    cases v with
    | none => cases awaited
    | some v =>
      cases v with
      | ok response => exact .inl ⟨response, rfl⟩
      | error error =>
        right
        rw [LinkCall.isLost, LinkCall.isActive, e]
        rfl
  | _ => rw [e] at ended; cases ended

/-- **What the second attempt runs on.** When the connection of a first attempt has failed, the
second attempt runs on a connection that was opened afterwards, or on one that belonged to another
slot at that time; where there is one slot only, it is a new one. So if the gateway was started anew
and serves all that reaches it, the calls that begin from then on either have an answer in the end
or have failed twice, and two connections of before were used up for each of these: if there was one
at most, no call fails. -/
theorem retry_connection (h : Reachable settings u) :
    (∀ (a : LinkAction) (v : Link) (n : Nat) (c c' : LinkCall) (e : GatewayError),
      step a u = some v → u.calls[n]? = some c → c.attempt = 1 → c.stage.error? = none →
      v.calls[n]? = some c' → c'.stage.error? = some e → e.isRetryable = true →
        ∃ s₀, c.hold.slot? = some s₀ ∧ ∀ (t : Link) (d : LinkCall) (s k : Nat),
          Machine.Reaches step v t → t.calls[n]? = some d → d.attempt = 2 →
          d.hold = .connection s k →
            (v.connections.length ≤ k ∨ s ≠ s₀ ∧ v.HasAt s k) ∧
            (u.size = 1 → v.connections.length ≤ k)) ∧
    (u.closers = [] → ∀ t, Machine.Reaches (servedStep u.connections.length) u t →
      2 * (t.calls.drop u.calls.length).countP LinkCall.isLost ≤ u.connected ∧
      u.connected ≤ u.size ∧
      ∀ c ∈ t.calls.drop u.calls.length, c.isActive = false →
        (∃ response, c.stage = .finished (some (.ok response))) ∨
        c.isLost = true ∧ c.attempt = 2 ∧ 1 < u.connected) := by
  constructor
  · intro a v n c c' e ha hc first fine hc' he hr
    obtain ⟨s₀, slot, elsewhere⟩ := retried h ha hc first fine hc' he hr
    refine ⟨s₀, slot, fun t d s k r hd second hold => ?_⟩
    have place := elsewhere t d s k r hd second hold
    refine ⟨place, fun one => place.resolve_right fun other => other.1 ?_⟩
    -- Both slots are the only one.
    have ht : Reachable settings t := Machine.Reaches.trans (h.snoc ha) r
    have lt₀ := (custody h).lt_size (x := .call n) s₀ (by rw [hold_call hc]; exact slot)
    have lt := (custody ht).lt_size (x := .call n) s (by rw [hold_call hd, hold]; rfl)
    rw [size_of_reachable ht, ← size_of_reachable h] at lt
    omega
  · intro none t r
    have rt : Restarted u.connections.length u.calls.length u.connected t :=
      Machine.Reaches.invariant r (fun _ _ _ ha r => r.step ha) (restarted h none)
    refine ⟨rt.lost, openCount_le_size (custody h), fun c hc ended => ?_⟩
    refine (rt.concluded hc ended).imp_right fun lost => ⟨lost, (rt.served c hc).twice lost, ?_⟩
    have some := List.countP_pos_iff.2 ⟨c, hc, lost⟩
    have := rt.lost
    omega

/-- Two calls are answered at the same time, and each parks its connection. -/
def sampleParked : List LinkAction :=
  sampleOpening 0 ++ [.invoke sampleRequest] ++ List.replicate 6 (.proceed 1) ++
    [.connect 1 (.ok ()), .proceed 1, .write 1 (.ok ())] ++ sampleEnding 0 0 ++ sampleEnding 1 1

/-- The gateway ends, and another call talks on the first of its connections. -/
def sampleEnded : List LinkAction :=
  [.arrive 0 .ended, .arrive 1 .ended, .invoke sampleRequest] ++ List.replicate 5 (.proceed 2) ++
    [.write 2 (.ok ())]

/-- The call has given the first connection up. Before it is tried again one more call takes the
first slot, so that it takes the second connection. -/
def sampleAgain : List LinkAction :=
  [.proceed 2, .hangUp 2] ++ List.replicate 3 (.proceed 2) ++ [.invoke sampleRequest] ++
    List.replicate 5 (.proceed 3) ++ List.replicate 7 (.proceed 2)

/-- The second connection fails too. -/
def sampleVain : List LinkAction :=
  [.write 2 (.ok ()), .read 2, .proceed 2, .hangUp 2] ++ List.replicate 4 (.proceed 2)

theorem retry_connection_sample :
    ∃ p u v t w, Machine.run step sampleParked (ofSettings {}) = some p ∧ p.connected = 2 ∧
      Machine.run step (sampleParked ++ sampleEnded) (ofSettings {}) = some u ∧
      step (.read 2) u = some v ∧ Machine.run step sampleAgain v = some t ∧
      (t.calls[2]?).map (fun d => (d.attempt, d.hold)) = some (2, .connection 1 1) ∧
      v.HasAt 1 1 ∧
      Machine.run (servedStep 2) (sampleEnded ++ [.read 2] ++ sampleAgain ++ sampleVain) p =
        some w ∧
      (w.calls.drop 2).countP LinkCall.isLost = 1 ∧
      2 * (w.calls.drop 2).countP LinkCall.isLost ≤ p.connected := by
  obtain ⟨run, first, again, vain⟩ :
      (Machine.run step sampleParked (ofSettings {})).map (fun p =>
        (p.connections.length, p.calls.length, p.connected, p.closers)) = some (2, 2, 2, []) ∧
      ((Machine.run step (sampleParked ++ sampleEnded) (ofSettings {})).bind fun u =>
        (step (.read 2) u).map fun v => ((u.calls[2]?).map (fun c => (c.attempt, c.stage.error?)),
          (v.calls[2]?).map (fun c => c.stage.error?.map GatewayError.isRetryable),
          v.connections.length)) = some (some (1, none), some (some true), 2) ∧
      ((Machine.run step (sampleParked ++ sampleEnded) (ofSettings {})).bind fun u =>
        (step (.read 2) u).bind fun v => (Machine.run step sampleAgain v).map fun t =>
          (t.calls[2]?).map fun d => (d.attempt, d.hold)) = some (some (2, .connection 1 1)) ∧
      ((Machine.run step sampleParked (ofSettings {})).bind fun p =>
        (Machine.run (servedStep 2) (sampleEnded ++ [.read 2] ++ sampleAgain ++ sampleVain) p).map
          fun w => (w.calls.drop 2).countP LinkCall.isLost) = some 1 := by decide +kernel
  obtain ⟨p, hp, parked⟩ := Option.map_eq_some_iff.1 run
  simp only [Prod.mk.injEq] at parked
  obtain ⟨opened, begun, two, unclosed⟩ := parked
  -- The second attempt runs on a connection of the other slot.
  obtain ⟨u, hu, first⟩ := Option.bind_eq_some_iff.1 first
  obtain ⟨v, hv, facts⟩ := Option.map_eq_some_iff.1 first
  rw [hu, Option.bind_some, hv, Option.bind_some] at again
  obtain ⟨t, ht, second⟩ := Option.map_eq_some_iff.1 again
  simp only [Prod.mk.injEq] at facts
  obtain ⟨before, after, length⟩ := facts
  obtain ⟨c, hc, fine⟩ := Option.map_eq_some_iff.1 before
  obtain ⟨c', hc', failed⟩ := Option.map_eq_some_iff.1 after
  obtain ⟨e, he, retryable⟩ := Option.map_eq_some_iff.1 failed
  obtain ⟨d, hd, held⟩ := Option.map_eq_some_iff.1 second
  simp only [Prod.mk.injEq] at fine held
  obtain ⟨s₀, -, elsewhere⟩ := (retry_connection ⟨_, hu⟩).1 _ v 2 c c' e hv hc fine.1 fine.2 hc' he
    retryable
  obtain ⟨new | ⟨-, there⟩, -⟩ := elsewhere t d 1 1 ⟨_, ht⟩ hd held.1 held.2
  · omega
  -- The gateway ends, and one call is lost.
  rw [hp, Option.bind_some] at vain
  obtain ⟨w, hw, one⟩ := Option.map_eq_some_iff.1 vain
  have served := (retry_connection ⟨_, hp⟩).2 unclosed w ⟨_, by rw [opened]; exact hw⟩
  rw [begun] at served
  exact ⟨p, u, v, t, w, hp, two, hu, hv, ht, second, there, hw, one, served.1⟩

/-- Two connections are parked when the gateway ends. A call fails on the first of them. Its second
attempt finds the first slot locked by another call, runs on the second connection, which was opened
before the failure, and fails there, although every connection that is opened would serve it. -/
theorem retried_in_vain :
    ((Machine.run step (sampleParked ++ sampleEnded ++ [.read 2] ++ sampleAgain)
      (ofSettings {})).bind fun l => (l.calls[2]?).map fun c => (c.attempt, c.retriedAt, c.hold)) =
      some (2, some 2, .connection 1 1) ∧
    (((Machine.run step sampleParked (ofSettings {})).bind
      (Machine.run (servedStep 2) (sampleEnded ++ [.read 2] ++ sampleAgain ++ sampleVain))).bind
        fun l => l.verdict? 2) =
      some (.error (.connection "Gateway closed the connection")) := by
  decide +kernel

end Link

end PanelScript
