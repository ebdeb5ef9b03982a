import PanelScript.Proofs.Link.Custody

/-!
# What calls and the gateway say to each other

A gateway that keeps to its part answers the requests on a connection in the order in which they
were written, each once and with a result for that request, or drops the connection. Then no call
takes the answer to another for its own, although calls are given up at any time and connections
are used again.

* `Dialogue` is a link with the answers that were given, `Dialogue.step` what can happen when the
  gateway keeps to its part;
* `Sound` is the invariant: a connection that is parked has nothing unread and nothing unanswered,
  one on which a call waits has at most the answer to this call unread;
* `no_cross_talk`: a call that returns a response returns the answer to its own request.
-/

namespace PanelScript

/-- An answer that was given: on which connection, to which call, and the response. -/
structure GivenAnswer where
  connection : Nat
  call : Nat
  response : InvokeResponse
  deriving DecidableEq

/-- A link, and the answers that the gateway has given. -/
structure Dialogue where
  link : Link
  answers : List GivenAnswer

/-- Whether an arrival says something to a call. -/
def Arrival.isData : Arrival → Bool
  | .text _ | .binary => true
  | _ => false

/-- Whether an error is about what the gateway said. -/
def GatewayError.isProtocol : GatewayError → Bool
  | .protocol _ => true
  | _ => false

/-- What was said on a connection: the calls whose requests were written, and what says something
and is unread. -/
def Connection.said (c : Connection) : List Nat × List Arrival :=
  (c.sent.map Prod.fst, c.inbox.filter Arrival.isData)

/-- The connection that a call gives up. -/
def CallStage.givesUp? : CallStage → Option Nat
  | .failing _ k _ | .hangingUp _ k _ | .letting _ k _ => some k
  | _ => none

/-- The connection that a call talks on. -/
def CallStage.talksOn? : CallStage → Option Nat
  | .announcing _ k | .sending _ k | .receiving _ k | .parking _ k _ => some k
  | _ => none

theorem CallStage.hold_of_talksOn? {stage : CallStage} {k : Nat} (h : stage.talksOn? = some k) :
    stage.hold.connection? = some k := by
  cases stage <;> first | exact h | cases h

theorem CallStage.hold_of_givesUp? {stage : CallStage} {k : Nat} (h : stage.givesUp? = some k) :
    stage.hold.connection? = some k := by
  cases stage <;> first | exact h | cases h

theorem CallStage.talksOn?_of_givesUp? {stage : CallStage} {k : Nat}
    (h : stage.givesUp? = some k) : stage.talksOn? = none := by
  cases stage <;> first | rfl | cases h

/-- What was said on a connection. -/
def Link.said? (l : Link) (k : Nat) : Option (List Nat × List Arrival) :=
  (l.connections[k]?).map Connection.said

/-- The calls whose requests were written to a connection, in order. -/
def Link.asked (l : Link) (k : Nat) : List Nat := ((l.said? k).map Prod.fst).getD []

namespace Dialogue

variable {settings : GatewaySettings} {d d' : Dialogue}

/-- The dialogue of a new link. -/
def ofSettings (settings : GatewaySettings) : Dialogue := ⟨.ofSettings settings, []⟩

/-- The calls that were answered on a connection, in order. -/
def answered (d : Dialogue) (k : Nat) : List Nat :=
  (d.answers.filter (·.connection == k)).map GivenAnswer.call

/-- The call whose request on a connection is to be answered next. -/
def due? (d : Dialogue) (k : Nat) : Option Nat := (d.link.asked k)[(d.answered k).length]?

/-- The response to a call that a text is: a result of this version for this call. -/
def response? (d : Dialogue) (n : Nat) (frame : String) : Option InvokeResponse :=
  match d.link.calls[n]?, WireMessage.parse frame with
  | some c, .ok (.result r) =>
    if r.version = protocolVersion ∧ r.callId = c.request.callId then some r else none
  | _, _ => none

/-- Whether a connection is being given up. Nobody reads what still comes on it, an answer to a
request that was cut short perhaps. -/
def isGivenUp (d : Dialogue) (k : Nat) : Bool :=
  d.link.calls.any (·.stage.givesUp? == some k) ||
    d.link.closers.any (·.hold.connection? == some k)

/-- The answers that were given once something has come from the gateway; none if a gateway that
keeps to its part does not send it. -/
def hear? (d : Dialogue) (k : Nat) : Arrival → Option (List GivenAnswer)
  | .text frame =>
    (d.due? k).bind fun n => (d.response? n frame).map fun r => d.answers ++ [⟨k, n, r⟩]
  | .binary => none
  | .ping | .pong | .close | .ended | .broken _ => some d.answers

/-- What an action does; none also if a gateway that keeps to its part does not take it. -/
def step (a : LinkAction) (d : Dialogue) : Option Dialogue :=
  (Link.step a d.link).bind fun l =>
    match a with
    | .arrive k arrival =>
      if d.isGivenUp k then some ⟨l, d.answers⟩ else (d.hear? k arrival).map fun given => ⟨l, given⟩
    | _ => some ⟨l, d.answers⟩

/-- The dialogues that can come about on a link with the given settings. -/
def Reachable (settings : GatewaySettings) (d : Dialogue) : Prop :=
  Machine.Reaches step (ofSettings settings) d

/-- The requests on a connection were answered, and the answers read. -/
def Quiet (d : Dialogue) (k : Nat) : Prop := d.link.said? k = some (d.answered k, [])

/-- A call has written the last request on a connection; all others were answered, and the answers
read. The answer to this one was not given yet, or it is all that is unread. -/
def Awaits (d : Dialogue) (k n : Nat) (request : InvokeRequest) : Prop :=
  d.link.said? k = some (d.answered k ++ [n], []) ∨
    ∃ frame r, d.link.said? k = some (d.answered k, [.text frame]) ∧
      request.verdictOfText frame = .ok r ∧ ⟨k, n, r⟩ ∈ d.answers

/-- A verdict that a call can have: the answer to it, or an error that is not about what the gateway
said. -/
def Right (d : Dialogue) (n : Nat) : Verdict → Prop
  | .ok r => ∃ k, ⟨k, n, r⟩ ∈ d.answers
  | .error e => e.isProtocol = false

/-- An end that an attempt at a call can have. -/
def RightEnd (d : Dialogue) (n : Nat) : AttemptEnd → Prop
  | .decided v => d.Right n v
  | .abandoned _ => True

/-- What goes with the stage of a call. -/
def Fits (d : Dialogue) (n : Nat) (c : LinkCall) : Prop :=
  match c.stage with
  | .announcing _ k | .sending _ k => d.Quiet k
  | .receiving _ k => d.Awaits k n c.request
  | .parking _ k r => d.Quiet k ∧ ⟨k, n, r⟩ ∈ d.answers
  | .failing _ _ e | .hangingUp _ _ e => e.isProtocol = false
  | .letting _ _ ending | .unlocking _ ending | .returning ending | .settled ending =>
    d.RightEnd n ending
  | .finished (some v) => d.Right n v
  | _ => True

/-- What is kept at every time: a parked connection is quiet, what was said on the connection of a
call goes with its stage, and the answers on a connection are to its requests, in their order. -/
structure Sound (d : Dialogue) : Prop where
  custody : d.link.Custody
  parked : ∀ s k, d.link.parked? s = some k → d.Quiet k
  calls : ∀ n c, d.link.calls[n]? = some c → d.Fits n c
  inTurn : ∀ k, d.answered k <+: d.link.asked k

/-! ### What can happen -/

theorem response?_eq_some {n : Nat} {frame : String} {r : InvokeResponse}
    (h : d.response? n frame = some r) :
    ∃ c, d.link.calls[n]? = some c ∧ c.request.verdictOfText frame = .ok r := by
  unfold response? at h
  split at h
  · rename_i c r' hc parsed
    split at h
    · rename_i fits
      obtain rfl := Option.some.inj h
      have checked : r'.check c.request.callId = .ok () := InvokeResponse.check_eq_ok_iff.2 fits
      refine ⟨c, hc, ?_⟩
      rw [InvokeRequest.verdictOfText, parsed]
      simp only [checked]
    · cases h
  · cases h

/-- An action on the link leaves the answers as they are, unless it brings the one that is due. -/
theorem step_cases {a : LinkAction} (h : step a d = some d') :
    Link.Move a d.link d'.link ∧
    ((d'.answers = d.answers ∧
        ∀ k arrival, a = .arrive k arrival → d.isGivenUp k = true ∨ arrival.isData = false) ∨
      ∃ k frame n r, a = .arrive k (.text frame) ∧ d.due? k = some n ∧
        d.response? n frame = some r ∧ d'.answers = d.answers ++ [⟨k, n, r⟩]) := by
  obtain ⟨l, hl, result⟩ := Option.bind_eq_some_iff.1 h
  have m := Link.move_of_step hl
  split at result
  · rename_i k arrival
    split at result
    · rename_i up
      cases result
      refine ⟨m, .inl ⟨rfl, fun k' arrival' e => .inl ?_⟩⟩
      cases e
      exact up
    · obtain ⟨given, heard, e⟩ := Option.map_eq_some_iff.1 result
      cases e
      refine ⟨m, ?_⟩
      cases arrival with
      | text frame =>
        obtain ⟨n, due, heard⟩ := Option.bind_eq_some_iff.1 heard
        obtain ⟨r, answer, rfl⟩ := Option.map_eq_some_iff.1 heard
        exact .inr ⟨k, frame, n, r, rfl, due, answer, rfl⟩
      | binary => cases heard
      | ping | pong | close | ended | broken =>
        obtain rfl := Option.some.inj heard
        refine .inl ⟨rfl, fun k' arrival' e => .inr ?_⟩
        cases e
        rfl
  · rename_i other
    cases result
    exact ⟨m, .inl ⟨rfl, fun k arrival e => absurd e (other k arrival)⟩⟩

end Dialogue

namespace Link

variable {l l' : Link}

/-! ### What is said where -/

theorem said?_setConnection (l : Link) (k k' : Nat) (f : Connection → Connection) :
    (l.setConnection k f).said? k' =
      if k' = k then (l.connections[k]?).map fun c => (f c).said else l.said? k' := by
  cases hc : l.connections[k]? with
  | none =>
    rw [setConnection_of_none hc]
    split
    · rename_i e
      rw [e, said?, hc]
      rfl
    · rfl
  | some c =>
    rw [said?, connections_setConnection hc,
      getElem?_set_ite (List.getElem?_eq_some_iff.1 hc).1]
    split <;> rfl

theorem said?_setParked (l : Link) (s : Nat) (parked : Option Nat) (k : Nat) :
    (l.setParked s parked).said? k = l.said? k := by
  rw [setParked_eq]
  rfl

theorem said?_setHolder (l : Link) (s : Nat) (holder : Option SlotHolder) (k : Nat) :
    (l.setHolder s holder).said? k = l.said? k := by
  rw [setHolder_eq]
  rfl

theorem said?_letGo (l : Link) (k k' : Nat) : (l.letGo k).said? k' = l.said? k' := by
  refine (said?_setConnection l k k' _).trans ?_
  split
  · rename_i e
    rw [e]
    rfl
  · rfl

theorem said?_opened (l : Link) (k : Nat) :
    l.opened.said? k = if k = l.connections.length then some ([], []) else l.said? k := by
  rw [said?, opened, getElem?_concat_ite]
  split <;> rfl

theorem lt_length_of_said? {k : Nat} {x : List Nat × List Arrival}
    (h : l.said? k = some x) : k < l.connections.length := by
  obtain ⟨c, hc, -⟩ := Option.map_eq_some_iff.1 h
  exact (List.getElem?_eq_some_iff.1 hc).1

/-- To read from a connection is to take the first off what is unread. -/
theorem said?_leaving {k : Nat} {a : Arrival} {rest : List Arrival}
    (h : l.inbox? k = some (a :: rest)) :
    ∃ asked, l.said? k = some (asked, (a :: rest).filter Arrival.isData) ∧
      (l.setConnection k (leaving rest)).said? k = some (asked, rest.filter Arrival.isData) := by
  obtain ⟨c, hc, e⟩ := Option.map_eq_some_iff.1 h
  refine ⟨c.sent.map Prod.fst, ?_, ?_⟩
  · rw [said?, hc, ← e]
    rfl
  · rw [said?_setConnection, if_pos rfl, hc]
    rfl

theorem said?_written {k n : Nat} {frame : String} {asked : List Nat} {unread : List Arrival}
    (h : l.said? k = some (asked, unread)) :
    (l.setConnection k (written n frame)).said? k = some (asked ++ [n], unread) := by
  obtain ⟨c, hc, e⟩ := Option.map_eq_some_iff.1 h
  rw [said?_setConnection, if_pos rfl, hc, Option.map_some]
  simp only [Connection.said, Prod.mk.injEq] at e
  simp only [Connection.said, written, List.map_append, e, List.map_cons, List.map_nil]

theorem said?_receiving {k : Nat} {a : Arrival} {asked : List Nat} {unread : List Arrival}
    (h : l.said? k = some (asked, unread)) :
    (l.setConnection k (receiving a)).said? k =
      some (asked, unread ++ [a].filter Arrival.isData) := by
  obtain ⟨c, hc, e⟩ := Option.map_eq_some_iff.1 h
  rw [said?_setConnection, if_pos rfl, hc, Option.map_some]
  simp only [Connection.said, Prod.mk.injEq] at e
  simp only [Connection.said, receiving, List.filter_append, e]

theorem asked_setConnection (l : Link) (k k' : Nat) {f : Connection → Connection}
    (grows : ∀ c, c.sent <+: (f c).sent) : l.asked k' <+: (l.setConnection k f).asked k' := by
  rw [asked, asked, said?_setConnection]
  split
  · rename_i e
    rw [e, said?]
    cases l.connections[k]? with
    | none => exact List.prefix_rfl
    | some c => exact (grows c).map Prod.fst
  · exact List.prefix_rfl

theorem asked_opened (l : Link) (k : Nat) : l.asked k <+: l.opened.asked k := by
  rw [asked, asked, said?_opened]
  split
  · rename_i e
    rw [e, said?, List.getElem?_eq_none (Nat.le_refl _)]
    exact List.prefix_rfl
  · exact List.prefix_rfl

/-- A call says something on the connection that it holds, or opens a new one, or says nothing. -/
theorem CallMove.said?_cases {n : Nat} {a : LinkAction} {c c' : LinkCall}
    (m : CallMove n l c a c' l') :
    (∀ k, l'.said? k = l.said? k) ∨ l' = l.opened ∨
      ∃ k f, c.hold.connection? = some k ∧ (∀ c, c.sent <+: (f c).sent) ∧
        l' = l.setConnection k f := by
  cases m with
  | write h =>
    exact .inr (.inr ⟨_, _, by rw [LinkCall.hold, h]; rfl, fun _ => List.prefix_append .., rfl⟩)
  | ignore h | answer h | fault h =>
    exact .inr (.inr ⟨_, leaving _, by rw [LinkCall.hold, h]; rfl, fun _ => List.prefix_rfl, rfl⟩)
  | connect => exact .inr (.inl rfl)
  | lock | unlock => exact .inl (said?_setHolder l _ _)
  | take | park => exact .inl (said?_setParked l _ _)
  | letGo => exact .inl (said?_letGo l _)
  | find | start | misfire | comeUp | skip | refuse | enter | deny | permit | exhaust | pass | dial
  | miss | announce | jam | report | hangUp | giveBack | retry | fail | succeed | timeOut | vanish
  | quitEarly | quitStarting | quitStanding | quitConnecting | quitTalking =>
    exact .inl fun _ => rfl

/-- A call says nothing on a connection that it does not hold. -/
theorem CallMove.said?_of_other {n : Nat} {a : LinkAction} {c c' : LinkCall} {k : Nat}
    {x : List Nat × List Arrival} (m : CallMove n l c a c' l')
    (other : c.hold.connection? ≠ some k) (hx : l.said? k = some x) : l'.said? k = some x := by
  rcases m.said?_cases with same | rfl | ⟨k', f, own, -, rfl⟩
  · exact (same k).trans hx
  · rw [said?_opened, if_neg (Nat.ne_of_lt (lt_length_of_said? hx))]
    exact hx
  · rw [said?_setConnection, if_neg (by rintro rfl; exact other own)]
    exact hx

/-- What was written to a connection stays written. -/
theorem CallMove.asked {n : Nat} {a : LinkAction} {c c' : LinkCall} (m : CallMove n l c a c' l')
    (k : Nat) : l.asked k <+: l'.asked k := by
  rcases m.said?_cases with same | rfl | ⟨k', f, -, grows, rfl⟩
  · simp only [Link.asked, same, List.prefix_rfl]
  · exact asked_opened l k
  · exact asked_setConnection l k' k grows

theorem CloserMove.said? {i : Nat} {c c' : CloserStage} (m : CloserMove i l c c' l') (k : Nat) :
    l'.said? k = l.said? k := by
  cases m with
  | take => rw [said?_setHolder, said?_setParked]
  | letGo => exact said?_letGo ..
  | unlock => exact said?_setHolder ..
  | flag | shut | swept | finish | seize | kill => rfl

/-- A connection comes into a slot only from a call that parks it. -/
theorem CallMove.parked? {n : Nat} {a : LinkAction} {c c' : LinkCall} {s k : Nat}
    (m : CallMove n l c a c' l') (own : ∀ s, c.hold.slot? = some s → s < l.size)
    (hp : l'.parked? s = some k) :
    l.parked? s = some k ∨ ∃ r, c.stage = .parking s k r ∧ l'.said? k = l.said? k := by
  have lt {s} (h : c.hold.slot? = some s) : s < l.size := own s h
  cases m with
  | lock h hu =>
    rw [parked?_setHolder (isUnlocked_iff.1 hu).1] at hp
    exact .inl hp
  | unlock h =>
    rw [parked?_setHolder (lt (by rw [LinkCall.hold, h]; rfl))] at hp
    exact .inl hp
  | take h =>
    rw [parked?_setParked (lt (by rw [LinkCall.hold, h]; rfl))] at hp
    split at hp
    · cases hp
    · exact .inl hp
  | park h =>
    rw [parked?_setParked (lt (by rw [LinkCall.hold, h]; rfl))] at hp
    split at hp
    · rename_i e
      obtain rfl := Option.some.inj hp
      exact .inr ⟨_, by rw [h, e], said?_setParked ..⟩
    · exact .inl hp
  | write | ignore | answer | fault => rw [setConnection_eq] at hp; exact .inl hp
  | letGo => rw [letGo_eq] at hp; exact .inl hp
  | find | start | misfire | comeUp | skip | refuse | enter | deny | permit | exhaust | pass | dial
  | connect | miss | announce | jam | report | hangUp | giveBack | retry | fail | succeed | timeOut
  | vanish | quitEarly | quitStarting | quitStanding | quitConnecting | quitTalking => exact .inl hp

theorem CloserMove.parked? {i : Nat} {c c' : CloserStage} {s k : Nat} (m : CloserMove i l c c' l')
    (own : ∀ s, c.hold.slot? = some s → s < l.size) (hp : l'.parked? s = some k) :
    l.parked? s = some k := by
  cases m with
  | @take slot parked h =>
    have lt : slot < l.size := (List.getElem?_eq_some_iff.1 h).1
    rw [parked?_setHolder (by rw [size_setParked]; exact lt), parked?_setParked lt] at hp
    split at hp
    · cases hp
    · exact hp
  | letGo => rw [letGo_eq] at hp; exact hp
  | unlock => rwa [parked?_setHolder (own _ rfl)] at hp
  | flag | shut | swept | finish | seize | kill => exact hp

end Link

namespace Dialogue

variable {settings : GatewaySettings} {d d' : Dialogue}

/-! ### What carries over -/

/-- Nothing is said on a connection. -/
structure Silent (k : Nat) (d d' : Dialogue) : Prop where
  said : ∀ x, d.link.said? k = some x → d'.link.said? k = some x
  answered : d'.answered k = d.answered k

theorem Quiet.of_silent {k : Nat} (q : d.Quiet k) (still : Silent k d d') : d'.Quiet k := by
  rw [Quiet, still.answered]
  exact still.said _ q

theorem Awaits.of_silent {k n : Nat} {request : InvokeRequest} (w : d.Awaits k n request)
    (still : Silent k d d') (more : d.answers ⊆ d'.answers) : d'.Awaits k n request := by
  rw [Awaits, still.answered]
  obtain waits | ⟨frame, r, given, verdict, answer⟩ := w
  · exact .inl (still.said _ waits)
  · exact .inr ⟨frame, r, still.said _ given, verdict, more answer⟩

theorem Right.mono {n : Nat} {v : Verdict} (h : d.Right n v) (more : d.answers ⊆ d'.answers) :
    d'.Right n v := by
  cases v with
  | ok r =>
    obtain ⟨k, given⟩ := h
    exact ⟨k, more given⟩
  | error e => exact h

theorem RightEnd.mono {n : Nat} {ending : AttemptEnd} (h : d.RightEnd n ending)
    (more : d.answers ⊆ d'.answers) : d'.RightEnd n ending := by
  cases ending with
  | decided v => exact Right.mono h more
  | abandoned => trivial

/-- Where nothing is said on its connection, a call still is where it fits. -/
theorem Fits.of_silent {n : Nat} {c : LinkCall} (f : d.Fits n c)
    (still : ∀ k, c.stage.talksOn? = some k → Silent k d d') (more : d.answers ⊆ d'.answers) :
    d'.Fits n c := by
  unfold Fits at f ⊢
  cases e : c.stage with
  | announcing s k | sending s k =>
    rw [e] at f still
    exact Quiet.of_silent f (still k rfl)
  | receiving s k =>
    rw [e] at f still
    exact Awaits.of_silent f (still k rfl) more
  | parking s k r =>
    rw [e] at f still
    exact ⟨f.1.of_silent (still k rfl), more f.2⟩
  | failing | hangingUp =>
    rw [e] at f
    exact f
  | letting | unlocking | returning | settled =>
    rw [e] at f
    exact RightEnd.mono f more
  | finished v =>
    rw [e] at f
    cases v with
    | none => trivial
    | some v => exact Right.mono f more
  | launching | starting | entering | queued | searching | standing | leased | connecting => trivial

/-- The invariant is kept where every parked connection and every call is as it was, with nothing
said on its connection, or was seen to. -/
theorem Sound.of_silent (so : d.Sound) (cu : d'.link.Custody) (more : d.answers ⊆ d'.answers)
    (parked : ∀ s k, d'.link.parked? s = some k →
      d.link.parked? s = some k ∧ Silent k d d' ∨ d'.Quiet k)
    (calls : ∀ n c, d'.link.calls[n]? = some c →
      d.link.calls[n]? = some c ∧ (∀ k, c.stage.talksOn? = some k → Silent k d d') ∨ d'.Fits n c)
    (inTurn : ∀ k, d'.answered k <+: d'.link.asked k) : d'.Sound where
  custody := cu
  parked s k hp := by
    rcases parked s k hp with ⟨was, still⟩ | quiet
    · exact (so.parked s k was).of_silent still
    · exact quiet
  calls n c hc := by
    rcases calls n c hc with ⟨was, still⟩ | fits
    · exact (so.calls n c was).of_silent still more
    · exact fits
  inTurn := inTurn

/-- Nothing was answered on a connection that is still to be opened. -/
theorem Sound.answered_length (so : d.Sound) : d.answered d.link.connections.length = [] := by
  have none := so.inTurn d.link.connections.length
  rw [Link.asked, Link.said?, List.getElem?_eq_none (Nat.le_refl _)] at none
  exact List.prefix_nil.1 none

/-! ### A call takes its next step -/

section Call

variable {n : Nat} {a : LinkAction} {c c' : LinkCall} {l' : Link}

/-- The dialogue after a step of a call. -/
def afterCall (d : Dialogue) (n : Nat) (c' : LinkCall) (l' : Link) : Dialogue :=
  ⟨{ l' with calls := d.link.calls.set n c' }, d.answers⟩

@[simp] theorem answered_afterCall (k : Nat) : (d.afterCall n c' l').answered k = d.answered k :=
  rfl

@[simp] theorem said?_afterCall (k : Nat) : (d.afterCall n c' l').link.said? k = l'.said? k := rfl

/-- On a connection that a call does not hold it says nothing. -/
theorem silent_afterCall (m : Link.CallMove n d.link c a c' l') {k : Nat}
    (other : c.hold.connection? ≠ some k) : Silent k d (d.afterCall n c' l') :=
  ⟨fun _ hx => m.said?_of_other other hx, rfl⟩

/-- A call that has written its request waits for the answer. -/
theorem Quiet.written {k : Nat} (q : d.Quiet k) (request : InvokeRequest) (c' : LinkCall) :
    (d.afterCall n c' (d.link.setConnection k (Link.written n request.frame))).Awaits k n
      request :=
  .inl (Link.said?_written q)

/-- The first thing that a call reads only keeps the connection alive, or is the answer, or is the
end of the connection. -/
theorem Awaits.read {k : Nat} {request : InvokeRequest} {arrival : Arrival} {rest : List Arrival}
    (w : d.Awaits k n request) (hi : d.link.inbox? k = some (arrival :: rest)) (c' : LinkCall) :
    match request.verdict? arrival with
    | none => (d.afterCall n c' (d.link.setConnection k (Link.leaving rest))).Awaits k n request
    | some (.ok r) =>
      (d.afterCall n c' (d.link.setConnection k (Link.leaving rest))).Quiet k ∧
        ⟨k, n, r⟩ ∈ d.answers
    | some (.error e) => e.isProtocol = false := by
  obtain ⟨asked, said, left⟩ := Link.said?_leaving hi
  have unread {unread} (h : d.link.said? k = some unread) :
      unread = (asked, (arrival :: rest).filter Arrival.isData) :=
    Option.some.inj (h.symm.trans said)
  cases arrival with
  | ping | pong =>
    -- It is not among what is unread, so the connection is as it was.
    have same : (d.link.setConnection k (Link.leaving rest)).said? k = d.link.said? k :=
      left.trans said.symm
    rw [InvokeRequest.verdict?, Awaits, said?_afterCall, same]
    exact w
  | close | ended | broken => rfl
  | binary =>
    obtain waits | ⟨frame, r, given, -⟩ := w
    · cases unread waits
    · cases unread given
  | text frame =>
    obtain waits | ⟨frame', r, given, verdict, answer⟩ := w
    · cases unread waits
    · obtain ⟨e, one⟩ := Prod.mk.inj (unread given)
      obtain ⟨e', none⟩ := List.cons.inj one
      obtain rfl := Arrival.text.inj e'
      simp only [InvokeRequest.verdict?, verdict]
      rw [← e, ← none] at left
      exact ⟨left, answer⟩

/-- A call that has taken its next step is where it fits. -/
theorem fits_afterCall (so : d.Sound) (hc : d.link.calls[n]? = some c)
    (m : Link.CallMove n d.link c a c' l') : (d.afterCall n c' l').Fits n c' := by
  have f := so.calls n c hc
  unfold Fits at f ⊢
  cases m with
  | find | start | comeUp | skip | enter | permit | exhaust | lock | pass | dial | retry | vanish
  | quitEarly | quitStarting | quitStanding | quitConnecting | quitTalking => trivial
  | refuse | deny | miss | jam | timeOut => rfl
  | misfire _ _ _ he =>
    obtain ⟨message, rfl⟩ := Launcher.error_of_ensure he
    rfl
  | @take _ k _ hk =>
    exact (so.parked _ k hk).of_silent ⟨fun _ hx => (Link.said?_setParked ..).trans hx, rfl⟩
  | connect =>
    exact (Link.said?_opened ..).trans (by rw [if_pos rfl, answered_afterCall, so.answered_length])
  | write h =>
    rw [h] at f
    exact Quiet.written f c.request _
  | ignore h hi hv =>
    rw [h] at f ⊢
    have := f.read hi c
    rw [hv] at this
    exact this
  | @answer slot k _ _ r h hi hv =>
    rw [h] at f
    have := f.read hi { c with stage := .parking slot k r }
    rw [hv] at this
    exact this
  | fault h hi hv =>
    rw [h] at f
    have := f.read hi c
    rw [hv] at this
    exact this
  | park h =>
    rw [h] at f
    exact ⟨_, f.2⟩
  | announce h | report h | hangUp h | letGo h | unlock h | giveBack h | fail h | succeed h =>
    rw [h] at f
    exact f

/-- The invariant is kept when a call takes its next step. -/
theorem Sound.of_call (so : d.Sound) (hc : d.link.calls[n]? = some c)
    (m : Link.CallMove n d.link c a c' l') : (d.afterCall n c' l').Sound := by
  have own : d.link.hold (.call n) = c.hold := Link.hold_call hc
  refine so.of_silent (so.custody.move (.call hc m)) (fun _ => id) (fun s k hp => ?_)
    (fun n₁ c₁ hc₁ => ?_) fun k => (so.inTurn k).trans (m.asked k)
  · rcases m.parked? (fun s hs => so.custody.lt_size s (x := .call n) (by rwa [own])) hp with
      was | ⟨r, parking, same⟩
    · exact .inl ⟨was, silent_afterCall m (by rw [← own]; exact so.custody.parked_apart was)⟩
    · have f := so.calls n c hc
      rw [Fits, parking] at f
      exact .inr (f.1.of_silent ⟨fun _ hx => same.trans hx, rfl⟩)
  · by_cases e : n₁ = n
    · subst e
      rw [afterCall, List.getElem?_set_self (List.getElem?_eq_some_iff.1 hc).1] at hc₁
      cases hc₁
      exact .inr (fits_afterCall so hc m)
    · rw [afterCall, List.getElem?_set_ne (Ne.symm e)] at hc₁
      refine .inl ⟨hc₁, fun k talks => silent_afterCall m fun mine => e ?_⟩
      have its : (d.link.hold (.call n₁)).connection? = some k := by
        rw [Link.hold_call hc₁]
        exact CallStage.hold_of_talksOn? talks
      exact SlotHolder.call.inj (so.custody.held_apart its (by rwa [own]))

end Call

/-! ### Something arrives -/

/-- What arrives on a connection changes nothing for calls and slots. -/
theorem parked?_receiving (l : Link) (k : Nat) (arrival : Arrival) (s : Nat) :
    (l.setConnection k (Link.receiving arrival)).parked? s = l.parked? s := by
  rw [Link.setConnection_eq]
  rfl

theorem calls_receiving (l : Link) (k : Nat) (arrival : Arrival) :
    (l.setConnection k (Link.receiving arrival)).calls = l.calls := by
  rw [Link.setConnection_eq]

/-- A connection that is being given up has a holder that does not talk on it, so it is not parked
and no call talks on it. -/
theorem Sound.unused_of_isGivenUp (so : d.Sound) {k : Nat} (up : d.isGivenUp k = true) :
    (∀ s, d.link.parked? s ≠ some k) ∧
      ∀ (n : Nat) (c : LinkCall), d.link.calls[n]? = some c → c.stage.talksOn? ≠ some k := by
  have holder : ∃ x, (d.link.hold x).connection? = some k ∧
      ∀ (n : Nat) (c : LinkCall), x = .call n → d.link.calls[n]? = some c →
        c.stage.talksOn? ≠ some k := by
    rcases Bool.or_eq_true_iff.1 up with up | up
    · obtain ⟨c, hc, gone⟩ := List.any_eq_true.1 up
      obtain ⟨n, hn⟩ := List.mem_iff_getElem?.1 hc
      have gone : c.stage.givesUp? = some k := eq_of_beq gone
      refine ⟨.call n, ?_, fun n' c' e hc' talks => ?_⟩
      · rw [Link.hold_call hn]
        exact CallStage.hold_of_givesUp? gone
      · obtain rfl := SlotHolder.call.inj e
        obtain rfl := Option.some.inj (hn.symm.trans hc')
        rw [CallStage.talksOn?_of_givesUp? gone] at talks
        cases talks
    · obtain ⟨c, hc, gone⟩ := List.any_eq_true.1 up
      obtain ⟨i, hi⟩ := List.mem_iff_getElem?.1 hc
      refine ⟨.closer i, ?_, nofun⟩
      rw [Link.hold_closer hi]
      exact eq_of_beq gone
  obtain ⟨x, hx, silent⟩ := holder
  refine ⟨fun s hs => so.custody.parked_apart hs hx, fun n c hc talks => ?_⟩
  refine silent n c (so.custody.held_apart hx ?_) hc talks
  rw [Link.hold_call hc]
  exact CallStage.hold_of_talksOn? talks

/-- The invariant is kept when something arrives that says nothing to a call. -/
theorem Sound.of_arrival (so : d.Sound) {k : Nat} {arrival : Arrival}
    (m : Link.Move (.arrive k arrival) d.link d'.link)
    (e : d'.link = d.link.setConnection k (Link.receiving arrival)) (same : d'.answers = d.answers)
    (h : d.isGivenUp k = true ∨ arrival.isData = false) : d'.Sound := by
  have still (k' : Nat) (apart : k' = k → arrival.isData = false) : Silent k' d d' := by
    refine ⟨fun x hx => ?_, by rw [answered, same]; rfl⟩
    rw [e]
    by_cases hk : k' = k
    · obtain rfl := hk
      simp [Link.said?_receiving hx, apart rfl]
    · rwa [Link.said?_setConnection, if_neg hk]
  refine so.of_silent (so.custody.move m) (by rw [same]; exact fun _ => id) (fun s k' hp => .inl ?_)
    (fun n c hc => .inl ?_) fun k' => ?_
  · rw [e, parked?_receiving] at hp
    refine ⟨hp, still k' fun hk => ?_⟩
    rcases h with up | control
    · exact absurd (hk ▸ hp) ((so.unused_of_isGivenUp up).1 s)
    · exact control
  · rw [e, calls_receiving] at hc
    refine ⟨hc, fun k' talks => still k' fun hk => ?_⟩
    rcases h with up | control
    · exact absurd (hk ▸ talks) ((so.unused_of_isGivenUp up).2 n c hc)
    · exact control
  · rw [answered, same, e]
    exact (so.inTurn k').trans (Link.asked_setConnection _ k k' fun _ => List.prefix_rfl)

/-- On a quiet connection no answer is due. -/
theorem not_quiet_of_due {k n : Nat} (due : d.due? k = some n) : ¬ d.Quiet k := by
  intro q
  rw [due?, Link.asked, q, Option.map_some, Option.getD_some,
    List.getElem?_eq_none (Nat.le_refl _)] at due
  cases due

theorem answered_concat {k n : Nat} {r : InvokeResponse}
    (more : d'.answers = d.answers ++ [⟨k, n, r⟩]) (k' : Nat) :
    d'.answered k' = if k' = k then d.answered k ++ [n] else d.answered k' := by
  split
  · rename_i e
    simp [answered, more, e]
  · rename_i e
    simp [answered, more, Ne.symm e]

/-- The answer that is due on the connection of a call that waits is the answer to this call, and
then it is all that is unread. -/
theorem Awaits.of_answer {k n m : Nat} {request : InvokeRequest} {frame : String}
    {r : InvokeResponse} (w : d.Awaits k n request) (due : d.due? k = some m)
    (verdict : n = m → request.verdictOfText frame = .ok r)
    (e : d'.link = d.link.setConnection k (Link.receiving (.text frame)))
    (more : d'.answers = d.answers ++ [⟨k, m, r⟩]) : d'.Awaits k n request := by
  obtain waits | ⟨_, _, given, -⟩ := w
  · have mine : d.due? k = some n := by
      rw [due?, Link.asked, waits]
      exact List.getElem?_concat_length
    obtain rfl := Option.some.inj (mine.symm.trans due)
    refine .inr ⟨frame, r, ?_, verdict rfl, ?_⟩
    · rw [e, answered_concat more, if_pos rfl]
      exact Link.said?_receiving waits
    · rw [more]
      exact List.mem_append_right _ (List.mem_singleton.2 rfl)
  · rw [due?, Link.asked, given] at due
    exact absurd due (by simp)

/-- A call that talks on the connection where an answer was due waits for this answer. -/
theorem Fits.of_answer {k n m : Nat} {c : LinkCall} {frame : String} {r : InvokeResponse}
    (f : d.Fits n c) (talks : c.stage.talksOn? = some k) (due : d.due? k = some m)
    (verdict : n = m → c.request.verdictOfText frame = .ok r)
    (e : d'.link = d.link.setConnection k (Link.receiving (.text frame)))
    (more : d'.answers = d.answers ++ [⟨k, m, r⟩]) : d'.Fits n c := by
  unfold Fits at f ⊢
  cases hst : c.stage with
  | announcing | sending =>
    rw [hst] at f talks
    cases talks
    exact absurd f (not_quiet_of_due due)
  | receiving =>
    rw [hst] at f talks
    cases talks
    exact Awaits.of_answer f due verdict e more
  | parking =>
    rw [hst] at f talks
    cases talks
    exact absurd f.1 (not_quiet_of_due due)
  | _ => rw [hst] at talks; cases talks

/-- The invariant is kept when the answer arrives that is due. -/
theorem Sound.of_answer (so : d.Sound) {k n : Nat} {frame : String} {r : InvokeResponse}
    (m : Link.Move (.arrive k (.text frame)) d.link d'.link)
    (e : d'.link = d.link.setConnection k (Link.receiving (.text frame)))
    (due : d.due? k = some n) (answer : d.response? n frame = some r)
    (more : d'.answers = d.answers ++ [⟨k, n, r⟩]) : d'.Sound := by
  obtain ⟨c, hc, verdict⟩ := response?_eq_some answer
  have grown : d.answers ⊆ d'.answers := by
    rw [more]
    exact List.subset_append_left ..
  have still {k'} (hk : k' ≠ k) : Silent k' d d' := by
    refine ⟨fun x hx => ?_, ?_⟩
    · rwa [e, Link.said?_setConnection, if_neg hk]
    · rw [answered_concat more, if_neg hk]
  refine so.of_silent (so.custody.move m) grown (fun s k' hp => .inl ?_) (fun n' c' hc' => ?_)
    fun k' => ?_
  · rw [e, parked?_receiving] at hp
    exact ⟨hp, still fun hk => not_quiet_of_due due (hk ▸ so.parked s k' hp)⟩
  · rw [e, calls_receiving] at hc'
    by_cases talks : c'.stage.talksOn? = some k
    · refine .inr ((so.calls n' c' hc').of_answer talks due (fun same => ?_) e more)
      subst same
      obtain rfl := Option.some.inj (hc.symm.trans hc')
      exact verdict
    · exact .inl ⟨hc', fun k' its => still fun hk => talks (hk ▸ its)⟩
  · rw [e, answered_concat more]
    refine List.IsPrefix.trans ?_ (Link.asked_setConnection _ k k' fun _ => List.prefix_rfl)
    split
    · rename_i hk
      rw [hk]
      exact prefix_concat_of_getElem? (so.inTurn k) due
    · exact so.inTurn k'

/-! ### Every run -/

/-- The invariant is kept by what says nothing, parks nothing and is no step of a call. -/
theorem Sound.of_aside (so : d.Sound) {a : LinkAction} {l' : Link} (m : Link.Move a d.link l')
    (ha : a.call? = none) (said : ∀ k, l'.said? k = d.link.said? k)
    (parked : ∀ s k, l'.parked? s = some k → d.link.parked? s = some k) :
    Sound ⟨l', d.answers⟩ := by
  have still (k : Nat) : Silent k d ⟨l', d.answers⟩ := ⟨fun _ hx => (said k).trans hx, rfl⟩
  refine so.of_silent (so.custody.move m) (fun _ => id)
    (fun s k hp => .inl ⟨parked s k hp, still k⟩) (fun n c hc => ?_) fun k => ?_
  · rcases m.call_of_other (n := n) (by rw [ha]; nofun) with same | ⟨-, request, new⟩
    · exact .inl ⟨same.symm.trans hc, fun k _ => still k⟩
    · obtain rfl := Option.some.inj (new.symm.trans hc)
      exact .inr trivial
  · rw [Link.asked, said]
    exact so.inTurn k

/-- Every action keeps the invariant. -/
theorem Sound.step {a : LinkAction} (so : d.Sound) (h : step a d = some d') : d'.Sound := by
  obtain ⟨m, given⟩ := step_cases h
  obtain ⟨l', answers⟩ := d'
  rcases given with ⟨same, spoken⟩ | ⟨k, frame, n, r, rfl, due, answer, more⟩
  · obtain rfl : answers = d.answers := same
    cases m with
    | call hc m => exact so.of_call hc m
    | arrive a hc open_ => exact so.of_arrival (.arrive a hc open_) rfl rfl (spoken _ _ rfl)
    | closer hi m =>
      refine so.of_aside (.closer hi m) rfl (fun k => m.said? k) fun s k => m.parked? fun s hs => ?_
      exact so.custody.lt_size s (by rwa [Link.hold_closer hi])
    | invoke request => exact so.of_aside (.invoke request) rfl (fun _ => rfl) fun _ _ => id
    | close => exact so.of_aside .close rfl (fun _ => rfl) fun _ _ => id
    | exit process hp => exact so.of_aside (.exit process hp) rfl (fun _ => rfl) fun _ _ => id
  · have e : l' = d.link.setConnection k (Link.receiving (.text frame)) := by
      cases m with
      | call _ m => cases m
      | arrive => rfl
    exact so.of_answer m e due answer more

/-- On a new link nothing was said. -/
theorem sound_ofSettings (settings : GatewaySettings) : (ofSettings settings).Sound where
  custody := Link.custody_ofSettings settings
  parked s k hp := by
    obtain ⟨slot, hs, parked⟩ := Option.bind_eq_some_iff.1 hp
    obtain rfl := (List.mem_replicate.1 (List.mem_of_getElem? hs)).2
    cases parked
  calls _ _ hc := by cases hc
  inTurn _ := List.nil_prefix

/-- The invariant holds at every time. -/
theorem sound (h : Reachable settings d) : d.Sound :=
  Machine.Reaches.invariant h (fun _ _ _ hs so => so.step hs) (sound_ofSettings settings)

/-- **No cross-talk.** Let the gateway keep to its part: on every connection its answers are to the
requests in their order. Then no call fails because of what the gateway said, and a call that
returns a response returns what the gateway gave as the answer to its own request. On a connection
that is parked in a slot every request was answered, and every answer read. -/
theorem no_cross_talk (h : Reachable settings d) :
    (∀ k, d.answered k <+: d.link.asked k) ∧
    (∀ n v, d.link.verdict? n = some v →
      (∀ message, v ≠ .error (.protocol message)) ∧
        ∀ r, v = .ok r → ∃ k, ⟨k, n, r⟩ ∈ d.answers) ∧
    ∀ s k, d.link.parked? s = some k → d.Quiet k := by
  have so := sound h
  refine ⟨so.inTurn, fun n v hv => ?_, so.parked⟩
  unfold Link.verdict? at hv
  split at hv
  · rename_i hc
    have right : d.Right n v := by
      have f := so.calls n _ hc
      rw [hv] at f
      exact f
    refine ⟨?_, ?_⟩
    · rintro message rfl
      cases right
    · rintro r rfl
      exact right
  · cases hv

/-- A call is given up before its answer comes; another one is answered, and parks its
connection. -/
def sampleTalk : List LinkAction :=
  Link.sampleOpening 0 ++ [.abandon 0 none, .arrive 0 (.text Link.sampleAnswer)] ++
    List.replicate 4 (.proceed 0) ++ Link.sampleOpening 1 ++ Link.sampleEnding 1 1

theorem no_cross_talk_sample :
    ∃ d, Machine.run step sampleTalk (ofSettings {}) = some d ∧
      d.link.verdict? 1 = some (.ok (.ofValue Link.sampleRequest.callId none)) ∧
      (∃ k, ⟨k, 1, .ofValue Link.sampleRequest.callId none⟩ ∈ d.answers) ∧
      d.link.parked? 0 = some 1 ∧ d.Quiet 1 := by
  have run : (Machine.run step sampleTalk (ofSettings {})).map (fun d =>
      ((d.link.verdict? 1).map Except.toOption, d.link.parked? 0)) =
      some (some (some (.ofValue Link.sampleRequest.callId none)), some 1) := by decide +kernel
  obtain ⟨d, hd, e⟩ := Option.map_eq_some_iff.1 run
  obtain ⟨answered, parked⟩ := Prod.mk.inj e
  obtain ⟨v, verdict, response⟩ := Option.map_eq_some_iff.1 answered
  obtain rfl : v = .ok (.ofValue Link.sampleRequest.callId none) := by
    cases v with
    | ok r => exact congrArg _ (Option.some.inj response)
    | error e => cases response
  obtain ⟨-, right, quiet⟩ := no_cross_talk ⟨_, hd⟩
  exact ⟨d, hd, verdict, (right 1 _ verdict).2 _ rfl, parked, quiet 0 1 parked⟩

end Dialogue

end PanelScript
