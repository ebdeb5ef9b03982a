import PanelScript.Gateway.Link.Basic
import PanelScript.Machine

/-!
# What happens on a link

Calls, attempts to close the link, the gateway and the network act one after the other, in any
order. What depends on the outside (whether a process starts, a connection opens, a frame is
written) comes with the action.

* `LinkAction` lists the actions, `Link.step` says what they do;
* `Link.proceed` is the next step of a call that depends on nobody else;
* `Link.sweep` is the next step of an attempt to close the link.
-/

namespace PanelScript

/-- What happens on a link. -/
inductive LinkAction where
  /-- A call begins. -/
  | invoke (request : InvokeRequest)
  /-- A call looks after the process; `spawn` is what becomes of an attempt to start one. -/
  | launch (call : Nat) (spawn : Except String Unit)
  /-- The time that a new process was given is over. -/
  | comeUp (call : Nat)
  /-- A call takes its next step. -/
  | proceed (call : Nat)
  /-- The connection of a call opens, or does not. -/
  | connect (call : Nat) (outcome : Except String Unit)
  /-- The request of a call is written, or is not. -/
  | write (call : Nat) (outcome : Except String Unit)
  /-- Something arrives on a connection. -/
  | arrive (connection : Nat) (arrival : Arrival)
  /-- A call reads what has arrived. -/
  | read (call : Nat)
  /-- The connection of a call has been closed. -/
  | hangUp (call : Nat)
  /-- Nobody waits for a call any more: its time is over, or its caller goes away. -/
  | abandon (call : Nat) (expired : Option Nat)
  /-- An attempt to close the link begins. -/
  | close
  /-- An attempt to close the link takes its next step. -/
  | sweep (closer : Nat)
  /-- A process ends by itself. -/
  | exit (process : Nat)

namespace Link

/-- The stage of a call. -/
def stage? (l : Link) (call : Nat) : Option CallStage := (l.calls[call]?).map LinkCall.stage

/-- A call begins. -/
def invoke (l : Link) (request : InvokeRequest) : Link :=
  { l with calls := l.calls ++ [⟨request, 1, .launching, none⟩] }

/-- A call looks after the process. -/
def launch (l : Link) (call : Nat) (spawn : Except String Unit) : Option Link :=
  match l.stage? call, l.launcher, l.launching with
  | some .launching, some launcher, none =>
    let (started, launcher) := launcher.ensure spawn
    let l := { l with launcher := some launcher }
    match started with
    | .error e => some (l.setStage call (.settled (.decided (.error e))))
    | .ok false => some (l.setStage call .entering)
    | .ok true => some { l.setStage call .starting with launching := some call }
  | _, _, _ => none

/-- The time that a new process was given is over. -/
def comeUp (l : Link) (call : Nat) : Option Link :=
  match l.stage? call with
  | some .starting => some { l.setStage call .entering with launching := none }
  | _ => none

/-- A call whose attempt has ended is tried again after a first failure of the connection, and is
over after anything else. -/
def conclude (l : Link) (call : Nat) : AttemptEnd → Option Link
  | .decided (.error e) =>
    (l.calls[call]?).map fun c =>
      if e.isRetryable ∧ c.attempt = 1 then
        l.setCall call
          { c with attempt := 2, stage := .launching, retriedAt := some l.connections.length }
      else l.setStage call (.finished (some (.error e)))
  | .decided (.ok r) => some (l.setStage call (.finished (some (.ok r))))
  | .abandoned (some elapsed) =>
    some (l.setStage call (.finished (some (.error (.timeout elapsed)))))
  | .abandoned none => some (l.setStage call (.finished none))

/-- A call locks a slot. -/
def lease (l : Link) (call slot : Nat) : Link :=
  (l.setHolder slot (some (.call call))).setStage call (.leased slot)

/-- A call takes its next step, if that depends on nobody else. -/
def proceed (l : Link) (call : Nat) : Option Link :=
  match l.stage? call with
  | some .launching => if l.launcher.isNone then some (l.setStage call .entering) else none
  | some .entering =>
    some <| if l.closed then l.setStage call (.settled (.decided (.error .closed)))
      else l.setStage call .queued
  | some .queued =>
    if l.permitsClosed then some (l.setStage call (.settled (.decided (.error .closed))))
    else if 0 < l.free then some { l.setStage call (.searching 0) with free := l.free - 1 }
    else none
  | some (.searching slot) =>
    some <| if l.size ≤ slot then l.setStage call .standing
      else if l.isUnlocked slot then l.lease call slot
      else l.setStage call (.searching (slot + 1))
  | some .standing => if l.isUnlocked 0 then some (l.lease call 0) else none
  | some (.leased slot) =>
    some <| match (l.slots[slot]?).bind Slot.parked with
      | some connection => (l.setParked slot none).setStage call (.sending slot connection)
      | none => l.setStage call (.connecting slot)
  | some (.announcing slot connection) =>
    some ((l.tell l.connectedEvent).setStage call (.sending slot connection))
  | some (.parking slot connection response) =>
    some ((l.setParked slot (some connection)).setStage call
      (.unlocking slot (.decided (.ok response))))
  | some (.failing slot connection error) =>
    some ((l.tell (l.disconnectedEvent error)).setStage call (.hangingUp slot connection error))
  | some (.letting slot connection ending) =>
    some ((l.letGo connection).setStage call (.unlocking slot ending))
  | some (.unlocking slot ending) =>
    some ((l.setHolder slot none).setStage call (.returning ending))
  | some (.returning ending) =>
    some { l.setStage call (.settled ending) with free := l.free + 1 }
  | some (.settled ending) => l.conclude call ending
  | _ => none

/-- The connection of a call opens, or does not. -/
def connect (l : Link) (call : Nat) (outcome : Except String Unit) : Option Link :=
  match l.stage? call with
  | some (.connecting slot) =>
    match outcome with
    | .ok _ =>
      let opened : Link :=
        { l with connections := l.connections ++ [⟨[], [], true⟩], openCount := l.openCount + 1 }
      some (opened.setStage call (.announcing slot l.connections.length))
    | .error message =>
      let error : GatewayError :=
        .connection s!"Failed to connect to gateway at {l.settings.url}: {message}"
      some (l.setStage call (.unlocking slot (.decided (.error error))))
  | _ => none

/-- The request of a call is written, or is not. -/
def write (l : Link) (call : Nat) (outcome : Except String Unit) : Option Link :=
  match l.calls[call]? with
  | some ⟨request, _, .sending slot connection, _⟩ =>
    match outcome with
    | .ok _ =>
      let l := l.setConnection connection fun c =>
        { c with sent := c.sent ++ [(call, request.frame)] }
      some (l.setStage call (.receiving slot connection))
    | .error message =>
      some (l.setStage call (.failing slot connection (.connection s!"Send failed: {message}")))
  | _ => none

/-- Something arrives on a connection that this side has not given up. -/
def arrive (l : Link) (connection : Nat) (arrival : Arrival) : Option Link :=
  match l.connections[connection]? with
  | some ⟨_, _, true⟩ =>
    some (l.setConnection connection fun c => { c with inbox := c.inbox ++ [arrival] })
  | _ => none

/-- A call reads the next thing that has arrived on its connection. -/
def read (l : Link) (call : Nat) : Option Link :=
  match l.calls[call]? with
  | some ⟨request, _, .receiving slot connection, _⟩ =>
    match (l.connections[connection]?).map Connection.inbox with
    | some (arrival :: rest) =>
      let l := l.setConnection connection fun c => { c with inbox := rest }
      some <| match request.verdict? arrival with
        | none => l
        | some (.ok response) => l.setStage call (.parking slot connection response)
        | some (.error error) => l.setStage call (.failing slot connection error)
    | _ => none
  | _ => none

/-- The connection of a call has been closed. -/
def hangUp (l : Link) (call : Nat) : Option Link :=
  match l.stage? call with
  | some (.hangingUp slot connection error) =>
    some (l.setStage call (.letting slot connection (.decided (.error error))))
  | _ => none

/-- Nobody waits for a call any more. It gives back what it holds, the connection first, then the
slot, then the permit. -/
def abandon (l : Link) (call : Nat) (expired : Option Nat) : Option Link :=
  match l.stage? call with
  | some .launching | some .queued => some (l.setStage call (.settled (.abandoned expired)))
  | some .starting =>
    some { l.setStage call (.settled (.abandoned expired)) with launching := none }
  | some .standing => some (l.setStage call (.returning (.abandoned expired)))
  | some (.connecting slot) => some (l.setStage call (.unlocking slot (.abandoned expired)))
  | some (.sending slot connection) | some (.receiving slot connection)
  | some (.hangingUp slot connection _) =>
    some (l.setStage call (.letting slot connection (.abandoned expired)))
  | _ => none

/-- An attempt to close the link begins. -/
def beginClose (l : Link) : Link := { l with closers := l.closers ++ [.entering] }

/-- Put an attempt to close the link at a stage. -/
def setCloser (l : Link) (closer : Nat) (stage : CloserStage) : Link :=
  { l with closers := l.closers.set closer stage }

/-- An attempt to close the link takes its next step. -/
def sweep (l : Link) (closer : Nat) : Option Link :=
  match l.closers[closer]? with
  | some .entering => some { l.setCloser closer .flagged with closed := true }
  | some .flagged => some { l.setCloser closer (.sweeping 0) with permitsClosed := true }
  | some (.sweeping slot) =>
    match l.slots[slot]? with
    | none => some (l.setCloser closer .stopping)
    | some ⟨none, parked⟩ =>
      some (((l.setParked slot none).setHolder slot (some (.closer closer))).setCloser closer
        (.closing slot parked))
    | some ⟨some _, _⟩ => none
  | some (.closing slot (some connection)) =>
    some ((l.letGo connection).setCloser closer (.closing slot none))
  | some (.closing slot none) =>
    some ((l.setHolder slot none).setCloser closer (.sweeping (slot + 1)))
  | some .stopping =>
    match l.launcher, l.launching with
    | none, _ => some (l.setCloser closer .returned)
    | some launcher, none =>
      -- Others can use the launcher before the process that is taken out has ended.
      some <| match launcher.held with
        | some process =>
          { l.setCloser closer (.killing process) with launcher := some launcher.release }
        | none => l.setCloser closer .returned
    | some _, some _ => none
  | some (.killing process) =>
    some { l.setCloser closer .returned with
      launcher := l.launcher.map fun launcher => launcher.exit process }
  | _ => none

/-- A process ends by itself. -/
def exit (l : Link) (process : Nat) : Option Link :=
  l.launcher.map fun launcher => { l with launcher := some (launcher.exit process) }

/-- What an action does; none if it cannot be taken. -/
def step (a : LinkAction) (l : Link) : Option Link :=
  match a with
  | .invoke request => some (l.invoke request)
  | .launch call spawn => l.launch call spawn
  | .comeUp call => l.comeUp call
  | .proceed call => l.proceed call
  | .connect call outcome => l.connect call outcome
  | .write call outcome => l.write call outcome
  | .arrive connection arrival => l.arrive connection arrival
  | .read call => l.read call
  | .hangUp call => l.hangUp call
  | .abandon call expired => l.abandon call expired
  | .close => some l.beginClose
  | .sweep closer => l.sweep closer
  | .exit process => l.exit process

/-- The states that a link with the given settings can come to. -/
def Reachable (settings : GatewaySettings) (l : Link) : Prop :=
  Machine.Reaches step (ofSettings settings) l

end Link

end PanelScript
