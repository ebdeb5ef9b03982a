import PanelScript.Event.Basic
import PanelScript.Gateway.Conversation
import PanelScript.Gateway.Launcher
import PanelScript.Gateway.Settings

/-!
# The link to the gateway

Calls of the gateway share a fixed number of slots. A slot holds at most one connection, which is
opened when it is first needed and carries one call at a time. As many permits as there are slots
bound the calls; a connection that fails is given up and not put back.

* `Slot`, `Connection` and `LinkCall` are what a link is made of;
* `CallStage` and `CloserStage` say where a call, or an attempt to close the link, stands;
* `Link` is the link, `Link.ofSettings` a new one.
-/

namespace PanelScript

/-- Who has locked a slot. -/
inductive SlotHolder where
  | call (n : Nat)
  | closer (n : Nat)
  deriving DecidableEq

/-- A slot: who has locked it, and the connection that is parked in it. -/
structure Slot where
  holder : Option SlotHolder
  parked : Option Nat
  deriving DecidableEq

/-- A slot that nobody has locked and where no connection is parked. -/
def Slot.empty : Slot := ⟨none, none⟩

/-- A connection that was opened. -/
structure Connection where
  /-- The frames that were written, each with the number of its call. -/
  sent : List (Nat × String)
  /-- What has arrived and is unread. -/
  inbox : List Arrival
  /-- This side has not given it up. -/
  isOpen : Bool
  deriving DecidableEq

/-- How an attempt at a call comes to its end. -/
inductive AttemptEnd where
  | decided (v : Verdict)
  /-- Nobody waits for it any more: its time was over after so many milliseconds, or the caller
  went away. -/
  | abandoned (expired : Option Nat)

/-- Where a call stands. What it holds is part of the stage: a permit from `searching` to
`returning`, a slot from `leased` to `unlocking`, a connection from `announcing` to `letting`. -/
inductive CallStage where
  /-- It wants the process of the gateway to be alive. -/
  | launching
  /-- It has started the process and gives it time to come up. -/
  | starting
  /-- It is about to see whether the link is closed. -/
  | entering
  /-- It waits for a permit. -/
  | queued
  /-- It tries the slots one after the other. -/
  | searching (slot : Nat)
  /-- It has found no free slot and waits for the first. -/
  | standing
  /-- It is about to take the connection out of its slot. -/
  | leased (slot : Nat)
  | connecting (slot : Nat)
  /-- It is about to tell that a connection was opened. -/
  | announcing (slot connection : Nat)
  | sending (slot connection : Nat)
  | receiving (slot connection : Nat)
  /-- It is about to put its connection back. -/
  | parking (slot connection : Nat) (response : InvokeResponse)
  /-- It is about to tell that its connection failed. -/
  | failing (slot connection : Nat) (error : GatewayError)
  /-- It closes its connection. -/
  | hangingUp (slot connection : Nat) (error : GatewayError)
  /-- It is about to give its connection up. -/
  | letting (slot connection : Nat) (ending : AttemptEnd)
  /-- It is about to unlock its slot. -/
  | unlocking (slot : Nat) (ending : AttemptEnd)
  /-- It is about to return its permit. -/
  | returning (ending : AttemptEnd)
  /-- The attempt is over. -/
  | settled (ending : AttemptEnd)
  /-- The call is over; it has no verdict if the caller went away. -/
  | finished (v : Option Verdict)

/-- A call. -/
structure LinkCall where
  request : InvokeRequest
  /-- One, or two once the first attempt has failed. -/
  attempt : Nat
  stage : CallStage
  /-- How many connections had been opened when the second attempt began. -/
  retriedAt : Option Nat

/-- Whether the call is not over. -/
def LinkCall.isActive (c : LinkCall) : Bool :=
  match c.stage with
  | .finished _ => false
  | _ => true

/-- Where an attempt to close the link stands. -/
inductive CloserStage where
  | entering
  /-- The link is marked closed. -/
  | flagged
  /-- It empties the slots one after the other. -/
  | sweeping (slot : Nat)
  /-- It has locked a slot and closes the connection that it has taken out. -/
  | closing (slot : Nat) (connection : Option Nat)
  /-- All slots were emptied; it waits for the launcher, to take the process out. -/
  | stopping
  /-- It has taken a process out, and ends it. -/
  | killing (process : Nat)
  | returned
  deriving DecidableEq

/-- This side of the gateway. -/
structure Link where
  settings : GatewaySettings
  launcher : Option Launcher
  /-- Who gives a new process time to come up; nobody else uses the launcher meanwhile. -/
  launching : Option Nat
  /-- The link is marked closed. -/
  closed : Bool
  /-- No more permits are given out. -/
  permitsClosed : Bool
  /-- The permits that can be given out. -/
  free : Nat
  slots : List Slot
  /-- The number of open connections, parked or in use. -/
  openCount : Nat
  /-- All connections that were opened, in order. -/
  connections : List Connection
  calls : List LinkCall
  closers : List CloserStage
  /-- What was told to observers. -/
  events : List Event

namespace Link

/-- A new link. Nothing is connected or started. -/
def ofSettings (settings : GatewaySettings) : Link where
  settings
  launcher := settings.command.bind fun command =>
    Launcher.ofCommand? command settings.pythonPath settings.startupDelay
  launching := none
  closed := false
  permitsClosed := false
  free := max settings.poolSize 1
  slots := List.replicate (max settings.poolSize 1) .empty
  openCount := 0
  connections := []
  calls := []
  closers := []
  events := []

/-- The number of slots. -/
def size (l : Link) : Nat := l.slots.length

/-- The number of open connections. -/
def connected (l : Link) : Nat := l.openCount

/-- Replace a call. -/
def setCall (l : Link) (call : Nat) (c : LinkCall) : Link :=
  { l with calls := l.calls.set call c }

/-- Put a call at a stage. -/
def setStage (l : Link) (call : Nat) (stage : CallStage) : Link :=
  match l.calls[call]? with
  | some c => l.setCall call { c with stage }
  | none => l

/-- Lock or unlock a slot. -/
def setHolder (l : Link) (slot : Nat) (holder : Option SlotHolder) : Link :=
  match l.slots[slot]? with
  | some s => { l with slots := l.slots.set slot { s with holder } }
  | none => l

/-- Park a connection in a slot, or take it out. -/
def setParked (l : Link) (slot : Nat) (parked : Option Nat) : Link :=
  match l.slots[slot]? with
  | some s => { l with slots := l.slots.set slot { s with parked } }
  | none => l

/-- Put a connection into another state. -/
def setConnection (l : Link) (connection : Nat) (f : Connection → Connection) : Link :=
  match l.connections[connection]? with
  | some c => { l with connections := l.connections.set connection (f c) }
  | none => l

/-- Give a connection up. -/
def letGo (l : Link) (connection : Nat) : Link :=
  { l.setConnection connection fun c => { c with isOpen := false } with
    openCount := l.openCount - 1 }

/-- Tell observers. -/
def tell (l : Link) (e : Event) : Link := { l with events := l.events ++ [e] }

/-- The event of a new connection. -/
def connectedEvent (l : Link) : Event := (Event.ofKind .gatewayConnected).withSource l.settings.url

/-- The event of a failed connection. -/
def disconnectedEvent (l : Link) (error : GatewayError) : Event :=
  ((Event.ofKind .gatewayDisconnected).withSource l.settings.url).withError error.message true

/-- The slot is there and nobody has locked it. -/
def isUnlocked (l : Link) (slot : Nat) : Bool :=
  match l.slots[slot]? with
  | some s => s.holder.isNone
  | none => false

/-- The verdict of a call that is over. -/
def verdict? (l : Link) (call : Nat) : Option Verdict :=
  match l.calls[call]? with
  | some ⟨_, _, .finished v, _⟩ => v
  | _ => none

/-- Whether a call is over. -/
def isFinished (l : Link) (call : Nat) : Bool :=
  match l.calls[call]? with
  | some c => !c.isActive
  | none => true

@[simp] theorem size_setHolder (l : Link) (slot : Nat) (holder : Option SlotHolder) :
    (l.setHolder slot holder).size = l.size := by
  unfold setHolder size; split <;> simp

@[simp] theorem size_setParked (l : Link) (slot : Nat) (parked : Option Nat) :
    (l.setParked slot parked).size = l.size := by
  unfold setParked size; split <;> simp

@[simp] theorem size_setStage (l : Link) (call : Nat) (stage : CallStage) :
    (l.setStage call stage).size = l.size := by
  unfold setStage size; split <;> rfl

end Link

end PanelScript
