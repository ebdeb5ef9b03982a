import PanelScript.Proofs.Link.Deeds
import PanelScript.Proofs.Link.Search

/-!
# Permits, slots and connections balance

However calls, attempts to close the link, the gateway and the network interleave, everything that
was given out is held by someone, and comes back once.

* `Balanced` says who has the connections and the permits of a link;
* `balanced`: a link is balanced in every state;
* `pool_balances`: it is balanced, every call gives back what it has taken, its slot before its
  permit, and finds a slot while nobody sweeps.
-/

namespace PanelScript.Link

variable {settings : GatewaySettings} {l : Link}

/-- Connections are parked or held, one for a slot at most, and permits are free or held. -/
structure Balanced (l : Link) : Prop where
  connected : l.connected = l.slots.countP (·.parked.isSome) +
    l.calls.countP (·.hold.connection?.isSome) + l.closers.countP (·.hold.connection?.isSome)
  isOpen : l.connected = l.connections.countP Connection.isOpen
  held : ∀ x s k, l.hold x = .connection s k → l.holder? s = some x ∧ 0 < l.connected
  owned : ∀ s, l.owned s ≤ 1
  bounded : l.connected ≤ l.size
  permits : l.free + l.calls.countP LinkCall.hasPermit = l.size
  covered : ∀ c ∈ l.calls, c.hold ≠ .nothing → c.hasPermit = true

theorem balanced (h : Reachable settings l) : l.Balanced := by
  have cu := custody h
  have connected : l.connected = l.slots.countP (·.parked.isSome) +
      l.calls.countP (·.hold.connection?.isSome) +
      l.closers.countP (·.hold.connection?.isSome) := by
    have counted := cu.counted
    rw [custodians, holds, List.countP_append, List.countP_map, List.countP_map] at counted
    simp only [isSome_eq_any]
    exact counted.trans (Nat.add_assoc ..).symm
  refine ⟨connected, openCount_eq_countP_isOpen cu, fun x s k e => ⟨?_, ?_⟩, owned_le_one cu,
    openCount_le_size cu, cu.permits, fun c _ ne => ?_⟩
  · exact (cu.locks x s).1 (by rw [e]; rfl)
  · exact openCount_pos cu e
  · by_contra no
    exact ne (CallStage.hold_of_no_permit (Bool.eq_false_iff.2 no))

/-- A call is not in the middle of a search. -/
def IsFresh (l : Link) (n : Nat) : Prop :=
  ∀ c, l.calls[n]? = some c → c.stage ≠ .standing ∧ ∀ s, c.stage ≠ .searching (s + 1)

/-- **A link balances.** At every time its connections and permits are where they belong. A call
does nothing but whole rounds, one at most for an attempt, and is in the middle of one only until
its attempt is over. While nobody sweeps there are slots for all calls that have a permit, and a
search that begins finds one. -/
theorem pool_balances {actions : List LinkAction}
    (h : Machine.run step actions (ofSettings settings) = some l) :
    l.Balanced ∧ l.size = max settings.poolSize 1 ∧
    (∀ n c, l.calls[n]? = some c → ∃ (rounds : List (List Deed)) (now : List Deed),
      history n actions (ofSettings settings) = rounds.flatten ++ now ∧
      (∀ r ∈ rounds, Round r) ∧ Underway c.stage now ∧ (c.stage.isTrying = false → now = []) ∧
      rounds.length + c.stage.isTrying.toNat ≤ c.attempt) ∧
    (l.isSweeping = false →
      l.calls.countP LinkCall.isWaiting ≤ (l.vacant 0).card ∧
      ∀ t, Machine.Reaches quietStep l t → ∀ n c, l.IsFresh n → t.calls[n]? = some c →
        c.stage ≠ .standing ∧
        ∀ s, c.stage = .searching s → ∃ s', s ≤ s' ∧ t.isUnlocked s' = true) := by
  have reach : Reachable settings l := ⟨actions, h⟩
  refine ⟨balanced reach, size_of_reachable reach, fun n c hc => ?_, fun calm => ⟨?_, ?_⟩⟩
  · obtain ⟨rounds, now, e, whole, underway, bound⟩ := history_eq_rounds h hc
    refine ⟨rounds, now, e, whole, underway, fun idle => underway.eq_nil ?_, bound⟩
    exact CallStage.no_permit_of_over idle
  · exact waiting_le_vacant (custody reach) (hold_of_quiet calm)
  · exact fun t r n c fresh hc => search_finds reach calm r fresh hc

/-- A call is given up while it waits for its answer, and another one is under way when a third
begins to search. -/
def sampleCalls : List LinkAction :=
  sampleOpening 0 ++ [.abandon 0 none] ++ List.replicate 4 (.proceed 0) ++ sampleOpening 1 ++
    [.invoke sampleRequest] ++ List.replicate 3 (.proceed 2)

theorem pool_balances_sample :
    ∃ l t, Machine.run step sampleCalls (ofSettings {}) = some l ∧ l.Balanced ∧ l.connected = 1 ∧
      history 0 sampleCalls (ofSettings {}) = [.takePermit, .lock 0, .unlock 0, .returnPermit] ∧
      l.isSweeping = false ∧ quietStep (.proceed 2) l = some t ∧ t.stage? 2 = some (.searching 1) ∧
      ∃ s, 1 ≤ s ∧ t.isUnlocked s = true := by
  have run : (Machine.run step sampleCalls (ofSettings {})).map (fun l =>
      (l.connected, l.isSweeping, history 0 sampleCalls (ofSettings {}))) =
      some (1, false, [.takePermit, .lock 0, .unlock 0, .returnPermit]) := by decide +kernel
  have before : (Machine.run step sampleCalls (ofSettings {})).map (·.stage? 2) =
      some (some (.searching 0)) := rfl
  have after : ((Machine.run step sampleCalls (ofSettings {})).bind (quietStep (.proceed 2))).map
      (·.stage? 2) = some (some (.searching 1)) := rfl
  obtain ⟨l, hr, hs⟩ := Option.map_eq_some_iff.1 run
  simp only [Prod.mk.injEq] at hs
  obtain ⟨one, calm, done⟩ := hs
  rw [hr] at before after
  obtain ⟨t, ht, after⟩ := Option.map_eq_some_iff.1 after
  obtain ⟨balanced, -, -, search⟩ := pool_balances hr
  have fresh : l.IsFresh 2 := by
    intro c hc
    have e : c.stage = .searching 0 := by
      simpa [stage?, hc] using before
    rw [e]
    exact ⟨nofun, nofun⟩
  obtain ⟨c, hc, e⟩ := stage?_eq_some after
  obtain ⟨-, finds⟩ := (search calm).2 t (Machine.Reaches.single ht) 2 c fresh hc
  exact ⟨l, t, hr, balanced, one, done, calm, ht, after, finds 1 e⟩

end PanelScript.Link
