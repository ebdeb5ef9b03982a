import Mathlib.Data.List.Nodup
import PanelScript.Lane
import PanelScript.Machine
import PanelScript.Proofs.Participants

/-!
# Lanes and guards

A lane says which units are pending, and a guard is the right to run one of them. They are apart:
an admission writes a unit down and then makes a guard, and the end of a guard strikes the unit out.
Any number of threads do so at once.

* `LaneBoard.Matched`: each lane holds the units of its guards, and no guard is there twice;
  `Matched.grant` and `Matched.dismiss` keep it;
* `Matched.contains_iff`, `Matched.unique`, `Matched.size_eq` are what this means for the lanes;
* `LaneTraffic` is the board with all calls and guards on their way, `LaneTraffic.step` its machine,
  `LaneMove` what a step can do;
* `LaneTraffic.Kept`: lanes and guards agree along a run, and every guard that lives is on its way
  with just one visit;
* `LaneTraffic.pending_iff_guarded`: all of this for a whole run.
-/

namespace PanelScript

theorem Guard.eq_iff {g g' : Guard} : g = g' ↔ g.lane = g'.lane ∧ g.unit = g'.unit := by
  cases g
  cases g'
  simp

/-! ### The board -/

namespace LaneBoard

variable {b : LaneBoard} {g : Guard} {lane k : Nat} {unit : UnitId}

/-- A guard lives: it was given out, and its unit was not struck out. -/
def Lives (b : LaneBoard) (k : Nat) (g : Guard) : Prop := b.guards[k]? = some (some g)

/-- Whether a guard lives. -/
def isLive (b : LaneBoard) (k : Nat) : Bool := b.guards[k]?.join.isSome

/-- The units that the guards of a lane stand for, in the order of their admission. -/
def heldIn (b : LaneBoard) (lane : Nat) : List UnitId :=
  (b.held.filter (·.lane = lane)).map (·.unit)

/-- Each lane holds the units of its guards, and no guard is there twice. -/
structure Matched (b : LaneBoard) : Prop where
  pending : ∀ lane, (b.lane lane).pending = b.heldIn lane
  nodup : b.held.Nodup

/-- The board after an admission. -/
def grant (b : LaneBoard) (g : Guard) : LaneBoard :=
  ⟨b.lanes.set g.lane ⟨(b.lane g.lane).pending ++ [g.unit]⟩, b.guards ++ [some g]⟩

/-- The board after the end of a guard. -/
def dismiss (b : LaneBoard) (k : Nat) (g : Guard) : LaneBoard :=
  ⟨b.lanes.set g.lane ((b.lane g.lane).release g.unit), b.guards.set k none⟩

/-! #### What admissions and ends of guards do -/

/-- A request is granted, unless its unit is pending or its lane is not there; then nothing comes of
it. -/
theorem enter_cases (b : LaneBoard) (lane : Nat) (unit : UnitId) :
    b.enter lane unit = (none, b) ∧
        (b.lanes.length ≤ lane ∨ (b.lane lane).contains unit = true) ∨
      b.enter lane unit = (some b.guards.length, b.grant ⟨lane, unit⟩) ∧
        lane < b.lanes.length ∧ (b.lane lane).contains unit = false := by
  unfold enter
  cases there : b.lanes[lane]? with
  | none => exact .inl ⟨rfl, .inl (List.getElem?_eq_none_iff.1 there)⟩
  | some l =>
    have same : b.lane lane = l := by rw [LaneBoard.lane, there, Option.getD_some]
    have inside := (List.getElem?_eq_some_iff.1 there).1
    cases pending : l.contains unit with
    | true =>
      have refused := Lane.enter?_eq_none_iff.2 pending
      refine .inl ⟨?_, .inr (same ▸ pending)⟩
      simp only [refused]
    | false =>
      have admitted : l.enter? unit = some ⟨l.pending ++ [unit]⟩ := by simp [Lane.enter?, pending]
      refine .inr ⟨?_, inside, same ▸ pending⟩
      simp only [admitted, grant, same]

theorem letGo_of_lives (h : b.Lives k g) : b.letGo k = (true, b.dismiss k g) := by
  unfold letGo
  rw [h]
  rfl

theorem isLive_iff : b.isLive k = true ↔ ∃ g, b.Lives k g := by
  simp [isLive, Lives, Option.isSome_iff_exists, Option.join_eq_some_iff]

/-- An admission gives a new guard, and all others are as before. -/
theorem isLive_grant (b : LaneBoard) (g : Guard) (k : Nat) :
    (b.grant g).isLive k = if k = b.guards.length then true else b.isLive k := by
  unfold isLive grant
  rw [getElem?_concat_ite]
  split <;> rfl

/-- A guard that is dismissed does not live, and all others are as before. -/
theorem isLive_dismiss (live : b.Lives k g) (j : Nat) :
    (b.dismiss k g).isLive j = if j = k then false else b.isLive j := by
  unfold isLive dismiss
  rw [getElem?_set_ite (List.getElem?_eq_some_iff.1 live).1]
  split <;> rfl

/-- A guard that was not given out yet does not live. -/
theorem isLive_length (b : LaneBoard) : b.isLive b.guards.length = false := by
  rw [isLive, List.getElem?_eq_none (Nat.le_refl _)]
  rfl

theorem mem_held_iff : g ∈ b.held ↔ ∃ k, b.Lives k g := by
  rw [held, List.mem_filterMap]
  constructor
  · rintro ⟨_, mem, rfl⟩
    exact List.mem_iff_getElem?.1 mem
  · rintro ⟨k, live⟩
    exact ⟨_, List.mem_of_getElem? live, rfl⟩

theorem held_grant (b : LaneBoard) (g : Guard) : (b.grant g).held = b.held ++ [g] := by
  simp [held, grant]

/-- Who leaves a list in which nobody is twice is gone from it. -/
theorem filterMap_set_none {l : List (Option Guard)} (h : l[k]? = some (some g))
    (nodup : (l.filterMap id).Nodup) :
    (l.set k none).filterMap id = (l.filterMap id).filter (· ≠ g) := by
  have present (y : Guard) (l : List (Option Guard)) :
      (some y :: l).filterMap id = y :: l.filterMap id := rfl
  have absent (l : List (Option Guard)) : (none :: l).filterMap id = l.filterMap id := rfl
  induction l generalizing k with
  | nil => cases h
  | cons x l ih =>
    cases k with
    | zero =>
      obtain rfl : x = some g := by simpa using h
      rw [present, List.nodup_cons] at nodup
      have stay : (l.filterMap id).filter (· ≠ g) = l.filterMap id := by
        rw [List.filter_eq_self]
        intro y hy
        exact decide_eq_true fun e => nodup.1 (e ▸ hy)
      rw [List.set_cons_zero, absent, present, List.filter_cons_of_neg (by simp), stay]
    | succ k =>
      have there : l[k]? = some (some g) := by simpa using h
      rw [List.set_cons_succ]
      cases x with
      | none =>
        rw [absent] at nodup ⊢
        rw [absent]
        exact ih there nodup
      | some y =>
        rw [present, List.nodup_cons] at nodup
        have other : y ≠ g := by
          rintro rfl
          exact nodup.1 (List.mem_filterMap.2 ⟨_, List.mem_of_getElem? there, rfl⟩)
        rw [present, present, List.filter_cons_of_pos (by simpa using other), ih there nodup.2]

theorem held_dismiss (h : b.Lives k g) (nodup : b.held.Nodup) :
    (b.dismiss k g).held = b.held.filter (· ≠ g) :=
  filterMap_set_none h nodup

/-- Only the lane that is replaced changes. -/
theorem lane_set {i : Nat} (inside : i < b.lanes.length) (l : Lane) (gs : List (Option Guard))
    (lane : Nat) :
    LaneBoard.lane ⟨b.lanes.set i l, gs⟩ lane = if lane = i then l else b.lane lane := by
  unfold LaneBoard.lane
  rw [getElem?_set_ite inside]
  split <;> rfl

/-! #### Lanes and guards agree -/

namespace Matched

theorem contains_iff_mem (h : b.Matched) :
    (b.lane lane).contains unit = true ↔ ⟨lane, unit⟩ ∈ b.held := by
  unfold Lane.contains
  rw [h.pending, heldIn, decide_eq_true_iff, List.mem_map]
  constructor
  · rintro ⟨⟨lane', unit'⟩, mem, rfl⟩
    obtain ⟨held, e⟩ := List.mem_filter.1 mem
    obtain rfl : lane' = lane := by simpa using e
    exact held
  · intro mem
    exact ⟨_, List.mem_filter.2 ⟨mem, by simp⟩, rfl⟩

/-- A unit is pending if a guard for it lives. -/
theorem contains_iff (h : b.Matched) :
    (b.lane lane).contains unit = true ↔ ∃ k, b.Lives k ⟨lane, unit⟩ :=
  h.contains_iff_mem.trans mem_held_iff

/-- A guard that lives belongs to a lane of the board. -/
theorem inside (h : b.Matched) (live : b.Lives k g) : g.lane < b.lanes.length := by
  by_contra outside
  have pending := h.contains_iff.2 ⟨k, live⟩
  rw [LaneBoard.lane, List.getElem?_eq_none (Nat.le_of_not_lt outside)] at pending
  cases pending

/-- No two guards for one unit live in a lane. -/
theorem unique (h : b.Matched) {j : Nat} (hj : b.Lives j g) (hk : b.Lives k g) : j = k := by
  -- A guard is its lane and its unit, so two of them for one unit would be one guard twice.
  have apart := List.pairwise_iff_getElem.1 (List.pairwise_filterMap.1 h.nodup)
  obtain ⟨lj, ej⟩ := List.getElem?_eq_some_iff.1 hj
  obtain ⟨lk, ek⟩ := List.getElem?_eq_some_iff.1 hk
  rcases Nat.lt_trichotomy j k with lt | e | gt
  · exact absurd rfl (apart j k lj lk lt g ej g ek)
  · exact e
  · exact absurd rfl (apart k j lk lj gt g ek g ej)

/-- As many units are pending in a lane as guards of it live. -/
theorem size_eq (h : b.Matched) (lane : Nat) :
    (b.lane lane).size = b.held.countP (·.lane = lane) := by
  rw [Lane.size, h.pending, heldIn, List.length_map, List.countP_eq_length_filter]

/-- An admission adds the unit to the lane, and a guard for it. -/
theorem grant (h : b.Matched) (inside : g.lane < b.lanes.length)
    (free : (b.lane g.lane).contains g.unit = false) : (b.grant g).Matched := by
  have fresh : g ∉ b.held := by
    intro mem
    rw [h.contains_iff_mem.2 mem] at free
    cases free
  refine ⟨fun lane => ?_, ?_⟩
  · rw [heldIn, held_grant, List.filter_append, List.map_append, ← heldIn, ← h.pending,
      LaneBoard.grant, lane_set inside]
    by_cases e : lane = g.lane
    · simp [e]
    · simp [e, Ne.symm e]
  · rw [held_grant, List.nodup_append]
    refine ⟨h.nodup, List.nodup_singleton g, ?_⟩
    rintro x hx y hy rfl
    obtain rfl := List.mem_singleton.1 hy
    exact fresh hx

/-- The end of a guard strikes its unit out of its lane, and nothing else. -/
theorem dismiss (h : b.Matched) (live : b.Lives k g) : (b.dismiss k g).Matched := by
  have held := held_dismiss live h.nodup
  refine ⟨fun lane => ?_, ?_⟩
  · rw [heldIn, held, List.filter_filter, LaneBoard.dismiss, lane_set (h.inside live)]
    -- Within its lane the guard is told apart by its unit, and to other lanes it does not belong.
    by_cases e : lane = g.lane
    · rw [if_pos e, Lane.release, h.pending, heldIn, List.filter_map, List.filter_filter]
      refine congrArg (List.map _) (List.filter_congr fun x _ => ?_)
      by_cases ours : x.lane = g.lane <;> simp [Guard.eq_iff, e, ours]
    · rw [if_neg e, h.pending, heldIn]
      refine congrArg (List.map _) (List.filter_congr fun x _ => ?_)
      by_cases theirs : x.lane = lane <;> simp [Guard.eq_iff, e, theirs]
  · rw [held]
    exact h.nodup.filter _

end Matched

theorem matched_ofCount (lanes : Nat) : (ofCount lanes).Matched := by
  refine ⟨fun lane => ?_, List.nodup_nil⟩
  rw [LaneBoard.lane, ofCount, List.getElem?_replicate]
  split <;> rfl

/-- A unit comes to a lane with a new guard for it, and nothing else changes. -/
structure Gains (b : LaneBoard) (g : Guard) (b' : LaneBoard) : Prop where
  guards : b'.guards = b.guards ++ [some g]
  lanes : ∀ lane unit, (b'.lane lane).contains unit =
    ((b.lane lane).contains unit || (⟨lane, unit⟩ : Guard) == g)

/-- A guard that lives ends and its unit goes from its lane, and nothing else changes. -/
structure Loses (b : LaneBoard) (k : Nat) (g : Guard) (b' : LaneBoard) : Prop where
  live : b.Lives k g
  guards : b'.guards = b.guards.set k none
  lanes : ∀ lane unit, (b'.lane lane).contains unit =
    ((b.lane lane).contains unit && (⟨lane, unit⟩ : Guard) != g)

theorem Matched.gains (h : b.Matched) (inside : g.lane < b.lanes.length)
    (free : (b.lane g.lane).contains g.unit = false) : b.Gains g (b.grant g) := by
  refine ⟨rfl, fun lane unit => ?_⟩
  rw [Bool.eq_iff_iff, (h.grant inside free).contains_iff_mem, Bool.or_eq_true,
    h.contains_iff_mem, held_grant]
  simp

theorem Matched.loses (h : b.Matched) (live : b.Lives k g) : b.Loses k g (b.dismiss k g) := by
  refine ⟨live, rfl, fun lane unit => ?_⟩
  rw [Bool.eq_iff_iff, (h.dismiss live).contains_iff_mem, Bool.and_eq_true, h.contains_iff_mem,
    held_dismiss live h.nodup]
  simp

end LaneBoard

/-! ### Calls and guards on their way -/

/-- A call for admission to a lane, and the way of the guard that it gives. -/
inductive Visit where
  /-- The call has begun. -/
  | asking (lane : Nat) (unit : UnitId)
  /-- The unit was pending, and the call gives no guard. -/
  | refused
  /-- The unit was written down, and the call has still to return with the guard. -/
  | admitted (guard : Nat)
  /-- Somebody has the guard. -/
  | guarded (guard : Nat)
  /-- The guard has come to its end, and its unit has still to be struck out. -/
  | leaving (guard : Nat)
  | left
  deriving DecidableEq

/-- The guard of a visit, from the moment its unit was written down until it is struck out. -/
def Visit.guard? : Visit → Option Nat
  | .admitted k | .guarded k | .leaving k => some k
  | _ => none

/-- What threads do with lanes. -/
inductive LaneAction where
  /-- A call for admission begins. -/
  | ask (lane : Nat) (unit : UnitId)
  /-- The unit is written down, unless it is pending; no other thread comes between the two. -/
  | decide (visit : Nat)
  /-- The call returns with its guard. -/
  | hand (visit : Nat)
  /-- A guard comes to its end, with its scope or by a panic that leaves it. -/
  | leave (visit : Nat)
  /-- The unit of a guard at its end is struck out. -/
  | clear (visit : Nat)

/-- Lanes and guards, and all visits that were ever begun, by whatever thread. -/
structure LaneTraffic where
  board : LaneBoard
  visits : List Visit
  deriving DecidableEq

namespace LaneTraffic

/-- Nobody has visited any of the lanes. -/
def ofCount (lanes : Nat) : LaneTraffic := ⟨.ofCount lanes, []⟩

/-- A visit goes on. -/
def turn (s : LaneTraffic) (v : Nat) (x : Visit) : LaneTraffic :=
  { s with visits := s.visits.set v x }

/-- The machine of the threads. -/
def step : LaneAction → LaneTraffic → Option LaneTraffic
  | .ask lane unit, s =>
    if lane < s.board.lanes.length then some { s with visits := s.visits ++ [.asking lane unit] }
    else none
  | .decide v, s =>
    match s.visits[v]? with
    | some (.asking lane unit) =>
      match s.board.enter lane unit with
      | (some k, board) => some { s.turn v (.admitted k) with board }
      | (none, board) => some { s.turn v .refused with board }
    | _ => none
  | .hand v, s =>
    match s.visits[v]? with
    | some (.admitted k) => some (s.turn v (.guarded k))
    | _ => none
  | .leave v, s =>
    match s.visits[v]? with
    | some (.guarded k) => some (s.turn v (.leaving k))
    | _ => none
  | .clear v, s =>
    match s.visits[v]? with
    | some (.leaving k) => some { s.turn v .left with board := (s.board.letGo k).2 }
    | _ => none

/-- What can come of any number of threads. -/
def Reachable (lanes : Nat) (s : LaneTraffic) : Prop := Machine.Reaches step (ofCount lanes) s

end LaneTraffic

/-- What one step does: a visit begins, goes on without a change of its guard, gains a guard, or
loses it. -/
inductive LaneMove (s : LaneTraffic) : LaneTraffic → Prop
  | ask (lane : Nat) (unit : UnitId) :
    LaneMove s { s with visits := s.visits ++ [.asking lane unit] }
  | turn {v : Nat} {x y : Visit} (here : s.visits[v]? = some x) (same : y.guard? = x.guard?) :
    LaneMove s (s.turn v y)
  | gain {v lane : Nat} {unit : UnitId} (here : s.visits[v]? = some (.asking lane unit))
    (inside : lane < s.board.lanes.length) (free : (s.board.lane lane).contains unit = false) :
    LaneMove s { s.turn v (.admitted s.board.guards.length) with
      board := s.board.grant ⟨lane, unit⟩ }
  | lose {v k : Nat} (here : s.visits[v]? = some (.leaving k)) :
    LaneMove s { s.turn v .left with board := (s.board.letGo k).2 }

namespace LaneTraffic

variable {n : Nat} {s t : LaneTraffic} {a : LaneAction} {v k : Nat}

theorem move_of_step (h : step a s = some t) : LaneMove s t := by
  cases a with
  | ask lane unit =>
    rw [step] at h
    split at h
    · obtain rfl := Option.some.inj h
      exact .ask lane unit
    · cases h
  | decide v =>
    rw [step] at h
    split at h
    · rename_i lane unit here
      rcases s.board.enter_cases lane unit with ⟨refused, -⟩ | ⟨admitted, inside, free⟩
      · rw [refused] at h
        obtain rfl := Option.some.inj h
        exact .turn here rfl
      · rw [admitted] at h
        obtain rfl := Option.some.inj h
        exact .gain here inside free
    · cases h
  | hand v | leave v =>
    rw [step] at h
    split at h
    · rename_i k here
      obtain rfl := Option.some.inj h
      exact .turn here rfl
    · cases h
  | clear v =>
    rw [step] at h
    split at h
    · rename_i k here
      obtain rfl := Option.some.inj h
      exact .lose here
    · cases h

/-! #### What a run keeps -/

/-- Lanes and guards agree, no lane comes or goes, and each guard that lives is on its way with one
visit, every other with none. -/
structure Kept (n : Nat) (s : LaneTraffic) : Prop where
  matched : s.board.Matched
  lanes : s.board.lanes.length = n
  attended : ∀ k, s.visits.countP (·.guard? = some k) = (s.board.isLive k).toNat

namespace Kept

theorem ofCount (n : Nat) : Kept n (ofCount n) where
  matched := LaneBoard.matched_ofCount n
  lanes := List.length_replicate
  attended := fun _ => rfl

/-- A visit that begins has no guard. -/
theorem ask (h : Kept n s) (lane : Nat) (unit : UnitId) :
    Kept n { s with visits := s.visits ++ [.asking lane unit] } where
  matched := h.matched
  lanes := h.lanes
  attended := by
    intro k
    rw [countP_concat]
    exact h.attended k

/-- A visit goes on with the guard that it has. -/
theorem turn (h : Kept n s) {x y : Visit} (here : s.visits[v]? = some x)
    (same : y.guard? = x.guard?) : Kept n (s.turn v y) where
  matched := h.matched
  lanes := h.lanes
  attended := by
    intro k
    have moved := countP_set_add here y (·.guard? = some k)
    rw [same, Nat.add_right_cancel_iff] at moved
    exact moved.trans (h.attended k)

/-- A visit that is admitted has the new guard. -/
theorem gain (h : Kept n s) {lane : Nat} {unit : UnitId}
    (here : s.visits[v]? = some (.asking lane unit)) (inside : lane < s.board.lanes.length)
    (free : (s.board.lane lane).contains unit = false) :
    Kept n { s.turn v (.admitted s.board.guards.length) with
      board := s.board.grant ⟨lane, unit⟩ } where
  matched := h.matched.grant inside free
  lanes := List.length_set.trans h.lanes
  attended := by
    intro k
    have moved : (s.visits.set v (.admitted s.board.guards.length)).countP (·.guard? = some k) =
        s.visits.countP (·.guard? = some k) + (decide (some s.board.guards.length = some k)).toNat :=
      countP_set_add here (.admitted s.board.guards.length) (·.guard? = some k)
    show (s.visits.set v _).countP _ = _
    rw [moved, h.attended, LaneBoard.isLive_grant]
    by_cases new : k = s.board.guards.length
    · simp [new, s.board.isLive_length]
    · simp [new, Ne.symm new]

/-- The guard of a visit lives. -/
theorem lives (h : Kept n s) {x : Visit} (here : s.visits[v]? = some x)
    (has : x.guard? = some k) : ∃ g, s.board.Lives k g := by
  have visited : 0 < s.visits.countP (·.guard? = some k) :=
    List.countP_pos_iff.2 ⟨x, List.mem_of_getElem? here, decide_eq_true has⟩
  rw [h.attended] at visited
  apply LaneBoard.isLive_iff.1
  cases live : s.board.isLive k with
  | true => rfl
  | false =>
    rw [live] at visited
    cases visited

/-- A visit whose guard ends has none, and no other visit had that guard. -/
theorem lose (h : Kept n s) (here : s.visits[v]? = some (.leaving k)) :
    Kept n { s.turn v .left with board := (s.board.letGo k).2 } := by
  obtain ⟨g, live⟩ := h.lives here rfl
  rw [LaneBoard.letGo_of_lives live]
  refine ⟨h.matched.dismiss live, List.length_set.trans h.lanes, fun j => ?_⟩
  have moved : (s.visits.set v .left).countP (·.guard? = some j) +
      (decide (some k = some j)).toNat = s.visits.countP (·.guard? = some j) :=
    countP_set_add here .left (·.guard? = some j)
  rw [h.attended] at moved
  show (s.visits.set v .left).countP _ = ((s.board.dismiss k g).isLive j).toNat
  rw [LaneBoard.isLive_dismiss live]
  by_cases ours : j = k
  · have alive := LaneBoard.isLive_iff.2 ⟨g, live⟩
    simpa [ours, alive] using moved
  · simpa [ours, Ne.symm ours] using moved

end Kept

theorem kept (h : Reachable n s) : Kept n s := by
  refine h.invariant (P := Kept n) (fun a s t ha hs => ?_) (.ofCount n)
  cases move_of_step ha with
  | ask lane unit => exact hs.ask lane unit
  | turn here same => exact hs.turn here same
  | gain here inside free => exact hs.gain here inside free
  | lose here => exact hs.lose here

/-- A guard that has ended does not come back. -/
theorem ended_of_reaches (h : Machine.Reaches step s t) (ended : s.board.guards[k]? = some none) :
    t.board.guards[k]? = some none := by
  refine h.invariant (P := fun s => s.board.guards[k]? = some none) (fun a s t ha ended => ?_) ended
  cases move_of_step ha with
  | ask | turn => exact ended
  | gain =>
    show (s.board.guards ++ _)[k]? = some none
    rwa [List.getElem?_append_left (List.getElem?_eq_some_iff.1 ended).1]
  | lose here =>
    show (s.board.letGo _).2.guards[k]? = some none
    unfold LaneBoard.letGo
    split
    · rename_i g there
      show (s.board.guards.set _ none)[k]? = some none
      rw [getElem?_set_ite (List.getElem?_eq_some_iff.1 there).1]
      split
      · rfl
      · exact ended
    · exact ended

/-- **A unit is pending exactly while a guard for it lives.** Any number of threads call for
admission to any number of lanes and let guards go, with their scopes or by panics. At every moment
a unit is pending in a lane if and only if there is one guard that lives for it there, and there are
never two; as many units are pending in a lane as guards of it live. Whoever then asks is refused
exactly if such a guard lives, which changes nothing, and else gains the unit and a new guard.
Whoever then lets a guard go strikes its own unit out of its own lane. The guards that live are
those on their way with a visit, each with one, and a guard that has ended never lives again, so
that no guard is let go twice. -/
theorem pending_iff_guarded (h : Reachable n s) :
    (∀ lane unit,
      ((s.board.lane lane).contains unit = true ↔ ∃! k, s.board.Lives k ⟨lane, unit⟩) ∧
      ∀ j k, s.board.Lives j ⟨lane, unit⟩ → s.board.Lives k ⟨lane, unit⟩ → j = k) ∧
    (∀ lane, (s.board.lane lane).size = s.board.held.countP (·.lane = lane)) ∧
    (∀ lane unit, lane < n →
      (∃ k, s.board.Lives k ⟨lane, unit⟩) ∧ s.board.enter lane unit = (none, s.board) ∨
      (¬∃ k, s.board.Lives k ⟨lane, unit⟩) ∧
        ∃ b, s.board.enter lane unit = (some s.board.guards.length, b) ∧
          s.board.Gains ⟨lane, unit⟩ b) ∧
    (∀ v k : Nat, s.visits[v]? = some (.leaving k) →
      ∃ g b, s.board.letGo k = (true, b) ∧ s.board.Loses k g b) ∧
    (∀ k, s.visits.countP (·.guard? = some k) = (s.board.isLive k).toNat) ∧
    ∀ (t : LaneTraffic) (k : Nat), Machine.Reaches step s t → s.board.guards[k]? = some none →
      t.board.guards[k]? = some none := by
  have hs := kept h
  refine ⟨fun lane unit => ⟨?_, fun j k => hs.matched.unique⟩, hs.matched.size_eq,
    fun lane unit inside => ?_, fun v k leaving => ?_, hs.attended, fun t k => ended_of_reaches⟩
  · rw [hs.matched.contains_iff]
    constructor
    · rintro ⟨k, live⟩
      exact ⟨k, live, fun j live' => hs.matched.unique live' live⟩
    · rintro ⟨k, live, -⟩
      exact ⟨k, live⟩
  · rw [← hs.matched.contains_iff]
    rcases s.board.enter_cases lane unit with ⟨refused, why⟩ | ⟨admitted, there, free⟩
    · have there : ¬s.board.lanes.length ≤ lane := by
        rw [hs.lanes]
        omega
      exact .inl ⟨why.resolve_left there, refused⟩
    · exact .inr ⟨by simp [free], _, admitted, hs.matched.gains there free⟩
  · obtain ⟨g, live⟩ := hs.lives leaving rfl
    exact ⟨g, _, LaneBoard.letGo_of_lives live, hs.matched.loses live⟩

/-- Two threads ask for one unit, and the later call is the one that is admitted. Its guard comes to
its end while a third thread is admitted with the unit to another lane. -/
def sampleTraffic : List LaneAction :=
  [.ask 0 7, .ask 0 7, .decide 1, .decide 0, .hand 1, .ask 1 7, .decide 2, .leave 1]

/-- What has come of them. -/
def sampleMoment : LaneTraffic :=
  ⟨⟨[⟨[7]⟩, ⟨[7]⟩], [some ⟨0, 7⟩, some ⟨1, 7⟩]⟩, [.refused, .leaving 0, .admitted 1]⟩

/-- Until the unit was struck out it is pending and refused, and when it was admitted again the
guard that has ended is not back. -/
theorem pending_iff_guarded_sample :
    Machine.run step sampleTraffic (ofCount 2) = some sampleMoment ∧
    (∃! k, sampleMoment.board.Lives k ⟨0, 7⟩) ∧
    sampleMoment.board.enter 0 7 = (none, sampleMoment.board) ∧
    (∃ g b, sampleMoment.board.letGo 0 = (true, b) ∧ sampleMoment.board.Loses 0 g b) ∧
    ∃ t u, step (.clear 1) sampleMoment = some t ∧
      Machine.run step [.ask 0 7, .decide 3] t = some u ∧ u.visits[3]? = some (.admitted 2) ∧
      u.board.guards[0]? = some none := by
  have run : Machine.run step sampleTraffic (ofCount 2) = some sampleMoment := by decide
  obtain ⟨pending, -, asked, ended, -, -⟩ := pending_iff_guarded ⟨_, run⟩
  refine ⟨run, (pending 0 7).1.1 (by decide), ?_, ended 1 0 rfl, _, _, rfl, rfl, rfl, ?_⟩
  · rcases asked 0 7 (by decide) with ⟨-, refused⟩ | ⟨free, -⟩
    · exact refused
    · exact absurd ⟨0, rfl⟩ free
  · have run' : Machine.run step (sampleTraffic ++ [.clear 1]) (ofCount 2) = some _ := rfl
    obtain ⟨-, -, -, -, -, gone⟩ := pending_iff_guarded ⟨_, run'⟩
    exact gone _ 0 ⟨[.ask 0 7, .decide 3], rfl⟩ rfl

end LaneTraffic

end PanelScript
