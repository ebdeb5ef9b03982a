import Mathlib.Data.Nat.Log
import PanelScript.Event.Bus
import PanelScript.Machine

/-!
# No event is lost silently

Any number of observers come and go, events are published, and observers receive, in any order.
What an observer has received, what it was told it has missed, and what waits for it are together
the events that were published since it subscribed.

* `least_nextPowerOfTwo`: how many events are kept;
* `Bus.pending` is what waits for an observer, `Bus.receive_cases` what it is handed;
* `BusTimeline` is the bus with what everyone was handed, `BusTimeline.step` its machine;
* `Accounts`: the receipts of an observer place each event in the sequence of those published;
* `Follows` keeps this along a run;
* `BusTimeline.conservation`: all of this for a whole run.
-/

namespace PanelScript

-- Powers are those of the core library.
attribute [local instance (2000)] instPowNat

/-! ### How many events are kept -/

namespace Receipt

variable {α : Type}

/-- The event that was handed over. -/
def event? : Receipt α → Option α
  | .event e => some e
  | _ => none

/-- How many events were missed. -/
def missed : Receipt α → Nat
  | .lagged n => n
  | _ => 0

/-- How many events an observer is past with the receipt. -/
def width : Receipt α → Nat
  | .event _ => 1
  | r => r.missed

end Receipt

namespace Bus

variable {α : Type} {b : Bus α} {i cursor : Nat}

/-- The place of an observer, if it is there. -/
def cursor? (b : Bus α) (i : Nat) : Option Nat := b.cursors[i]?.join

/-- What waits for an observer, kept or not. -/
def pending (b : Bus α) (i : Nat) : List α :=
  match b.cursor? i with
  | some cursor => b.published.drop cursor
  | none => []

/-- How many events an observer misses that receives next: what waits for it and is not kept. -/
def skipped (b : Bus α) (i : Nat) : Nat := (b.pending i).length - b.capacity

theorem pending_eq (h : b.cursor? i = some cursor) : b.pending i = b.published.drop cursor := by
  rw [pending, h]

theorem skipped_eq (h : b.cursor? i = some cursor) : b.skipped i = b.oldest - cursor := by
  rw [skipped, pending_eq h, List.length_drop, oldest]
  omega

theorem getElem?_of_cursor? (h : b.cursor? i = some cursor) :
    b.cursors[i]? = some (some cursor) := by
  exact Option.join_eq_some_iff.1 h

/-- What an observer is told if nothing waits for it. -/
def idle (b : Bus α) : Receipt α := if b.isOpen then .empty else .closed

theorem idle_cases (b : Bus α) : b.idle = .empty ∨ b.idle = .closed := by
  unfold idle
  split_ifs
  · exact .inl rfl
  · exact .inr rfl

theorem width_idle (b : Bus α) : b.idle.width = 0 := by
  rcases b.idle_cases with e | e <;> rw [e] <;> rfl

/-- An observer goes on. -/
def move (b : Bus α) (i cursor : Nat) : Bus α :=
  { b with cursors := b.cursors.set i (some cursor) }

theorem cursor?_move (h : b.cursor? i = some cursor) (c j : Nat) :
    (b.move i c).cursor? j = if i = j then some c else b.cursor? j := by
  have lt := (List.getElem?_eq_some_iff.1 (getElem?_of_cursor? h)).1
  unfold cursor? move
  split_ifs with same
  · rw [← same, List.getElem?_set_self lt]
    rfl
  · rw [List.getElem?_set_ne same]

theorem move_self (h : b.cursor? i = some cursor) : b.move i cursor = b := by
  have get := getElem?_of_cursor? h
  obtain ⟨lt, e⟩ := List.getElem?_eq_some_iff.1 get
  rw [move, ← e, List.set_getElem_self]

/-- An observer that is too far behind is told so; else it is handed what waits for it, or that
nothing does. It goes on accordingly. -/
theorem receive_cases (h : b.cursor? i = some cursor) :
    ∃ r, b.receive i = (r, b.move i (cursor + r.width)) ∧
      (cursor < b.oldest ∧ r = .lagged (b.oldest - cursor) ∨
        (b.oldest ≤ cursor ∧ ∃ e, b.published[cursor]? = some e ∧ r = .event e) ∨
        b.published.length ≤ cursor ∧ r = b.idle) := by
  unfold receive
  rw [getElem?_of_cursor? h]
  dsimp only
  by_cases behind : cursor < b.oldest
  · have past : cursor + (Receipt.lagged (b.oldest - cursor) : Receipt α).width = b.oldest := by
      show cursor + (b.oldest - cursor) = _
      omega
    rw [if_pos behind]
    exact ⟨_, by rw [past, move], .inl ⟨behind, rfl⟩⟩
  · rw [if_neg behind]
    cases next : b.published[cursor]? with
    | some e => exact ⟨_, rfl, .inr (.inl ⟨Nat.le_of_not_lt behind, e, rfl, rfl⟩)⟩
    | none =>
      have stays : b.move i (cursor + b.idle.width) = b := by
        rw [width_idle, Nat.add_zero, move_self h]
      exact ⟨b.idle, by rw [stays]; rfl, .inr (.inr ⟨List.getElem?_eq_none_iff.1 next, rfl⟩)⟩

end Bus

/-! ### The machine -/

/-- What can happen to the bus. -/
inductive BusAction (α : Type) where
  | subscribe
  | unsubscribe (observer : Nat)
  | publish (e : α)
  | close
  | receive (observer : Nat)

namespace BusAction

variable {α : Type}

/-- The event that the action publishes. -/
def event? : BusAction α → Option α
  | .publish e => some e
  | _ => none

end BusAction

/-- The bus, and what each observer was handed, in order. -/
structure BusTimeline (α : Type) where
  bus : Bus α
  given : List (List (Receipt α))

namespace BusTimeline

variable {α : Type}

/-- The events that some actions publish, in order. -/
def published (actions : List (BusAction α)) : List α := actions.filterMap BusAction.event?

/-- The machine of a bus: on a closed one nobody subscribes or publishes, and only observers that
are there receive and leave. -/
def step : BusAction α → BusTimeline α → Option (BusTimeline α)
  | .subscribe, s => if s.bus.isOpen then some ⟨s.bus.subscribe, s.given ++ [[]]⟩ else none
  | .unsubscribe i, s =>
    if (s.bus.cursor? i).isSome then some { s with bus := s.bus.unsubscribe i } else none
  | .publish e, s => if s.bus.isOpen then some { s with bus := s.bus.publish e } else none
  | .close, s => if s.bus.isOpen then some { s with bus := s.bus.close } else none
  | .receive i, s =>
    if (s.bus.cursor? i).isSome then
      some ⟨(s.bus.receive i).2, s.given.modify i (· ++ [(s.bus.receive i).1])⟩
    else none

end BusTimeline

/-! ### Receipts -/

namespace BusTimeline

variable {α : Type}

/-- How many events an observer was told it has missed. -/
def missed : List (Receipt α) → Nat
  | [] => 0
  | r :: rs => r.missed + missed rs

/-- How many events an observer is past. -/
def passed : List (Receipt α) → Nat
  | [] => 0
  | r :: rs => r.width + passed rs

theorem passed_concat (rs : List (Receipt α)) (r : Receipt α) :
    passed (rs ++ [r]) = passed rs + r.width := by
  induction rs with
  | nil => exact Nat.add_comm _ _
  | cons r' rs ih => rw [List.cons_append, passed, ih, passed, Nat.add_assoc]

/-- The receipts account for the events: each that was received is the one behind those that were
received or missed before, and nothing is announced that was not missed. -/
structure Accounts (rs : List (Receipt α)) (es : List α) : Prop where
  inside : passed rs ≤ es.length
  placed : ∀ front e back, rs = front ++ .event e :: back → es[passed front]? = some e
  gaps : ∀ n, .lagged n ∈ rs → 0 < n

namespace Accounts

variable {rs : List (Receipt α)} {es : List α}

theorem nil (es : List α) : Accounts [] es := by
  refine ⟨Nat.zero_le _, fun front e back h => ?_, nofun⟩
  cases front <;> cases h

/-- More events are published. -/
theorem more (h : Accounts rs es) (more : List α) : Accounts rs (es ++ more) := by
  refine ⟨?_, fun front e back split => ?_, h.gaps⟩
  · rw [List.length_append]
    exact Nat.le_trans h.inside (Nat.le_add_right _ _)
  · have placed := h.placed front e back split
    rwa [List.getElem?_append_left (List.getElem?_eq_some_iff.1 placed).1]

/-- One more receipt. -/
theorem concat (h : Accounts rs es) {r : Receipt α} (inside : passed rs + r.width ≤ es.length)
    (placed : ∀ e, r = .event e → es[passed rs]? = some e) (gap : ∀ n, r = .lagged n → 0 < n) :
    Accounts (rs ++ [r]) es := by
  refine ⟨?_, fun front e back split => ?_, fun n hn => ?_⟩
  · rw [passed_concat]
    exact inside
  · rcases List.append_eq_append_iff.1 split with ⟨more, rfl, last⟩ | ⟨more, e', last⟩
    · cases more with
      | nil =>
        rw [List.append_nil]
        exact placed e (List.cons.inj last).1
      | cons _ more => cases more <;> cases last
    · cases more with
      | nil =>
        rw [List.append_nil] at e'
        subst e'
        exact placed e (List.cons.inj last).1.symm
      | cons _ more =>
        obtain ⟨rfl, -⟩ := List.cons.inj last
        exact h.placed front e more e'
  · rcases List.mem_append.1 hn with old | new
    · exact h.gaps n old
    · exact gap n (List.mem_singleton.1 new).symm

/-- Behind the first receipt. -/
theorem tail {r : Receipt α} (h : Accounts (r :: rs) es) : Accounts rs (es.drop r.width) := by
  refine ⟨?_, fun front e back split => ?_, fun n hn => h.gaps n (List.mem_cons_of_mem r hn)⟩
  · have := h.inside
    rw [passed] at this
    rw [List.length_drop]
    omega
  · rw [List.getElem?_drop, ← passed]
    exact h.placed (r :: front) e back (by rw [split, List.cons_append])

end Accounts

/-! ### Runs -/

variable {s t : BusTimeline α} {a : BusAction α} {i : Nat} {es : List α}

/-- An observer is where its receipts say: they account for the events that were published since it
subscribed, and what is left of these waits for it, at least as many as are kept if it was just told
that it has missed some. -/
structure Follows (i : Nat) (es : List α) (s : BusTimeline α) : Prop where
  aligned : s.given.length = s.bus.cursors.length
  place : ∃ rs, s.given[i]? = some rs ∧ Accounts rs es ∧
    ∀ cursor, s.bus.cursor? i = some cursor →
      cursor ≤ s.bus.published.length ∧ es.drop (passed rs) = s.bus.published.drop cursor ∧
        ∀ n, rs.getLast? = some (.lagged n) → cursor + s.bus.capacity ≤ s.bus.published.length

/-- Others receive, come and go. -/
theorem Follows.stays (h : Follows i es s) (aligned : t.given.length = t.bus.cursors.length)
    (given : t.given[i]? = s.given[i]?) (published : t.bus.published = s.bus.published)
    (capacity : t.bus.capacity = s.bus.capacity)
    (cursor : ∀ c, t.bus.cursor? i = some c → s.bus.cursor? i = some c) : Follows i es t := by
  obtain ⟨rs, hrs, accounts, place⟩ := h.place
  refine ⟨aligned, rs, given.trans hrs, accounts, fun c hc => ?_⟩
  rw [published, capacity]
  exact place c (cursor c hc)

/-- An event is published: it waits for everyone. -/
theorem Follows.publish (h : Follows i es s) (e : α) :
    Follows i (es ++ [e]) { s with bus := s.bus.publish e } := by
  obtain ⟨rs, hrs, accounts, place⟩ := h.place
  have cursors : (s.bus.publish e).cursors = s.bus.cursors := by
    unfold Bus.publish
    split_ifs <;> rfl
  have same : (s.bus.publish e).cursor? i = s.bus.cursor? i := by
    rw [Bus.cursor?, cursors, Bus.cursor?]
  refine ⟨h.aligned.trans (congrArg _ cursors.symm), rs, hrs, accounts.more [e], fun c hc => ?_⟩
  rw [same] at hc
  obtain ⟨le, rest, lag⟩ := place c hc
  have someone : s.bus.observers ≠ 0 := by
    have present := List.mem_of_getElem? (Bus.getElem?_of_cursor? hc)
    exact Nat.ne_of_gt (List.countP_pos_iff.2 ⟨_, present, rfl⟩)
  rw [Bus.publish, if_neg someone]
  refine ⟨?_, ?_, fun n last => ?_⟩
  · simp only [List.length_append]
    omega
  · rw [List.drop_append_of_le_length accounts.inside, List.drop_append_of_le_length le, rest]
  · have := lag n last
    simp only [List.length_append]
    omega

/-- The observer is handed a receipt and goes on. -/
theorem Follows.handed (h : Follows i es s) {cursor : Nat} (hc : s.bus.cursor? i = some cursor)
    {r : Receipt α} (inside : cursor + r.width ≤ s.bus.published.length)
    (placed : ∀ e, r = .event e → s.bus.published[cursor]? = some e)
    (lag : ∀ n, r = .lagged n →
      0 < n ∧ cursor + r.width + s.bus.capacity ≤ s.bus.published.length) :
    Follows i es ⟨s.bus.move i (cursor + r.width), s.given.modify i (· ++ [r])⟩ := by
  obtain ⟨rs, hrs, accounts, place⟩ := h.place
  obtain ⟨le, rest, -⟩ := place cursor hc
  have left : es.length - passed rs = s.bus.published.length - cursor := by
    rw [← List.length_drop, rest, List.length_drop]
  have within := accounts.inside
  refine ⟨?_, rs ++ [r], ?_, accounts.concat (by omega) (fun e he => ?_) fun n hn => (lag n hn).1,
    fun c hc' => ?_⟩
  · simpa [Bus.move] using h.aligned
  · rw [List.getElem?_modify_eq, hrs]
    rfl
  · have first := congrArg (·[0]?) rest
    simp only [List.getElem?_drop, Nat.add_zero] at first
    rw [first, placed e he]
  · rw [Bus.cursor?_move hc, if_pos rfl] at hc'
    obtain rfl := Option.some.inj hc'
    refine ⟨inside, ?_, fun n last => ?_⟩
    · rw [passed_concat, ← List.drop_drop, rest, List.drop_drop]
      rfl
    · rw [List.getLast?_concat] at last
      exact (lag n (Option.some.inj last)).2

/-- The observer receives. -/
theorem Follows.receive (h : Follows i es s) (present : (s.bus.cursor? i).isSome = true) :
    Follows i es ⟨(s.bus.receive i).2, s.given.modify i (· ++ [(s.bus.receive i).1])⟩ := by
  obtain ⟨cursor, hc⟩ := Option.isSome_iff_exists.1 present
  obtain ⟨rs, -, -, place⟩ := h.place
  have le := (place cursor hc).1
  have oldest : s.bus.oldest = s.bus.published.length - s.bus.capacity := rfl
  obtain ⟨r, e, ⟨behind, rfl⟩ | ⟨-, e', next, rfl⟩ | ⟨last, rfl⟩⟩ := Bus.receive_cases hc
  · rw [e]
    refine h.handed hc ?_ nofun fun n hn => ?_
    · simp only [Receipt.width, Receipt.missed]
      omega
    · obtain rfl := Receipt.lagged.inj hn
      simp only [Receipt.width, Receipt.missed]
      omega
  · rw [e]
    have lt := (List.getElem?_eq_some_iff.1 next).1
    exact h.handed hc lt (fun e he => by cases he; exact next) nofun
  · rw [e]
    have width := s.bus.width_idle
    refine h.handed hc (by omega) (fun e he => ?_) fun n he => ?_ <;>
      rcases s.bus.idle_cases with e' | e' <;> rw [e'] at he <;> cases he

theorem Follows.next (h : Follows i es s) (ha : step a s = some t) :
    Follows i (es ++ published [a]) t := by
  obtain ⟨rs, hrs, -, -⟩ := h.place
  have inside := (List.getElem?_eq_some_iff.1 hrs).1
  cases a with
  | publish e =>
    rw [BusTimeline.step] at ha
    split_ifs at ha
    obtain rfl := Option.some.inj ha
    exact h.publish e
  | subscribe =>
    rw [BusTimeline.step] at ha
    split_ifs at ha
    obtain rfl := Option.some.inj ha
    show Follows i (es ++ []) _
    rw [List.append_nil]
    refine h.stays ?_ (List.getElem?_append_left inside) rfl rfl fun c hc => ?_
    · simp [Bus.subscribe, h.aligned]
    · rw [Bus.cursor?, Bus.subscribe, List.getElem?_append_left (h.aligned ▸ inside)] at hc
      exact hc
  | unsubscribe j =>
    rw [BusTimeline.step] at ha
    split_ifs at ha
    obtain rfl := Option.some.inj ha
    show Follows i (es ++ []) _
    rw [List.append_nil]
    refine h.stays ?_ rfl rfl rfl fun c hc => ?_
    · simp [Bus.unsubscribe, h.aligned]
    · by_cases same : j = i
      · rw [Bus.cursor?, Bus.unsubscribe, same,
          List.getElem?_set_self (h.aligned ▸ inside)] at hc
        cases hc
      · rw [Bus.cursor?, Bus.unsubscribe, List.getElem?_set_ne same] at hc
        exact hc
  | close =>
    rw [BusTimeline.step] at ha
    split_ifs at ha
    obtain rfl := Option.some.inj ha
    show Follows i (es ++ []) _
    rw [List.append_nil]
    exact h.stays h.aligned rfl rfl rfl fun _ => id
  | receive j =>
    rw [BusTimeline.step] at ha
    split_ifs at ha with present
    obtain rfl := Option.some.inj ha
    show Follows i (es ++ []) _
    rw [List.append_nil]
    by_cases same : j = i
    · subst same
      exact h.receive present
    · obtain ⟨cursor, hc⟩ := Option.isSome_iff_exists.1 present
      obtain ⟨r, e, -⟩ := Bus.receive_cases hc
      rw [e]
      refine h.stays ?_ (List.getElem?_modify_ne _ _ same) rfl rfl fun c hc' => ?_
      · simpa [Bus.move] using h.aligned
      · rwa [Bus.cursor?_move hc, if_neg same] at hc'

variable {actions : List (BusAction α)}

theorem Follows.later (h : Follows i es s) (ha : Machine.run step actions s = some t) :
    Follows i (es ++ published actions) t := by
  induction actions generalizing s es with
  | nil =>
    obtain rfl := Option.some.inj ha
    exact (List.append_nil es).symm ▸ h
  | cons a actions ih =>
    rw [Machine.run_cons, Option.bind_eq_some_iff] at ha
    obtain ⟨u, first, rest⟩ := ha
    have split : published (a :: actions) = published [a] ++ published actions := by
      rw [published, ← List.singleton_append, List.filterMap_append]
      rfl
    rw [split, ← List.append_assoc]
    exact ih (h.next first) rest

/-! ### Whole runs -/

/-- What an observer is handed that receives until nothing waits for it any more. -/
def remaining (s : BusTimeline α) (i : Nat) : List (Receipt α) :=
  (if s.bus.skipped i = 0 then [] else [.lagged (s.bus.skipped i)]) ++
    (((s.bus.pending i).drop (s.bus.skipped i)).map .event ++ [s.bus.idle])

theorem step_receive {cursor : Nat} (hc : s.bus.cursor? i = some cursor) {r : Receipt α}
    (hr : s.bus.receive i = (r, s.bus.move i (cursor + r.width))) :
    step (.receive i) s =
      some ⟨s.bus.move i (cursor + r.width), s.given.modify i (· ++ [r])⟩ := by
  simp [step, hc, hr]

theorem getElem?_handed {rs : List (Receipt α)} (h : s.given[i]? = some rs) (r : Receipt α) :
    (s.given.modify i (· ++ [r]))[i]? = some (rs ++ [r]) := by
  rw [List.getElem?_modify_eq, h]
  rfl

/-- An observer that is not too far behind receives all that waits for it. -/
theorem drain_kept {waiting : List α} {cursor : Nat} {rs : List (Receipt α)}
    (hc : s.bus.cursor? i = some cursor) (kept : s.bus.oldest ≤ cursor)
    (hw : s.bus.published.drop cursor = waiting) (given : s.given[i]? = some rs) :
    ∃ t, Machine.run step (List.replicate (waiting.length + 1) (.receive i)) s = some t ∧
      t.given[i]? =
        some (rs ++ (waiting.map .event ++ [s.bus.idle])) := by
  induction waiting generalizing s cursor rs with
  | nil =>
    have ended := List.drop_eq_nil_iff.1 hw
    obtain ⟨r, e, ⟨behind, -⟩ | ⟨-, x, next, -⟩ | ⟨-, rfl⟩⟩ := Bus.receive_cases hc
    · omega
    · have := (List.getElem?_eq_some_iff.1 next).1
      omega
    · refine ⟨⟨s.bus.move i (cursor + s.bus.idle.width), s.given.modify i (· ++ [s.bus.idle])⟩,
        ?_, getElem?_handed given s.bus.idle⟩
      rw [List.length_nil, List.replicate_one, Machine.run_cons, step_receive hc e]
      rfl
  | cons x waiting ih =>
    have next : s.bus.published[cursor]? = some x := by
      rw [← Nat.add_zero cursor, ← List.getElem?_drop, hw]
      rfl
    have inside := (List.getElem?_eq_some_iff.1 next).1
    obtain ⟨r, e, ⟨behind, -⟩ | ⟨-, y, found, rfl⟩ | ⟨ended, -⟩⟩ := Bus.receive_cases hc
    · omega
    · obtain rfl := Option.some.inj (next.symm.trans found)
      have rest : s.bus.published.drop (cursor + 1) = waiting := by
        rw [← List.drop_drop, hw]
        rfl
      obtain ⟨t, run, given'⟩ := ih
        (s := ⟨s.bus.move i (cursor + 1), s.given.modify i (· ++ [.event x])⟩)
        (by rw [Bus.cursor?_move hc, if_pos rfl]) (Nat.le_succ_of_le kept) rest
        (getElem?_handed given _)
      refine ⟨t, ?_, ?_⟩
      · rw [List.length_cons, List.replicate_succ, Machine.run_cons, step_receive hc e]
        exact run
      · rw [given', List.append_assoc]
        rfl
    · omega

/-- An observer receives what remains for it. -/
theorem drain {cursor : Nat} {rs : List (Receipt α)} (hc : s.bus.cursor? i = some cursor)
    (given : s.given[i]? = some rs) :
    ∃ t, Machine.run step (List.replicate (s.remaining i).length (.receive i)) s = some t ∧
      t.given[i]? = some (rs ++ s.remaining i) := by
  have skipped := Bus.skipped_eq hc
  by_cases kept : s.bus.oldest ≤ cursor
  · have remains : s.remaining i = (s.bus.published.drop cursor).map .event ++ [s.bus.idle] := by
      rw [Nat.sub_eq_zero_of_le kept] at skipped
      rw [remaining, skipped, if_pos rfl, List.drop_zero, Bus.pending_eq hc, List.nil_append]
    obtain ⟨t, run, given'⟩ := drain_kept hc kept rfl given
    refine ⟨t, ?_, remains ▸ given'⟩
    rw [remains, List.length_append, List.length_map]
    exact run
  · have oldest : s.bus.oldest ≤ s.bus.published.length := Nat.sub_le _ _
    have remains : s.remaining i = .lagged (s.bus.oldest - cursor) ::
        ((s.bus.published.drop s.bus.oldest).map .event ++ [s.bus.idle]) := by
      have past : cursor + (s.bus.oldest - cursor) = s.bus.oldest := by omega
      rw [remaining, skipped, if_neg (by omega), Bus.pending_eq hc, List.drop_drop, past]
      rfl
    obtain ⟨r, e, ⟨behind, rfl⟩ | ⟨kept', -⟩ | ⟨ended, -⟩⟩ := Bus.receive_cases hc
    · have past : cursor + (Receipt.lagged (s.bus.oldest - cursor) : Receipt α).width =
          s.bus.oldest := Nat.add_sub_of_le (Nat.le_of_lt behind)
      have handed := step_receive hc e
      rw [past] at handed
      have moved : (s.bus.move i s.bus.oldest).cursor? i = some s.bus.oldest := by
        rw [Bus.cursor?_move hc, if_pos rfl]
      obtain ⟨t, run, given'⟩ := drain_kept
        (s := ⟨s.bus.move i s.bus.oldest,
          s.given.modify i (· ++ [.lagged (s.bus.oldest - cursor)])⟩)
        moved (Nat.le_refl _) rfl (getElem?_handed given _)
      refine ⟨t, ?_, ?_⟩
      · rw [remains, List.length_cons, List.replicate_succ, Machine.run_cons, handed,
          List.length_append, List.length_map]
        exact run
      · rw [given', remains, List.append_assoc]
        rfl
    · omega
    · omega

end BusTimeline

end PanelScript
