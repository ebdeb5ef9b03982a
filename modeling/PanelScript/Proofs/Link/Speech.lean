import PanelScript.Proofs.Link.Closing
import PanelScript.Proofs.Link.Retry

/-!
# What a call says and hears

An attempt at a call writes its request once, on one connection, and reads what arrives there up to
the first thing that is no control. A second attempt begins only when the first one has ended with
an error of the connection.

* `Line` is one thing that a call has said or heard, `talk` lists them along a run;
* `sentBy_of_run`: nothing stands on a connection that was not said;
* `Spoken` is what an attempt has said and heard when it ends, `Talked` when it is at a stage;
* `Leads`: what was said in an attempt was said on the connection that it holds, or that it has
  given up, unless it has its answer;
* `Attempted` is what holds of both attempts, `Attempted.step` keeps it along a run;
* `resends_unheard`: a call says its request twice at most, on different connections, and the
  second time only if nothing was said to it.
-/

namespace PanelScript

/-- What a call does on a connection. -/
inductive Line where
  /-- It has tried to write; the frames are those that stand on the connection since then. -/
  | said (connection : Nat) (frames : List String)
  /-- It has read. -/
  | heard (connection : Nat) (arrival : Arrival)
  deriving DecidableEq

namespace Line

/-- The connection of a line. -/
def connection : Line → Nat
  | said k _ | heard k _ => k

/-- The connection on which a call has tried to write. -/
def said? : Line → Option Nat
  | said k _ => some k
  | heard _ _ => none

/-- The frames of a line that stand on a connection. -/
def framesOn (k : Nat) : Line → List String
  | said k' frames => if k' = k then frames else []
  | heard _ _ => []

end Line

namespace Link

variable {settings : GatewaySettings} {l l' : Link} {n : Nat} {a : LinkAction}
  {actions : List LinkAction}

/-- The frames of a call that stand on a connection. -/
def sentBy (n : Nat) (l : Link) (k : Nat) : List String :=
  ((l.connections[k]?).map fun c => (c.sent.filter (·.1 == n)).map Prod.snd).getD []

/-- What a call says and hears at a stage, by an action that leads from a state to another. When it
leaves off writing it has said something, whatever became of it. -/
def linesAt (n : Nat) (a : LinkAction) (l l' : Link) : CallStage → List Line
  | .sending _ k => [.said k ((l'.sentBy n k).drop (l.sentBy n k).length)]
  | .receiving _ k =>
    match a with
    | .read _ => ((l.inbox? k).bind List.head?).toList.map (.heard k)
    | _ => []
  | _ => []

/-- What a call says and hears by an action that leads from a state to another. -/
def lines (n : Nat) (a : LinkAction) (l l' : Link) : List Line :=
  if a.call? = some n then ((l.stage? n).map (linesAt n a l l')).getD [] else []

/-- What a call says and hears along a run. -/
def talk (n : Nat) : List LinkAction → Link → List Line
  | [], _ => []
  | a :: actions, l =>
    match step a l with
    | some l' => lines n a l l' ++ talk n actions l'
    | none => []

theorem talk_concat {first : Link} (h : Machine.run step actions first = some l)
    (ha : step a l = some l') :
    talk n (actions ++ [a]) first = talk n actions first ++ lines n a l l' := by
  induction actions generalizing first with
  | nil =>
    obtain rfl := Option.some.inj h
    simp only [List.nil_append, talk, ha, List.append_nil]
  | cons b actions ih =>
    rw [Machine.run_cons, Option.bind_eq_some_iff] at h
    obtain ⟨u, hb, h⟩ := h
    simp only [List.cons_append, talk, hb, ih h, List.append_assoc]

theorem lines_of_call {c : LinkCall} (hc : l.calls[n]? = some c) (ha : a.call? = some n) :
    lines n a l l' = linesAt n a l l' c.stage := by
  rw [lines, if_pos ha, stage?, hc]
  rfl

theorem lines_of_sending {c : LinkCall} {s k : Nat} {frames : List String}
    (hc : l.calls[n]? = some c) (ha : a.call? = some n) (h : c.stage = .sending s k)
    (sent : l'.sentBy n k = l.sentBy n k ++ frames) : lines n a l l' = [.said k frames] := by
  rw [lines_of_call hc ha, h, linesAt, sent, List.drop_left]

theorem linesAt_read {s k : Nat} {arrival : Arrival} {rest : List Arrival}
    (h : l.inbox? k = some (arrival :: rest)) :
    linesAt n (.read n) l l' (.receiving s k) = [.heard k arrival] := by
  rw [linesAt, h]
  rfl

/-! ### What stands on a connection -/

section Sent

variable {c c' : LinkCall} {k m : Nat}

theorem sentBy_setConnection (l : Link) (k : Nat) {f : Connection → Connection}
    (same : ∀ c, (f c).sent = c.sent) (k' : Nat) :
    (l.setConnection k f).sentBy n k' = l.sentBy n k' := by
  cases hc : l.connections[k]? with
  | none => rw [setConnection_of_none hc]
  | some c =>
    rw [sentBy, connections_setConnection hc,
      getElem?_set_ite (List.getElem?_eq_some_iff.1 hc).1]
    split
    · rename_i e
      rw [e, sentBy, hc, Option.map_some, Option.map_some, same]
    · rfl

/-- A frame that is written stands on its connection, as a frame of its call. -/
theorem sentBy_written {frame : String} (there : l.isOpenAt k = true) (k' : Nat) :
    (l.setConnection k (written m frame)).sentBy n k' =
      l.sentBy n k' ++ if k' = k ∧ m = n then [frame] else [] := by
  obtain ⟨c, hc, -⟩ : ∃ c, l.connections[k]? = some c ∧ c.isOpen = true := by
    unfold isOpenAt at there
    cases hc : l.connections[k]? with
    | none => rw [hc] at there; cases there
    | some c => rw [hc] at there; exact ⟨c, rfl, there⟩
  rw [sentBy, connections_setConnection hc, getElem?_set_ite (List.getElem?_eq_some_iff.1 hc).1]
  by_cases e : k' = k
  · by_cases e' : m = n <;> simp [e, e', sentBy, hc, written]
  · simp [e, sentBy]

theorem sentBy_opened (k : Nat) : l.opened.sentBy n k = l.sentBy n k := by
  rw [sentBy, opened, getElem?_concat_ite]
  split
  · rename_i e
    rw [sentBy, e, List.getElem?_eq_none (Nat.le_refl _)]
    rfl
  · rfl

theorem sentBy_letGo (k k' : Nat) : (l.letGo k).sentBy n k' = l.sentBy n k' :=
  sentBy_setConnection l k (f := fun c => { c with isOpen := false }) (fun _ => rfl) k'

/-- A call writes its frame to the connection that it holds, or writes nothing. -/
theorem CallMove.sentBy_cases (m : CallMove n l c a c' l') (cu : l.Custody)
    (hc : l.calls[n]? = some c) :
    (∃ s k, c.stage = .sending s k ∧ c'.stage = .receiving s k ∧ ∀ i k', l'.sentBy i k' =
      l.sentBy i k' ++ if k' = k ∧ n = i then [c.request.frame] else []) ∨
    ∀ i k, l'.sentBy i k = l.sentBy i k := by
  cases m with
  | @write s k _ h =>
    have there := isOpenAt_of_hasAt cu (.inr ⟨.call n, by rw [hold_call hc, LinkCall.hold, h]; rfl⟩)
    exact .inl ⟨s, k, h, rfl, fun i k' => sentBy_written there k'⟩
  | ignore | answer | fault => exact .inr fun i => sentBy_setConnection l _ fun _ => rfl
  | connect => exact .inr fun i => sentBy_opened
  | lock | unlock => exact .inr fun i k => by rw [setHolder_eq]; rfl
  | take | park => exact .inr fun i k => by rw [setParked_eq]; rfl
  | letGo => exact .inr fun i => sentBy_letGo _
  | _ => exact .inr fun i k => rfl

theorem CloserMove.sentBy {i : Nat} {c c' : CloserStage} (m : CloserMove i l c c' l') (k : Nat) :
    l'.sentBy n k = l.sentBy n k := by
  cases m with
  | take => rw [setHolder_eq, setParked_eq]; rfl
  | letGo => exact sentBy_letGo _ k
  | unlock => rw [setHolder_eq]; rfl
  | flag | shut | swept | finish | seize | kill => rfl

/-- Where nothing is written, nothing that is said stands on a connection. -/
theorem framesOn_lines (same : ∀ k, l'.sentBy n k = l.sentBy n k) (k : Nat) :
    (lines n a l l').flatMap (Line.framesOn k) = [] := by
  unfold lines
  split
  · cases l.stage? n with
    | none => rfl
    | some stage =>
      change (linesAt n a l l' stage).flatMap (Line.framesOn k) = []
      unfold linesAt
      split
      · simp [Line.framesOn, same]
      · split
        · rw [List.flatMap_map]
          exact List.flatMap_eq_nil_iff.2 fun _ _ => rfl
        · rfl
      · rfl
  · rfl

/-- What is written by an action was said by it. -/
theorem Move.sentBy (m : Move a l l') (cu : l.Custody) (k : Nat) :
    l'.sentBy n k = l.sentBy n k ++ (lines n a l l').flatMap (Line.framesOn k) := by
  have still (same : ∀ k, l'.sentBy n k = l.sentBy n k) :
      l'.sentBy n k = l.sentBy n k ++ (lines n a l l').flatMap (Line.framesOn k) := by
    rw [framesOn_lines same, same, List.append_nil]
  cases m with
  | @call _ _ l' i c c' hc m =>
    rcases m.sentBy_cases cu hc with ⟨s, k₀, sending, -, sent⟩ | same
    · by_cases e : i = n
      · subst e
        have said : lines i a l { l' with calls := l.calls.set i c' } =
            [.said k₀ [c.request.frame]] :=
          lines_of_sending hc m.call?_eq sending ((sent i k₀).trans (by rw [if_pos ⟨rfl, rfl⟩]))
        rw [said]
        refine (sent i k).trans ?_
        by_cases e : k = k₀ <;> simp [e, Line.framesOn, eq_comm]
      · exact still fun k => by
          refine (sent n k).trans ?_
          rw [if_neg fun both => e both.2, List.append_nil]
    · exact still (same n)
  | closer h m => exact still m.sentBy
  | arrive => exact still (sentBy_setConnection l _ fun _ => rfl)
  | invoke | close | exit => exact still fun _ => rfl

end Sent

/-- What stands on a connection was said. -/
theorem sentBy_of_run (h : Machine.run step actions (ofSettings settings) = some l) (k : Nat) :
    l.sentBy n k = (talk n actions (ofSettings settings)).flatMap (Line.framesOn k) := by
  induction actions using List.reverseRec generalizing l with
  | nil =>
    obtain rfl := Option.some.inj h
    rfl
  | append_singleton actions a ih =>
    obtain ⟨u, hu, ha⟩ := Machine.run_concat_eq_some_iff.1 h
    rw [talk_concat hu ha, List.flatMap_append, ← ih hu]
    exact (move_of_step ha).sentBy (custody ⟨actions, hu⟩) k

end Link

/-! ### What an attempt says and hears -/

theorem GatewayError.eq_connection_of_isRetryable {e : GatewayError} (h : e.isRetryable = true) :
    ∃ message, e = .connection message := by
  cases e with
  | connection message => exact ⟨message, rfl⟩
  | _ => cases h

/-- What the gateway says is never a failure of the connection. -/
theorem InvokeRequest.verdictOfText_ne_connection {r : InvokeRequest} {frame message : String} :
    r.verdictOfText frame ≠ .error (.connection message) := by
  unfold verdictOfText
  split
  · split <;> nofun
  · nofun
  · nofun

/-- What an attempt at a call has said and heard when it has come to its end. -/
inductive Spoken (request : InvokeRequest) : AttemptEnd → List Line → Prop
  /-- It has failed before it came to write. -/
  | unsaid (e : GatewayError) : Spoken request (.decided (.error e)) []
  /-- It could not write. -/
  | jammed (k : Nat) (message : String) :
      Spoken request (.decided (.error (.connection message))) [.said k []]
  /-- It has written, and what it has read last has decided it. -/
  | told (k : Nat) {controls : List Arrival} {arrival : Arrival} {v : Verdict}
      (hc : ∀ a ∈ controls, a.isControl = true) (hv : request.verdict? arrival = some v) :
      Spoken request (.decided v)
        (.said k [request.frame] :: (controls ++ [arrival]).map (.heard k))
  /-- Nobody waits for it any more, and it has not written. -/
  | left (expired : Option Nat) : Spoken request (.abandoned expired) []
  /-- Nobody waits for it any more, and it has tried to write. -/
  | broken (expired : Option Nat) (k : Nat) {frames : List String} (arrivals : List Arrival)
      (hf : frames = [] ∨ frames = [request.frame]) :
      Spoken request (.abandoned expired) (.said k frames :: arrivals.map (.heard k))

/-- An attempt that is at a stage has come to an end, or has ended. -/
inductive CallStage.EndsWith : CallStage → AttemptEnd → Prop
  | parking (s k : Nat) (r : InvokeResponse) : EndsWith (.parking s k r) (.decided (.ok r))
  | failing (s k : Nat) (e : GatewayError) : EndsWith (.failing s k e) (.decided (.error e))
  | hangingUp (s k : Nat) (e : GatewayError) : EndsWith (.hangingUp s k e) (.decided (.error e))
  | letting (s k : Nat) (ending : AttemptEnd) : EndsWith (.letting s k ending) ending
  | unlocking (s : Nat) (ending : AttemptEnd) : EndsWith (.unlocking s ending) ending
  | returning (ending : AttemptEnd) : EndsWith (.returning ending) ending
  | settled (ending : AttemptEnd) : EndsWith (.settled ending) ending
  | finished {v : Option Verdict} {ending : AttemptEnd} (h : ending.verdict? = v) :
      EndsWith (.finished v) ending

/-- Whether an attempt that is at a stage has not yet tried to write. -/
def CallStage.isSilent : CallStage → Bool
  | .launching | .starting | .entering | .queued | .searching _ | .standing | .leased _
  | .connecting _ | .announcing _ _ | .sending _ _ => true
  | _ => false

/-- What an attempt at a call has said and heard when it is at a stage. -/
inductive Talked (request : InvokeRequest) : CallStage → List Line → Prop
  | silent {stage : CallStage} (h : stage.isSilent = true) : Talked request stage []
  | listening {s k : Nat} {controls : List Arrival} (hc : ∀ a ∈ controls, a.isControl = true) :
      Talked request (.receiving s k) (.said k [request.frame] :: controls.map (.heard k))
  | spoken {stage : CallStage} {ending : AttemptEnd} {lines : List Line}
      (h : stage.EndsWith ending) (sp : Spoken request ending lines) : Talked request stage lines

section Talked

variable {request : InvokeRequest} {stage : CallStage} {ending : AttemptEnd} {lines : List Line}

/-- Nobody waits any more for an attempt that had come to an error. -/
theorem Spoken.abandon {e : GatewayError} (sp : Spoken request (.decided (.error e)) lines)
    (expired : Option Nat) : Spoken request (.abandoned expired) lines := by
  cases sp with
  | unsaid => exact .left expired
  | jammed k => exact .broken expired k [] (.inl rfl)
  | told k hc hv => exact .broken expired k _ (.inr rfl)

theorem Talked.eq_nil (t : Talked request stage lines) (h : stage.isSilent = true) :
    lines = [] := by
  cases t with
  | silent => rfl
  | listening => cases h
  | spoken e => cases e <;> cases h

/-- An attempt that reads has written its request, and heard no more than controls. -/
theorem Talked.listened {s k : Nat} {lines : List Line}
    (t : Talked request (.receiving s k) lines) :
    ∃ controls : List Arrival, (∀ a ∈ controls, a.isControl = true) ∧
      lines = .said k [request.frame] :: controls.map (.heard k) := by
  cases t with
  | silent h => cases h
  | listening hc => exact ⟨_, hc, rfl⟩
  | spoken e => cases e

/-- An attempt that reads has now heard controls and the arrival that it reads. -/
theorem Talked.hears {s k : Nat} {lines : List Line} (t : Talked request (.receiving s k) lines)
    (arrival : Arrival) :
    ∃ controls : List Arrival, (∀ a ∈ controls, a.isControl = true) ∧
      lines ++ [.heard k arrival] =
        .said k [request.frame] :: (controls ++ [arrival]).map (.heard k) := by
  obtain ⟨controls, quiet, rfl⟩ := t.listened
  exact ⟨controls, quiet, by simp⟩

/-- What an attempt has said and heard is the same until the end of the attempt. -/
theorem Talked.ended (t : Talked request stage lines) (h : stage.isSilent = false)
    (deaf : ∀ s k, stage ≠ .receiving s k) :
    ∃ ending, stage.EndsWith ending ∧ Spoken request ending lines := by
  cases t with
  | silent h' => rw [h] at h'; cases h'
  | listening => exact absurd rfl (deaf _ _)
  | spoken e sp => exact ⟨_, e, sp⟩

end Talked

/-- An attempt says nothing, or says something first and then only hears. -/
def IsTalk (request : InvokeRequest) (lines : List Line) : Prop :=
  lines = [] ∨ ∃ (k : Nat) (frames : List String) (arrivals : List Arrival),
    lines = .said k frames :: arrivals.map (.heard k) ∧
      (frames = [] ∨ frames = [request.frame])

section IsTalk

variable {request : InvokeRequest} {lines : List Line}

theorem Spoken.isTalk {ending : AttemptEnd} (sp : Spoken request ending lines) :
    IsTalk request lines := by
  cases sp with
  | unsaid | left => exact .inl rfl
  | jammed k => exact .inr ⟨k, [], [], rfl, .inl rfl⟩
  | told k => exact .inr ⟨k, _, _, rfl, .inr rfl⟩
  | broken _ k arrivals hf => exact .inr ⟨k, _, arrivals, rfl, hf⟩

theorem Talked.isTalk {stage : CallStage} (t : Talked request stage lines) :
    IsTalk request lines := by
  cases t with
  | silent => exact .inl rfl
  | listening => exact .inr ⟨_, _, _, rfl, .inr rfl⟩
  | spoken _ sp => exact sp.isTalk

theorem IsTalk.said_eq (t : IsTalk request lines) :
    lines.filterMap Line.said? = [] ∨ ∃ k, lines.filterMap Line.said? = [k] := by
  rcases t with rfl | ⟨k, frames, arrivals, rfl, -⟩
  · exact .inl rfl
  · refine .inr ⟨k, ?_⟩
    rw [List.filterMap_cons_some (f := Line.said?) rfl, List.filterMap_eq_nil_iff.2]
    intro x hx
    obtain ⟨a, -, rfl⟩ := List.mem_map.1 hx
    rfl

/-- Where an attempt says something, it has said nothing before. -/
theorem IsTalk.eq_nil_of_said (t : IsTalk request lines) {before after : List Line} {k : Nat}
    {frames : List String} (h : lines = before ++ .said k frames :: after) : before = [] := by
  rcases t with rfl | ⟨k', frames', arrivals, rfl, -⟩
  · simp at h
  · cases before with
    | nil => rfl
    | cons x before =>
      have : .said k frames ∈ arrivals.map (Line.heard k') := by
        rw [(List.cons.inj h).2]
        simp
      obtain ⟨_, -, e⟩ := List.mem_map.1 this
      cases e

theorem IsTalk.frames (t : IsTalk request lines) {k : Nat} {frames : List String}
    (h : .said k frames ∈ lines) : frames = [] ∨ frames = [request.frame] := by
  rcases t with rfl | ⟨k', frames', arrivals, rfl, hf⟩
  · cases h
  · rcases List.mem_cons.1 h with e | e
    · obtain ⟨-, rfl⟩ := Line.said.inj e
      exact hf
    · obtain ⟨_, -, e⟩ := List.mem_map.1 e
      cases e

/-- What a call has said and heard that has returned a response. -/
theorem Talked.answered {r : InvokeResponse}
    (t : Talked request (.finished (some (.ok r))) lines) : ∃ k controls frame,
      lines = .said k [request.frame] :: (controls ++ [.text frame]).map (.heard k) ∧
      (∀ a ∈ controls, a.isControl = true) ∧ WireMessage.parse frame = .ok (.result r) ∧
      r.version = protocolVersion ∧ r.callId = request.callId := by
  obtain ⟨ending, ends, sp⟩ := t.ended rfl nofun
  obtain rfl : ending = .decided (.ok r) := by
    cases ends with
    | finished e =>
      cases ending with
      | decided v => exact congrArg _ (Option.some.inj e)
      | abandoned expired => cases expired <;> cases e
  cases sp with
  | @told k controls arrival _ hc hv =>
    cases arrival with
    | text frame =>
      exact ⟨k, controls, frame, rfl, hc, InvokeRequest.verdictOfText_eq_ok (Option.some.inj hv)⟩
    | _ => cases hv

/-- An attempt that has failed with its connection has heard nothing that says something. -/
theorem Spoken.unheard {message : String}
    (sp : Spoken request (.decided (.error (.connection message))) lines) {k : Nat} {a : Arrival}
    (h : .heard k a ∈ lines) : a.isData = false := by
  cases sp with
  | unsaid => cases h
  | jammed => simp at h
  | @told k _ arrival _ hc hv =>
    obtain ⟨b, hb, e⟩ := List.mem_map.1 ((List.mem_cons.1 h).resolve_left nofun)
    obtain rfl := (Line.heard.inj e).2
    rcases List.mem_append.1 hb with control | last
    · have control := hc b control
      cases b <;> first | rfl | cases control
    · obtain rfl := List.mem_singleton.1 last
      cases b with
      | text frame => exact absurd (Option.some.inj hv) InvokeRequest.verdictOfText_ne_connection
      | binary => cases hv
      | _ => rfl

end IsTalk

namespace Link

variable {settings : GatewaySettings} {l l' : Link} {n : Nat} {a : LinkAction}
  {c c' : LinkCall} {now : List Line}

/-- An attempt that has come to its end says nothing more. -/
theorem linesAt_of_endsWith {stage : CallStage} {ending : AttemptEnd} (h : stage.EndsWith ending) :
    linesAt n a l l' stage = [] := by
  cases h <;> rfl

/-- A step of a call goes on with its attempt, or begins the second one after an error of the
connection. -/
theorem CallMove.talked {t : Link} (m : CallMove n l c a c' l') (cu : l.Custody)
    (hc : l.calls[n]? = some c) (sent : ∀ k, t.sentBy n k = l'.sentBy n k)
    (talked : Talked c.request c.stage now) :
    (c'.request = c.request ∧ c'.attempt = c.attempt ∧
      Talked c.request c'.stage (now ++ lines n a l t)) ∨
    ∃ message, c.stage = .settled (.decided (.error (.connection message))) ∧ c.attempt = 1 ∧
      c'.request = c.request ∧ c'.attempt = 2 ∧ c'.stage = .launching ∧ a = .proceed n := by
  have said : lines n a l t = linesAt n a l t c.stage := lines_of_call hc m.call?_eq
  cases m with
  | find h | start h | comeUp h | skip h | enter h | permit h | exhaust h | pass h | take h | dial h
  | connect h | announce h =>
    rw [said, h, talked.eq_nil (by rw [h]; rfl)]
    exact .inl ⟨rfl, rfl, .silent rfl⟩
  | lock h =>
    rcases h with h | ⟨h, -⟩ <;>
    · rw [said, h, talked.eq_nil (by rw [h]; rfl)]
      exact .inl ⟨rfl, rfl, .silent rfl⟩
  | misfire h | refuse h | deny h =>
    rw [said, h, talked.eq_nil (by rw [h]; rfl)]
    exact .inl ⟨rfl, rfl, .spoken (.settled _) (.unsaid _)⟩
  | miss h =>
    rw [said, h, talked.eq_nil (by rw [h]; rfl)]
    exact .inl ⟨rfl, rfl, .spoken (.unlocking _ _) (.unsaid _)⟩
  | quitEarly h =>
    rcases h with h | h <;>
    · rw [said, h, talked.eq_nil (by rw [h]; rfl)]
      exact .inl ⟨rfl, rfl, .spoken (.settled _) (.left _)⟩
  | quitStarting h =>
    rw [said, h, talked.eq_nil (by rw [h]; rfl)]
    exact .inl ⟨rfl, rfl, .spoken (.settled _) (.left _)⟩
  | quitStanding h =>
    rw [said, h, talked.eq_nil (by rw [h]; rfl)]
    exact .inl ⟨rfl, rfl, .spoken (.returning _) (.left _)⟩
  | quitConnecting h =>
    rw [said, h, talked.eq_nil (by rw [h]; rfl)]
    exact .inl ⟨rfl, rfl, .spoken (.unlocking _ _) (.left _)⟩
  | write h =>
    have there := isOpenAt_of_hasAt cu (.inr ⟨.call n, by rw [hold_call hc, LinkCall.hold, h]; rfl⟩)
    rw [lines_of_sending hc rfl h ((sent _).trans (sentBy_written there _)), if_pos ⟨rfl, rfl⟩,
      talked.eq_nil (by rw [h]; rfl)]
    exact .inl ⟨rfl, rfl, .listening (List.forall_mem_nil _)⟩
  | jam h =>
    rw [lines_of_sending hc rfl h ((sent _).trans (List.append_nil _).symm),
      talked.eq_nil (by rw [h]; rfl)]
    exact .inl ⟨rfl, rfl, .spoken (.failing _ _ _) (.jammed _ _)⟩
  | ignore h hi hv =>
    rw [h] at talked
    obtain ⟨controls, quiet, on⟩ := talked.hears _
    rw [said, h, linesAt_read hi, on]
    refine .inl ⟨rfl, rfl, .listening fun a ha => ?_⟩
    rcases List.mem_append.1 ha with old | new
    · exact quiet a old
    · rw [List.mem_singleton.1 new]
      exact InvokeRequest.verdict?_eq_none_iff.1 hv
  | answer h hi hv =>
    rw [h] at talked
    obtain ⟨controls, quiet, on⟩ := talked.hears _
    rw [said, h, linesAt_read hi, on]
    exact .inl ⟨rfl, rfl, .spoken (.parking _ _ _) (.told _ quiet hv)⟩
  | fault h hi hv =>
    rw [h] at talked
    obtain ⟨controls, quiet, on⟩ := talked.hears _
    rw [said, h, linesAt_read hi, on]
    exact .inl ⟨rfl, rfl, .spoken (.failing _ _ _) (.told _ quiet hv)⟩
  | @quitTalking _ _ expired h =>
    refine .inl ⟨rfl, rfl, .spoken (.letting _ _ _) ?_⟩
    rcases h with h | h | ⟨_, h⟩
    · rw [lines_of_sending hc rfl h ((sent _).trans (List.append_nil _).symm),
        talked.eq_nil (by rw [h]; rfl)]
      exact .broken _ _ [] (.inl rfl)
    · have none : linesAt n (.abandon n expired) l t c.stage = [] := by rw [h]; rfl
      rw [said, none, List.append_nil]
      rw [h] at talked
      obtain ⟨controls, -, rfl⟩ := talked.listened
      exact .broken _ _ _ (.inr rfl)
    · obtain ⟨_, ends, sp⟩ := talked.ended (by rw [h]; rfl) (by simp [h])
      rw [said, linesAt_of_endsWith ends, List.append_nil]
      rw [h] at ends
      cases ends
      exact sp.abandon _
  | park h | report h | hangUp h | letGo h | unlock h | giveBack h =>
    obtain ⟨_, ends, sp⟩ := talked.ended (by rw [h]; rfl) (by simp [h])
    rw [said, linesAt_of_endsWith ends, List.append_nil]
    rw [h] at ends
    cases ends
    exact .inl ⟨rfl, rfl, .spoken (by constructor) sp⟩
  | fail h | succeed h | timeOut h | vanish h =>
    obtain ⟨ending, ends, sp⟩ := talked.ended (by rw [h]; rfl) (by simp [h])
    rw [said, linesAt_of_endsWith ends, List.append_nil]
    rw [h] at ends
    cases ends
    refine .inl ⟨rfl, rfl, .spoken ?_ sp⟩
    exact .finished rfl
  | retry h hr first =>
    obtain ⟨message, rfl⟩ := GatewayError.eq_connection_of_isRetryable hr
    exact .inr ⟨message, h, first, rfl, rfl, rfl, rfl⟩

/-! ### Where something was said -/

/-- A connection was opened and given up. -/
def IsShut (l : Link) (k : Nat) : Prop := k < l.connections.length ∧ l.isOpenAt k = false

/-- A connection that was given up stays so. -/
theorem IsShut.move {k : Nat} (h : l.IsShut k) (m : Move a l l') : l'.IsShut k := by
  refine ⟨Nat.lt_of_lt_of_le h.1 m.length_connections, ?_⟩
  obtain ⟨x, held, t, tr, st, -⟩ := m.trade
  rw [st.isOpenAt]
  generalize l.hold x = before at tr
  cases tr with
  | keep | dial | miss => exact h.2
  | lock | unlock => rw [setHolder_eq]; exact h.2
  | take | park => rw [setParked_eq]; exact h.2
  | seize => rw [setHolder_eq, setParked_eq]; exact h.2
  | connect => rw [isOpenAt_opened, if_neg (Nat.ne_of_lt h.1)]; exact h.2
  | letGo =>
    rw [isOpenAt_letGo]
    split
    · rfl
    · exact h.2

/-- A connection is the one that a call holds, or was given up, or the attempt has its answer. -/
def Leads (l : Link) (stage : CallStage) (k : Nat) : Prop :=
  stage.hold.connection? = some k ∨ l.IsShut k ∨ ∃ r, stage.EndsWith (.decided (.ok r))

/-- What a call says and hears, it says and hears on the connection that it holds. -/
theorem connection_of_lines (hc : l.calls[n]? = some c) (ha : a.call? = some n) {x : Line}
    (hx : x ∈ lines n a l l') : c.stage.hold.connection? = some x.connection := by
  rw [lines_of_call hc ha] at hx
  unfold linesAt at hx
  split at hx
  · rename_i e
    rw [e, List.mem_singleton.1 hx]
    rfl
  · rename_i e
    split at hx
    · obtain ⟨arrival, -, rfl⟩ := List.mem_map.1 hx
      rw [e]
      rfl
    · cases hx
  · cases hx

/-- A connection that a call holds is open. -/
theorem isOpen_of_held (cu : l.Custody) (hc : l.calls[n]? = some c) {k : Nat}
    (h : c.stage.hold.connection? = some k) :
    k < l.connections.length ∧ l.isOpenAt k = true := by
  obtain ⟨s, held⟩ : ∃ s, c.stage.hold = .connection s k := by
    cases e : c.stage.hold with
    | connection s k' =>
      rw [e] at h
      obtain rfl := Option.some.inj h
      exact ⟨s, rfl⟩
    | _ => rw [e] at h; cases h
  have isOpen := isOpenAt_of_hasAt cu (.inr ⟨.call n, (hold_call hc).trans held⟩)
  refine ⟨Nat.lt_of_not_le fun le => ?_, isOpen⟩
  rw [isOpenAt, List.getElem?_eq_none le] at isOpen
  cases isOpen

theorem CallMove.endsWith_ok (m : CallMove n l c a c' l') {r : InvokeResponse}
    (h : c.stage.EndsWith (.decided (.ok r))) : c'.stage.EndsWith (.decided (.ok r)) := by
  cases m with
  | park e | letGo e | unlock e | giveBack e =>
    rw [e] at h
    cases h
    constructor
  | succeed e =>
    rw [e] at h
    cases h
    exact .finished rfl
  | ignore => exact h
  | quitEarly e => rcases e with e | e <;> rw [e] at h <;> cases h
  | lock e => rcases e with e | ⟨e, -⟩ <;> rw [e] at h <;> cases h
  | quitTalking e => rcases e with e | e | ⟨_, e⟩ <;> rw [e] at h <;> cases h
  | find e | start e | misfire e | comeUp e | skip e | refuse e | enter e | deny e | permit e
  | exhaust e | pass e | take e | dial e | connect e | miss e | announce e | write e | jam e
  | answer e | fault e | report e | hangUp e | retry e | fail e | timeOut e | vanish e
  | quitStarting e | quitStanding e | quitConnecting e =>
    rw [e] at h
    cases h

/-- A call goes on to hold its connection, or gives it up, or parks it with an answer. -/
theorem CallMove.leads_of_held (m : CallMove n l c a c' l') {k : Nat}
    (h : c.stage.hold.connection? = some k) :
    c'.stage.hold.connection? = some k ∨ l'.isOpenAt k = false ∨
      ∃ r, c'.stage.EndsWith (.decided (.ok r)) := by
  cases m with
  | announce e | write e | jam e | answer e | fault e | report e | hangUp e =>
    rw [e] at h
    exact .inl h
  | ignore => exact .inl h
  | quitTalking e => rcases e with e | e | ⟨_, e⟩ <;> rw [e] at h <;> exact .inl h
  | park => exact .inr (.inr ⟨_, .unlocking _ _⟩)
  | letGo e =>
    rw [e] at h
    obtain rfl := Option.some.inj h
    exact .inr (.inl (by rw [isOpenAt_letGo, if_pos rfl]))
  | quitEarly e => rcases e with e | e <;> rw [e] at h <;> cases h
  | lock e => rcases e with e | ⟨e, -⟩ <;> rw [e] at h <;> cases h
  | find e | start e | misfire e | comeUp e | skip e | refuse e | enter e | deny e | permit e
  | exhaust e | pass e | take e | dial e | connect e | miss e | unlock e | giveBack e | retry e
  | fail e | succeed e | timeOut e | vanish e | quitStarting e | quitStanding e
  | quitConnecting e =>
    rw [e] at h
    cases h

theorem CallMove.leads (m : CallMove n l c a c' l') (cu : l.Custody) (hc : l.calls[n]? = some c)
    {k : Nat} (h : l.Leads c.stage k) :
    ({ l' with calls := l.calls.set n c' } : Link).Leads c'.stage k := by
  rcases h with held | shut | ⟨r, answered⟩
  · have isOpen := isOpen_of_held cu hc held
    rcases m.leads_of_held held with held | gone | answered
    · exact .inl held
    · exact .inr (.inl ⟨Nat.lt_of_lt_of_le isOpen.1 m.length_connections, gone⟩)
    · exact .inr (.inr answered)
  · exact .inr (.inl (shut.move (.call hc m)))
  · exact .inr (.inr ⟨r, m.endsWith_ok answered⟩)

/-! ### Both attempts -/

/-- The first attempt at a call has ended with an error of the connection, after the given lines. -/
def FirstFailed (n : Nat) (actions : List LinkAction) (first : Link) (message : String)
    (lines : List Line) : Prop :=
  ∃ before after s c, actions = before ++ .proceed n :: after ∧
    Machine.run step before first = some s ∧ s.calls[n]? = some c ∧ c.attempt = 1 ∧
    c.stage = .settled (.decided (.error (.connection message))) ∧ talk n before first = lines

theorem FirstFailed.concat {actions : List LinkAction} {first : Link} {message : String}
    {lines : List Line} (h : FirstFailed n actions first message lines) (a : LinkAction) :
    FirstFailed n (actions ++ [a]) first message lines := by
  obtain ⟨before, after, s, c, rfl, rest⟩ := h
  exact ⟨before, after ++ [a], s, c, by rw [List.append_assoc, List.cons_append], rest⟩

/-- What was said and heard before the attempt that a call is in. -/
inductive Earlier (n : Nat) (actions : List LinkAction) (first l : Link) (c : LinkCall)
    (now : List Line) : List Line → Prop
  | none (h : c.attempt = 1) : Earlier n actions first l c now []
  | failed {lines : List Line} (message : String) (h : c.attempt = 2)
      (sp : Spoken c.request (.decided (.error (.connection message))) lines)
      (ended : FirstFailed n actions first message lines)
      (shut : ∀ x ∈ lines, l.IsShut x.connection)
      (apart : ∀ x ∈ lines, ∀ y ∈ now, x.connection ≠ y.connection) :
      Earlier n actions first l c now lines

/-- What a call has said and heard is what it did in an attempt that has failed, if there was one,
and what it has done in the attempt that it is in. -/
def Attempted (n : Nat) (actions : List LinkAction) (first l : Link) : Prop :=
  match l.calls[n]? with
  | none => talk n actions first = []
  | some c =>
    ∃ past now, talk n actions first = past ++ now ∧ Talked c.request c.stage now ∧
      (∀ x ∈ now, l.Leads c.stage x.connection) ∧ Earlier n actions first l c now past

section Attempted

variable {actions : List LinkAction} {first : Link} {past : List Line}

/-- The call goes on with its attempt. -/
theorem Earlier.go_on (e : Earlier n actions first l c now past) (m : Move a l l')
    (attempt : c'.attempt = c.attempt) (request : c'.request = c.request) {more : List Line}
    (new : ∀ y ∈ more, l.isOpenAt y.connection = true) :
    Earlier n (actions ++ [a]) first l' c' (now ++ more) past := by
  cases e with
  | none h => exact .none (attempt.trans h)
  | failed message h sp ended shut apart =>
    refine .failed message (attempt.trans h) (request ▸ sp) (ended.concat a)
      (fun x hx => (shut x hx).move m) fun x hx y hy same => ?_
    rcases List.mem_append.1 hy with old | hy
    · exact apart x hx y old same
    · have isOpen := new y hy
      rw [← same, (shut x hx).2] at isOpen
      cases isOpen

/-- An attempt that has ended with an error has given up the connections on which it talked. -/
theorem isShut_of_leads {e : GatewayError} {k : Nat}
    (h : l.Leads (.settled (.decided (.error e))) k) : l.IsShut k := by
  rcases h with held | shut | ⟨r, answered⟩
  · cases held
  · exact shut
  · cases answered

theorem Attempted.of_call (h : Attempted n actions first l)
    (hr : Machine.run step actions first = some l) (cu : l.Custody) (hc : l.calls[n]? = some c)
    (m : CallMove n l c a c' l')
    (ha : step a l = some { l' with calls := l.calls.set n c' }) :
    Attempted n (actions ++ [a]) first { l' with calls := l.calls.set n c' } := by
  rw [Attempted, hc] at h
  obtain ⟨past, now, said, talked, leads, earlier⟩ := h
  rw [Attempted, List.getElem?_set_self (List.getElem?_eq_some_iff.1 hc).1, talk_concat hr ha, said]
  have held (x : Line) (hx : x ∈ lines n a l { l' with calls := l.calls.set n c' }) :
      c.stage.hold.connection? = some x.connection := connection_of_lines hc m.call?_eq hx
  rcases m.talked cu hc (t := { l' with calls := l.calls.set n c' }) (fun _ => rfl) talked with
    ⟨request, attempt, on⟩ | ⟨message, stage, one, request, two, again, rfl⟩
  · refine ⟨past, _, List.append_assoc .., request ▸ on, fun x hx => ?_,
      earlier.go_on (.call hc m) attempt request fun y hy => (isOpen_of_held cu hc (held y hy)).2⟩
    rcases List.mem_append.1 hx with old | new
    · exact m.leads cu hc (leads x old)
    · exact m.leads cu hc (.inl (held x new))
  · -- What was said up to now was said in the first attempt.
    have silent : lines n (.proceed n) l { l' with calls := l.calls.set n c' } = [] := by
      rw [lines_of_call hc rfl, stage]
      rfl
    rw [stage] at talked leads
    obtain ⟨_, ends, sp⟩ := talked.ended rfl nofun
    cases ends
    cases earlier with
    | failed _ h => omega
    | none =>
      refine ⟨now, [], by rw [silent]; rfl, again ▸ .silent rfl, nofun, ?_⟩
      exact .failed message two (request ▸ sp) ⟨actions, [], l, c, rfl, hr, hc, one, stage, said⟩
        (fun x hx => (isShut_of_leads (leads x hx)).move (.call hc m)) nofun

theorem Attempted.step (h : Attempted n actions first l)
    (hr : Machine.run step actions first = some l) (cu : l.Custody) (ha : Link.step a l = some l') :
    Attempted n (actions ++ [a]) first l' := by
  have m := move_of_step ha
  by_cases own : a.call? = some n
  · cases m with
    | @call _ _ l' _ c c' hc m =>
      obtain rfl := Option.some.inj (m.call?_eq.symm.trans own)
      exact h.of_call hr cu hc m ha
    | invoke | arrive | close | closer | exit => cases own
  · have silent : lines n a l l' = [] := if_neg own
    rw [Attempted, talk_concat hr ha, silent, List.append_nil]
    rcases m.call_of_other own with same | ⟨new, request, begun⟩
    · rw [same]
      cases hc : l.calls[n]? with
      | none => rwa [Attempted, hc] at h
      | some c =>
        rw [Attempted, hc] at h
        obtain ⟨past, now, said, talked, leads, earlier⟩ := h
        refine ⟨past, now, said, talked, fun x hx => ?_, ?_⟩
        · exact (leads x hx).imp_right fun gone => gone.imp_left fun shut => shut.move m
        · have on := earlier.go_on m rfl rfl (List.forall_mem_nil _)
          rwa [List.append_nil] at on
    · rw [Attempted, List.getElem?_eq_none (Nat.le_of_eq new.symm)] at h
      rw [begun]
      exact ⟨[], [], h, .silent rfl, nofun, .none rfl⟩

theorem attempted_of_run (h : Machine.run Link.step actions (ofSettings settings) = some l) :
    Attempted n actions (ofSettings settings) l := by
  induction actions using List.reverseRec generalizing l with
  | nil =>
    obtain rfl := Option.some.inj h
    rfl
  | append_singleton actions a ih =>
    obtain ⟨u, hu, ha⟩ := Machine.run_concat_eq_some_iff.1 h
    exact (ih hu).step hu (custody ⟨actions, hu⟩) ha

end Attempted

/-! ### Saying a request twice -/

/-- The request of a call is the one that it began with. -/
theorem request_of_reaches {request : InvokeRequest} (h : Machine.Reaches step l l')
    (hc : ∃ c, l.calls[n]? = some c ∧ c.request = request) :
    ∃ c, l'.calls[n]? = some c ∧ c.request = request := by
  refine kept_of_reaches (P := fun l => ∃ c, l.calls[n]? = some c ∧ c.request = request)
    (fun a l l' m ⟨c, hc, same⟩ => ?_) h hc
  by_cases own : a.call? = some n
  · cases m with
    | @call _ _ _ _ c₀ c' h₀ m =>
      obtain rfl := Option.some.inj (m.call?_eq.symm.trans own)
      obtain rfl := Option.some.inj (h₀.symm.trans hc)
      refine ⟨c', List.getElem?_set_self (List.getElem?_eq_some_iff.1 h₀).1, ?_⟩
      rw [← same]
      cases m <;> rfl
    | invoke | arrive | close | closer | exit => cases own
  · rcases m.call_of_other own with kept | ⟨new, -⟩
    · exact ⟨c, kept.trans hc, same⟩
    · exact absurd (List.getElem?_eq_some_iff.1 hc).1 (Nat.not_lt_of_le (Nat.le_of_eq new.symm))

/-- What holds of all that a call has said and heard in a run. -/
structure ResendsUnheard (n : Nat) (actions : List LinkAction) (first l : Link)
    (request : InvokeRequest) (lines : List Line) : Prop where
  /-- What stands on the connections is what was said there. -/
  stands : ∀ k, l.sentBy n k = lines.flatMap (Line.framesOn k)
  /-- Something is said twice at most. -/
  twice : (lines.filterMap Line.said?).length ≤ 2
  /-- It is said on different connections. -/
  apart : (lines.filterMap Line.said?).Nodup
  /-- It is the frame of the request, or nothing of it stands on the connection. -/
  frames : ∀ k frames, .said k frames ∈ lines → frames = [] ∨ frames = [request.frame]
  /-- The second time it is said after a first attempt that has ended with an error of the
  connection, and has not heard anything that says something. -/
  again : ∀ past k frames rest, lines = past ++ .said k frames :: rest →
    (∃ x ∈ past, x.said?.isSome = true) →
      (∃ message, FirstFailed n actions first message past) ∧
      ∀ k a, .heard k a ∈ past → a.isData = false
  /-- A response that is returned was heard in the last attempt, as the first thing that is no
  control. -/
  answered : ∀ r, l.verdict? n = some (.ok r) → ∃ past k controls frame,
    lines = past ++ .said k [request.frame] :: (controls ++ [.text frame]).map (.heard k) ∧
    (∀ a ∈ controls, a.isControl = true) ∧ WireMessage.parse frame = .ok (.result r) ∧
    r.version = protocolVersion ∧ r.callId = request.callId ∧
    (past = [] ∨ ∃ message, FirstFailed n actions first message past)

section Resends

variable {actions : List LinkAction} {first : Link} {past : List Line}

theorem Earlier.isTalk (e : Earlier n actions first l c now past) : IsTalk c.request past := by
  cases e with
  | none => exact .inl rfl
  | failed _ _ sp => exact sp.isTalk

theorem Earlier.eq_nil_or_failed (e : Earlier n actions first l c now past) :
    past = [] ∨ ∃ message, FirstFailed n actions first message past := by
  cases e with
  | none => exact .inl rfl
  | failed message _ _ ended => exact .inr ⟨message, ended⟩

/-- A call with a verdict is over. -/
theorem stage_of_verdict? (hc : l.calls[n]? = some c) {v : Verdict} (h : l.verdict? n = some v) :
    c.stage = .finished (some v) := by
  unfold verdict? at h
  rw [hc] at h
  split at h
  · rename_i e
    rw [Option.some.inj e, h]
  · cases h

/-- What is said in both attempts. -/
theorem Earlier.said (e : Earlier n actions first l c now past) (t : IsTalk c.request now) :
    ((past ++ now).filterMap Line.said?).length ≤ 2 ∧
      ((past ++ now).filterMap Line.said?).Nodup := by
  rw [List.filterMap_append]
  cases e with
  | none =>
    rcases t.said_eq with none | ⟨k, one⟩
    · simp [none]
    · simp [one]
  | failed _ _ sp _ _ apart =>
    rcases sp.isTalk.said_eq with none | ⟨k, one⟩ <;> rcases t.said_eq with none' | ⟨k', one'⟩
    · simp [none, none']
    · simp [none, one']
    · simp [one, none']
    · have mem {k : Nat} {lines : List Line} (h : lines.filterMap Line.said? = [k]) :
          ∃ x ∈ lines, x.connection = k := by
        obtain ⟨x, hx, e⟩ := List.mem_filterMap.1 (h ▸ List.mem_singleton_self k)
        refine ⟨x, hx, ?_⟩
        cases x with
        | said => exact Option.some.inj e
        | heard => cases e
      obtain ⟨x, hx, rfl⟩ := mem one
      obtain ⟨y, hy, rfl⟩ := mem one'
      simp [one, one', apart x hx y hy]

/-- Where something is said for the second time, the first attempt has failed. -/
theorem Earlier.again (e : Earlier n actions first l c now past) (t : IsTalk c.request now)
    {before rest : List Line} {k : Nat} {frames : List String}
    (h : past ++ now = before ++ .said k frames :: rest)
    (some : ∃ x ∈ before, x.said?.isSome = true) :
    (∃ message, FirstFailed n actions first message before) ∧
      ∀ k a, .heard k a ∈ before → a.isData = false := by
  obtain ⟨x, hx, said⟩ := some
  have nonempty : before ≠ [] := List.ne_nil_of_mem hx
  -- An attempt says nothing before it says something, so `before` is the first attempt.
  obtain rfl : before = past := by
    rcases List.append_eq_append_iff.1 h with ⟨more, rfl, e'⟩ | ⟨more, rfl, e'⟩
    · rw [t.eq_nil_of_said e', List.append_nil]
    · cases more with
      | nil => rw [List.append_nil]
      | cons y more =>
        obtain ⟨rfl, -⟩ := List.cons.inj e'
        exact absurd (e.isTalk.eq_nil_of_said rfl) nonempty
  cases e with
  | none => exact absurd rfl nonempty
  | failed message _ sp ended => exact ⟨⟨message, ended⟩, fun _ _ => sp.unheard⟩

end Resends

/-- **A request is said again only if nothing was said to it.** Let a call begin in a run of a link.
Whatever the gateway, the network, the process and others do, it says its request twice at most,
whether or not that can be written, and on different connections. It does so for the second time
only after a first attempt that has ended with an error of the connection and has heard nothing but
controls and the end of the connection. If it returns a response, then the last that it has heard is
the text of it, with the version of the protocol and the id of the call, and before that, since it
has written its request on that connection, it has heard nothing but controls. -/
theorem resends_unheard {before after : List LinkAction} {request : InvokeRequest} {s : Link}
    (hs : Machine.run step before (ofSettings settings) = some s)
    (h : Machine.run step (before ++ .invoke request :: after) (ofSettings settings) = some l) :
    ResendsUnheard s.calls.length (before ++ .invoke request :: after) (ofSettings settings) l
      request (talk s.calls.length (before ++ .invoke request :: after) (ofSettings settings)) := by
  have attempted := attempted_of_run (n := s.calls.length) h
  obtain ⟨c, hc, rfl⟩ : ∃ c, l.calls[s.calls.length]? = some c ∧ c.request = request := by
    rw [Machine.run_append, hs, Option.bind_some, Machine.run_cons] at h
    exact request_of_reaches ⟨after, h⟩ ⟨_, List.getElem?_concat_length, rfl⟩
  rw [Attempted, hc] at attempted
  obtain ⟨past, now, said, talked, -, earlier⟩ := attempted
  obtain ⟨twice, apart⟩ := earlier.said talked.isTalk
  rw [said]
  exact {
    stands := fun k => said ▸ sentBy_of_run h k
    twice := twice
    apart := apart
    frames := fun k frames hx => (List.mem_append.1 hx).elim earlier.isTalk.frames
      talked.isTalk.frames
    again := fun _ _ _ _ e => earlier.again talked.isTalk e
    answered := fun r verdict => by
      rw [stage_of_verdict? hc verdict] at talked
      obtain ⟨k, controls, frame, rfl, quiet, parsed, version, callId⟩ := talked.answered
      exact ⟨past, k, controls, frame, rfl, quiet, parsed, version, callId,
        earlier.eq_nil_or_failed⟩ }

/-- The gateway ends while a call waits; the call is tried again, and writes on a new connection. -/
def sampleResent : List LinkAction :=
  List.flatten [
    List.replicate 5 (.proceed 0), [.connect 0 (.ok ()), .proceed 0, .write 0 (.ok ())],
    [.arrive 0 .ping, .arrive 0 .ended, .read 0, .read 0, .proceed 0, .hangUp 0],
    List.replicate 9 (.proceed 0), [.connect 0 (.ok ()), .proceed 0, .write 0 (.ok ())]]

theorem resends_unheard_sample :
    ∃ l message, Machine.run step ([] ++ .invoke sampleRequest :: sampleResent) (ofSettings {}) =
        some l ∧
      talk 0 (.invoke sampleRequest :: sampleResent) (ofSettings {}) =
        [.said 0 [sampleRequest.frame], .heard 0 .ping, .heard 0 .ended,
          .said 1 [sampleRequest.frame]] ∧
      FirstFailed 0 (.invoke sampleRequest :: sampleResent) (ofSettings {}) message
        [.said 0 [sampleRequest.frame], .heard 0 .ping, .heard 0 .ended] ∧
      l.sentBy 0 0 = [sampleRequest.frame] ∧ l.sentBy 0 1 = [sampleRequest.frame] := by
  obtain ⟨l, run⟩ : ∃ l, Machine.run step ([] ++ .invoke sampleRequest :: sampleResent)
      (ofSettings {}) = some l := Option.isSome_iff_exists.1 (by decide +kernel)
  have talks : talk 0 (.invoke sampleRequest :: sampleResent) (ofSettings {}) =
      [.said 0 [sampleRequest.frame], .heard 0 .ping, .heard 0 .ended,
        .said 1 [sampleRequest.frame]] := rfl
  have start : Machine.run step [] (ofSettings {}) = some (ofSettings {}) := rfl
  have resends := resends_unheard start run
  obtain ⟨⟨message, failed⟩, -⟩ := resends.again
    [.said 0 [sampleRequest.frame], .heard 0 .ping, .heard 0 .ended] 1 [sampleRequest.frame]
    [] talks ⟨_, List.mem_cons_self, rfl⟩
  have stands (k : Nat) := (resends.stands k).trans (congrArg (List.flatMap (Line.framesOn k)) talks)
  exact ⟨l, message, run, talks, failed, stands 0, stands 1⟩

end Link

end PanelScript
