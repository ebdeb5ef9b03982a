import PanelScript.Proofs.Json.Records
import PanelScript.Proofs.Wire.RoundTrip

/-!
# Frames that say the same

What is read from a frame does not depend on the order of the members in its objects, nor on members
that nobody asked for, and a member that is left out stands for its default value. A frame is read
as a tree first, so a member that nobody asked for has to be JSON too.

* `WireWidget.ofMembers_eq_ok_iff` and its likes: what each place of a record is read from;
* `WireMessage.parse_eq_ok_iff`: a message is read by its tag, which may stand anywhere, and from
  the other members;
* `WireMessage.SaysTheSame` relates the members of two frames at all levels;
* `WireMessage.parse_of_saysTheSame`: such frames are read alike;
* `WireMessage.parse_unreadable_member`: a member that nobody asked for is not passed over if it
  cannot be read.
-/

namespace PanelScript

open Json

/-! ### Records -/

theorem need_bind_eq_ok_iff {α β : Type} {name : String} {slot : Option α}
    {f : α → Except Failure β} {b : β} :
    (need name slot >>= f) = .ok b ↔ ∃ a, slot = some a ∧ f a = .ok b := by
  cases slot with
  | none => simp [need, mismatch, bind, Except.bind]
  | some a => simp [need, bind, Except.bind]

namespace WireWidget

/-- The places of a widget. -/
def layout : Layout Members where
  places := [
    ⟨"token", Uuid, Uuid.decode, Members.token, fun s x => { s with token := x }⟩,
    ⟨"name", String, asText, Members.name, fun s x => { s with name := x }⟩,
    ⟨"widget_type", String, asText, Members.type, fun s x => { s with type := x }⟩]
  nodup := by decide
  get_set := by simp
  apart := by simp
  ext := by
    rintro ⟨⟩ ⟨⟩ h
    simpa using h

/-- A widget is read from its token, its name and its type. -/
theorem ofMembers_eq_ok_iff {ms : List (String × Json)} {w : WireWidget} :
    ofMembers ms = .ok w ↔
      Reads Uuid.decode none (valuesOf "token" ms) w.token ∧
      Reads asText none (valuesOf "name" ms) w.name ∧
      Reads asText none (valuesOf "widget_type" ms) w.type := by
  have step : Members.step = takeInto layout.places := rfl
  rw [ofMembers, step, bind_eq_ok_iff]
  simp only [need_bind_eq_ok_iff, layout.decodeMembers_eq_ok_iff, Except.ok.injEq]
  simp only [layout, List.forall_mem_cons, List.not_mem_nil, false_imp_iff, implies_true,
    and_true, ← filled_none_some_iff]
  constructor
  · rintro ⟨m, ⟨token, name, type⟩, _, e0, _, e1, _, e2, rfl⟩
    exact ⟨e0 ▸ token, e1 ▸ name, e2 ▸ type⟩
  · rintro ⟨token, name, type⟩
    exact ⟨⟨_, _, _⟩, ⟨token, name, type⟩, _, rfl, _, rfl, _, rfl, rfl⟩

end WireWidget

namespace WireBinding

/-- The places of a binding. -/
def layout : Layout Members where
  places := [
    ⟨"name", String, asText, Members.name, fun s x => { s with name := x }⟩,
    ⟨"pv", String, asText, Members.pv, fun s x => { s with pv := x }⟩,
    ⟨"value", Json, asValue, Members.value, fun s x => { s with value := x }⟩,
    ⟨"timestamp", Timestamp, Timestamp.decode, Members.timestamp,
      fun s x => { s with timestamp := x }⟩,
    ⟨"quality", Quality, Quality.decode, Members.quality, fun s x => { s with quality := x }⟩]
  nodup := by decide
  get_set := by simp
  apart := by simp
  ext := by
    rintro ⟨⟩ ⟨⟩ h
    simpa using h

/-- A binding without a source has the empty name there. -/
theorem ofMembers_eq_ok_iff {ms : List (String × Json)} {b : WireBinding} :
    ofMembers ms = .ok b ↔
      Reads asText none (valuesOf "name" ms) b.name ∧
      Reads asText (some "") (valuesOf "pv" ms) b.pv ∧
      Reads asValue none (valuesOf "value" ms) b.value ∧
      Reads Timestamp.decode none (valuesOf "timestamp" ms) b.timestamp ∧
      Reads Quality.decode none (valuesOf "quality" ms) b.quality := by
  have step : Members.step = takeInto layout.places := rfl
  rw [ofMembers, step, bind_eq_ok_iff]
  simp only [need_bind_eq_ok_iff, layout.decodeMembers_eq_ok_iff, Except.ok.injEq]
  simp only [layout, List.forall_mem_cons, List.not_mem_nil, false_imp_iff, implies_true,
    and_true, ← filled_none_some_iff, ← filled_getD_iff]
  constructor
  · rintro ⟨m, ⟨name, pv, value, timestamp, quality⟩, _, e0, _, e2, _, e3, _, e4, rfl⟩
    exact ⟨e0 ▸ name, ⟨_, pv, rfl⟩, e2 ▸ value, e3 ▸ timestamp, e4 ▸ quality⟩
  · rintro ⟨name, ⟨s1, pv, e1⟩, value, timestamp, quality⟩
    refine ⟨⟨_, s1, _, _, _⟩, ⟨name, pv, value, timestamp, quality⟩, _, rfl, _, rfl, _, rfl, _, rfl,
      ?_⟩
    rw [e1]

end WireBinding

namespace PropertyUpdate

/-- The places of an update. -/
def layout : Layout Members where
  places := [
    ⟨"property", String, asText, Members.property, fun s x => { s with property := x }⟩,
    ⟨"value", Json, asValue, Members.value, fun s x => { s with value := x }⟩]
  nodup := by decide
  get_set := by simp
  apart := by simp
  ext := by
    rintro ⟨⟩ ⟨⟩ h
    simpa using h

/-- An update is read from a property and its value. -/
theorem ofMembers_eq_ok_iff {ms : List (String × Json)} {u : PropertyUpdate} :
    ofMembers ms = .ok u ↔
      Reads asText none (valuesOf "property" ms) u.property ∧
      Reads asValue none (valuesOf "value" ms) u.value := by
  have step : Members.step = takeInto layout.places := rfl
  rw [ofMembers, step, bind_eq_ok_iff]
  simp only [need_bind_eq_ok_iff, layout.decodeMembers_eq_ok_iff, Except.ok.injEq]
  simp only [layout, List.forall_mem_cons, List.not_mem_nil, false_imp_iff, implies_true,
    and_true, ← filled_none_some_iff]
  constructor
  · rintro ⟨m, ⟨property, value⟩, _, e0, _, e1, rfl⟩
    exact ⟨e0 ▸ property, e1 ▸ value⟩
  · rintro ⟨property, value⟩
    exact ⟨⟨_, _⟩, ⟨property, value⟩, _, rfl, _, rfl, rfl⟩

end PropertyUpdate

namespace InvokeRequest

/-- The places of a request. -/
def layout : Layout Members where
  places := [
    ⟨"version", UInt32, asWord32, Members.version, fun s x => { s with version := x }⟩,
    ⟨"call_id", Uuid, Uuid.decode, Members.callId, fun s x => { s with callId := x }⟩,
    ⟨"script_path", String, asText, Members.scriptPath, fun s x => { s with scriptPath := x }⟩,
    ⟨"widget", WireWidget, WireWidget.decode, Members.widget, fun s x => { s with widget := x }⟩,
    ⟨"trigger", Option String, asOption asText, Members.trigger,
      fun s x => { s with trigger := x }⟩,
    ⟨"bindings", List WireBinding, asList WireBinding.decode, Members.bindings,
      fun s x => { s with bindings := x }⟩]
  nodup := by decide
  get_set := by simp
  apart := by simp
  ext := by
    rintro ⟨⟩ ⟨⟩ h
    simpa using h

/-- A request without a trigger has none. -/
theorem ofMembers_eq_ok_iff {ms : List (String × Json)} {r : InvokeRequest} :
    ofMembers ms = .ok r ↔
      Reads asWord32 none (valuesOf "version" ms) r.version ∧
      Reads Uuid.decode none (valuesOf "call_id" ms) r.callId ∧
      Reads asText none (valuesOf "script_path" ms) r.scriptPath ∧
      Reads WireWidget.decode none (valuesOf "widget" ms) r.widget ∧
      Reads (asOption asText) (some none) (valuesOf "trigger" ms) r.trigger ∧
      Reads (asList WireBinding.decode) none (valuesOf "bindings" ms) r.bindings := by
  have step : Members.step = takeInto layout.places := rfl
  rw [ofMembers, step, bind_eq_ok_iff]
  simp only [need_bind_eq_ok_iff, layout.decodeMembers_eq_ok_iff, Except.ok.injEq]
  simp only [layout, List.forall_mem_cons, List.not_mem_nil, false_imp_iff, implies_true,
    and_true, ← filled_none_some_iff, ← filled_getD_iff]
  constructor
  · rintro ⟨m, ⟨version, callId, path, widget, trigger, bindings⟩, _, e0, _, e1, _, e2, _, e3, _,
      e5, rfl⟩
    exact ⟨e0 ▸ version, e1 ▸ callId, e2 ▸ path, e3 ▸ widget, ⟨_, trigger, rfl⟩, e5 ▸ bindings⟩
  · rintro ⟨version, callId, path, widget, ⟨s4, trigger, e4⟩, bindings⟩
    refine ⟨⟨_, _, _, _, s4, _⟩, ⟨version, callId, path, widget, trigger, bindings⟩, _, rfl, _, rfl,
      _, rfl, _, rfl, _, rfl, ?_⟩
    rw [e4]

end InvokeRequest

namespace InvokeResponse

/-- The places of a response. -/
def layout : Layout Members where
  places := [
    ⟨"version", UInt32, asWord32, Members.version, fun s x => { s with version := x }⟩,
    ⟨"call_id", Uuid, Uuid.decode, Members.callId, fun s x => { s with callId := x }⟩,
    ⟨"status", ResponseStatus, ResponseStatus.decode, Members.status,
      fun s x => { s with status := x }⟩,
    ⟨"value", Option Json, asOption asValue, Members.value, fun s x => { s with value := x }⟩,
    ⟨"error", Option String, asOption asText, Members.error, fun s x => { s with error := x }⟩,
    ⟨"updates", List PropertyUpdate, asList PropertyUpdate.decode, Members.updates,
      fun s x => { s with updates := x }⟩]
  nodup := by decide
  get_set := by simp
  apart := by simp
  ext := by
    rintro ⟨⟩ ⟨⟩ h
    simpa using h

/-- A response without a value, an error or updates has none. -/
theorem ofMembers_eq_ok_iff {ms : List (String × Json)} {r : InvokeResponse} :
    ofMembers ms = .ok r ↔
      Reads asWord32 none (valuesOf "version" ms) r.version ∧
      Reads Uuid.decode none (valuesOf "call_id" ms) r.callId ∧
      Reads ResponseStatus.decode none (valuesOf "status" ms) r.status ∧
      Reads (asOption asValue) (some none) (valuesOf "value" ms) r.value ∧
      Reads (asOption asText) (some none) (valuesOf "error" ms) r.error ∧
      Reads (asList PropertyUpdate.decode) (some []) (valuesOf "updates" ms) r.updates := by
  have step : Members.step = takeInto layout.places := rfl
  rw [ofMembers, step, bind_eq_ok_iff]
  simp only [need_bind_eq_ok_iff, layout.decodeMembers_eq_ok_iff, Except.ok.injEq]
  simp only [layout, List.forall_mem_cons, List.not_mem_nil, false_imp_iff, implies_true,
    and_true, ← filled_none_some_iff, ← filled_getD_iff]
  constructor
  · rintro ⟨m, ⟨version, callId, status, value, error, updates⟩, _, e0, _, e1, _, e2, rfl⟩
    exact ⟨e0 ▸ version, e1 ▸ callId, e2 ▸ status, ⟨_, value, rfl⟩, ⟨_, error, rfl⟩,
      ⟨_, updates, rfl⟩⟩
  · rintro ⟨version, callId, status, ⟨s3, value, e3⟩, ⟨s4, error, e4⟩, ⟨s5, updates, e5⟩⟩
    refine ⟨⟨_, _, _, s3, s4, s5⟩, ⟨version, callId, status, value, error, updates⟩, _, rfl, _, rfl,
      _, rfl, ?_⟩
    rw [e3, e4, e5]

end InvokeResponse

namespace WireMessage

/-! ### Tags -/

/-- The tag of a message. -/
def asTag : Decoder String := fun v => do
  let s ← asString "variant identifier" v
  asName tags s

theorem toOption_readStringAs_other {cs cs' : List Char} {c : Char}
    (space : skipSpace cs = c :: cs') (h : c ≠ '"') (expected : String) :
    (readStringAs expected cs).toOption = none := by
  rw [readStringAs, space]
  split
  · contradiction
  · rename_i e
    exact absurd (List.cons.inj e).1 h
  · exact toOption_wrongType expected _

/-- A tag is read from the text as from the tree. -/
theorem toOption_readTag {cs rest : List Char} {d : Nat} {v : Json}
    (h : value d cs = .ok (v, rest)) :
    (readTag cs).toOption = (asTag v).toOption.map (·, rest) := by
  obtain ⟨c, cs', space, stands⟩ := stands_of_value h
  rw [readTag, toOption_bind]
  cases stands with
  | @str _ s _ _ read =>
    rw [readStringAs, space]
    show ((readString cs').toOption.bind fun p => (checkVariant tags p.1 p.2 >>= fun s =>
      .ok (s, p.2) : Except Failure _).toOption) = (asName tags s).toOption.map (·, rest)
    rw [read, toOption_ok, Option.bind_some, checkVariant, asName]
    split_ifs <;> rfl
  | number digit =>
    rw [toOption_readStringAs_other space (ne_of_isDigit digit rfl)]
    rfl
  | null | true | false | negative | arr | obj =>
    rw [toOption_readStringAs_other space (by decide)]
    rfl

/-- What `step` makes of a member. -/
def gather (s : Parts) (p : String × Json) : Option Parts :=
  if p.1 = "type" then ((decodeOnce p.1 s.1 asTag p.2).map (·, s.2)).toOption
  else some (s.1, s.2 ++ [p])

theorem toOption_step (s : Parts) (name : String) (cs cs' : List Char) (v : Json)
    (rest : List Char) (colon : skipSpace cs = ':' :: cs')
    (h : value (maxDepth - 1) cs' = .ok (v, rest)) :
    (step s name cs).toOption = (gather s (name, v)).map (·, rest) := by
  have colon := readColon_eq_ok_iff.2 colon
  rw [step, gather]
  split_ifs with tag
  · show (readOnce name s.1 readTag cs >>= fun p => .ok ((p.1, s.2), p.2) :
      Except Failure _).toOption = _
    rw [readOnce, decodeOnce]
    cases s.1 with
    | some => rfl
    | none =>
      simp only [Option.isSome_none, Bool.false_eq_true, if_false, colon, ok_bind, toOption_bind,
        toOption_map, toOption_readTag h]
      cases (asTag v).toOption <;> rfl
  · rw [colon, ok_bind, h]
    rfl

/-- The tag is the only member with its name, and the others stay in their order. -/
theorem foldlM_gather_eq_some_iff {ms before after : List (String × Json)}
    {tag tag' : Option String} :
    ms.foldlM gather (tag, before) = some (tag', after) ↔
      Filled asTag tag (valuesOf "type" ms) tag' ∧
        after = before ++ ms.filter fun p => p.1 ≠ "type" := by
  induction ms generalizing tag before with
  | nil =>
    simp only [List.foldlM_nil, Option.pure_def, Option.some.injEq, Prod.mk.injEq, valuesOf,
      List.filter_nil, List.map_nil, List.append_nil, filled_nil, eq_comm]
  | cons p ms ih =>
    obtain ⟨name, v⟩ := p
    rw [List.foldlM_cons, gather, Option.bind_eq_bind, Option.bind_eq_some_iff]
    by_cases own : name = "type"
    · subst own
      rw [if_pos rfl, valuesOf_cons_self, filled_cons "type"]
      simp only [toOption_eq_some_iff, map_eq_ok_iff]
      simp [ih, ← and_assoc, exists_and_right]
    · rw [if_neg own, valuesOf_cons_other own]
      simp [ih, own]

/-! ### Frames -/

section Frames

variable {frame : String} {ms : List (String × Json)} {m : WireMessage}

/-- A frame that is an object is read by its tag and its other members. -/
theorem toOption_parse (h : Json.parse frame = .ok (.obj ms)) :
    (parse frame).toOption = (ms.foldlM gather (none, [])).bind fun s =>
      s.1.bind fun tag => (ofTagged tag (.obj s.2)).toOption := by
  obtain ⟨⟨v, rest⟩, read, done⟩ := bind_eq_ok_iff.1 h
  obtain ⟨_, ends, same⟩ := bind_eq_ok_iff.1 done
  cases same
  obtain ⟨c, cs', space, stands⟩ := stands_of_value read
  cases stands with
  | obj object =>
  obtain ⟨le, stand⟩ := membersStand_of_readObject object
  have taken := foldMembers_stand toOption_step stand (Nat.lt_succ_of_le le) (none, [])
  have closes : endObject ('\x7d' :: rest) = .ok rest := rfl
  rw [parse, readAll, readWhole, toOption_bind, WireMessage.read, toOption_bind, readRecord, space]
  show ((readMembers cs' >>= fun p => _).toOption.bind _).bind _ = _
  rw [toOption_bind, readMembers, toOption_bind, taken]
  cases ms.foldlM gather (none, []) with
  | none => rfl
  | some s =>
    obtain ⟨tag, others⟩ := s
    cases tag with
    | none => rfl
    | some tag =>
      simp only [Option.map_some, Option.bind_some, required, closes, toOption_ok, toOption_bind]
      cases (ofTagged tag (.obj others)).toOption <;> simp [ends]

/-- Only two tags are known, and a message has its own. -/
theorem tag_of_ofTagged {tag : String} {content v : Json} (read : asTag v = .ok tag)
    (h : ofTagged tag content = .ok m) : m.tag = tag := by
  obtain ⟨s, -, named⟩ := bind_eq_ok_iff.1 read
  have known : tag = "invoke" ∨ tag = "result" := by
    unfold asName at named
    split_ifs at named with known
    · cases named
      simpa [tags] using known
    · cases named
  obtain rfl | rfl := known
  · obtain ⟨r, -, rfl⟩ := map_eq_ok_iff.1 h
    rfl
  · obtain ⟨r, -, rfl⟩ := map_eq_ok_iff.1 h
    rfl

/-- **A frame is read by its tag**, which may stand anywhere, and its other members. -/
theorem parse_eq_ok_iff (h : Json.parse frame = .ok (.obj ms)) :
    parse frame = .ok m ↔ Reads asTag none (valuesOf "type" ms) m.tag ∧
      ofTagged m.tag (.obj (ms.filter fun p => p.1 ≠ "type")) = .ok m := by
  rw [← toOption_eq_some_iff, toOption_parse h]
  simp only [Option.bind_eq_some_iff, Prod.exists, foldlM_gather_eq_some_iff, toOption_eq_some_iff]
  constructor
  · rintro ⟨_, others, ⟨filled, rfl⟩, tag, rfl, decoded⟩
    have reads := filled_none_some_iff.1 filled
    have own : m.tag = tag := by
      obtain ⟨-, none⟩ | ⟨v, -, read⟩ := reads
      · cases none
      · exact tag_of_ofTagged read decoded
    subst own
    exact ⟨reads, decoded⟩
  · rintro ⟨reads, decoded⟩
    exact ⟨_, _, ⟨filled_none_some_iff.2 reads, rfl⟩, _, rfl, decoded⟩

/-- A request is read from the frame as a whole. -/
theorem parse_eq_invoke_iff (h : Json.parse frame = .ok (.obj ms)) {r : InvokeRequest} :
    parse frame = .ok (.invoke r) ↔
      Reads asTag none (valuesOf "type" ms) "invoke" ∧
      Reads asWord32 none (valuesOf "version" ms) r.version ∧
      Reads Uuid.decode none (valuesOf "call_id" ms) r.callId ∧
      Reads asText none (valuesOf "script_path" ms) r.scriptPath ∧
      Reads WireWidget.decode none (valuesOf "widget" ms) r.widget ∧
      Reads (asOption asText) (some none) (valuesOf "trigger" ms) r.trigger ∧
      Reads (asList WireBinding.decode) none (valuesOf "bindings" ms) r.bindings := by
  rw [parse_eq_ok_iff h, tag, ofTagged, if_pos rfl, map_eq_ok_iff]
  simp only [invoke.injEq, exists_eq_right]
  refine and_congr_right fun _ => InvokeRequest.ofMembers_eq_ok_iff.trans ?_
  simp only [ne_eq, valuesOf_filter_ne, String.reduceEq, not_false_eq_true]

/-- A response is read from the frame as a whole. -/
theorem parse_eq_result_iff (h : Json.parse frame = .ok (.obj ms)) {r : InvokeResponse} :
    parse frame = .ok (.result r) ↔
      Reads asTag none (valuesOf "type" ms) "result" ∧
      Reads asWord32 none (valuesOf "version" ms) r.version ∧
      Reads Uuid.decode none (valuesOf "call_id" ms) r.callId ∧
      Reads ResponseStatus.decode none (valuesOf "status" ms) r.status ∧
      Reads (asOption asValue) (some none) (valuesOf "value" ms) r.value ∧
      Reads (asOption asText) (some none) (valuesOf "error" ms) r.error ∧
      Reads (asList PropertyUpdate.decode) (some []) (valuesOf "updates" ms) r.updates := by
  rw [parse_eq_ok_iff h, tag, ofTagged, if_neg (by decide), map_eq_ok_iff]
  simp only [result.injEq, exists_eq_right]
  refine and_congr_right fun _ => InvokeResponse.ofMembers_eq_ok_iff.trans ?_
  simp only [ne_eq, valuesOf_filter_ne, String.reduceEq, not_false_eq_true]

end Frames

end WireMessage

/-! ### Frames that say the same -/

/-- Objects that differ in order, in unknown members and in default values, or values that are the
same. -/
def Json.SameRecord (names : List String) (defaults : List (String × Json)) (v v' : Json) : Prop :=
  v = v' ∨ ∃ ms ms', v = .obj ms ∧ v' = .obj ms' ∧
    Reshaped names defaults (fun _ _ _ => False) ms ms'

section Alike

variable {ms ms' : List (String × Json)} {v v' : Json}

theorem WireWidget.alike (h : Reshaped layout.known [] (fun _ _ _ => False) ms ms') :
    Alike decode (.obj ms) (.obj ms') := by
  intro w
  show ofMembers ms = .ok w ↔ ofMembers ms' = .ok w
  rw [ofMembers_eq_ok_iff, ofMembers_eq_ok_iff]
  refine and_congr ?_ (and_congr ?_ ?_) <;>
    exact h.reads_iff (by decide) (by simp) (by simp) _

theorem WireBinding.alike (h : SameRecord layout.known [("pv", .str "")] v v') :
    Alike decode v v' := by
  obtain rfl | ⟨ms, ms', rfl, rfl, h⟩ := h
  · exact fun _ => Iff.rfl
  intro b
  show ofMembers ms = .ok b ↔ ofMembers ms' = .ok b
  rw [ofMembers_eq_ok_iff, ofMembers_eq_ok_iff]
  refine and_congr ?_ (and_congr ?_ (and_congr ?_ (and_congr ?_ ?_))) <;>
    exact h.reads_iff (by decide) (by simp [asText, asString]) (by simp) _

theorem PropertyUpdate.alike (h : SameRecord layout.known [] v v') : Alike decode v v' := by
  obtain rfl | ⟨ms, ms', rfl, rfl, h⟩ := h
  · exact fun _ => Iff.rfl
  intro u
  show ofMembers ms = .ok u ↔ ofMembers ms' = .ok u
  rw [ofMembers_eq_ok_iff, ofMembers_eq_ok_iff]
  refine and_congr ?_ ?_ <;> exact h.reads_iff (by decide) (by simp) (by simp) _

end Alike

namespace WireMessage

/-- The tag that stands among the members. -/
def tagOf (ms : List (String × Json)) : String :=
  match valuesOf "type" ms with
  | [.str tag] => tag
  | _ => ""

/-- The names of the members of a message with a tag. -/
def names (tag : String) : List String :=
  "type" :: if tag = "invoke" then InvokeRequest.layout.known
    else if tag = "result" then InvokeResponse.layout.known else []

/-- The members that can be left out. -/
def defaults (tag : String) : List (String × Json) :=
  if tag = "invoke" then [("trigger", .null)]
  else if tag = "result" then [("value", .null), ("error", .null), ("updates", .arr [])] else []

/-- What may differ inside of a member: the object of the widget, or objects in the lists of
bindings and updates. -/
inductive DiffersInside : String → Json → Json → Prop
  | widget {ms ms' : List (String × Json)}
      (h : Reshaped WireWidget.layout.known [] (fun _ _ _ => False) ms ms') :
      DiffersInside "widget" (.obj ms) (.obj ms')
  | bindings {items items' : List Json}
      (h : List.Forall₂ (SameRecord WireBinding.layout.known [("pv", .str "")]) items items') :
      DiffersInside "bindings" (.arr items) (.arr items')
  | updates {items items' : List Json}
      (h : List.Forall₂ (SameRecord PropertyUpdate.layout.known []) items items') :
      DiffersInside "updates" (.arr items) (.arr items')

/-- The members of two frames differ only in what no message depends on. -/
def SaysTheSame (ms ms' : List (String × Json)) : Prop :=
  Reshaped (names (tagOf ms)) (defaults (tagOf ms)) DiffersInside ms ms'

section SaysTheSame

variable {frame frame' name : String} {v v' : Json} {ms ms' : List (String × Json)}

theorem tagOf_eq {tag : String} (h : Reads asTag none (valuesOf "type" ms) tag) :
    tagOf ms = tag := by
  obtain ⟨-, none⟩ | ⟨v, only, read⟩ := h
  · cases none
  · obtain ⟨s, text, named⟩ := bind_eq_ok_iff.1 read
    cases v with
    | str t =>
      cases text
      unfold asName at named
      split_ifs at named with known
      · cases named
        rw [tagOf, only]
      · cases named
    | _ => cases text

theorem not_differsInside (h : name ∉ ["widget", "bindings", "updates"]) :
    ¬ DiffersInside name v v' := by
  rintro ⟨⟩ <;> simp at h

/-- What differs inside of a member makes no difference to its decoder. -/
theorem DiffersInside.alike (h : DiffersInside name v v') :
    (name = "widget" → Alike WireWidget.decode v v') ∧
      (name = "bindings" → Alike (asList WireBinding.decode) v v') ∧
      (name = "updates" → Alike (asList PropertyUpdate.decode) v v') := by
  cases h with
  | widget h => exact ⟨fun _ => WireWidget.alike h, by simp, by simp⟩
  | bindings h => exact ⟨by simp, fun _ => alike_arr (h.imp fun _ _ => WireBinding.alike), by simp⟩
  | updates h =>
    exact ⟨by simp, by simp, fun _ => alike_arr (h.imp fun _ _ => PropertyUpdate.alike)⟩

/-- A place with nothing inside is read alike. -/
theorem reads_plain {tag : String} (same : Reshaped (names tag) (defaults tag) DiffersInside ms ms')
    (known : name ∈ names tag) (plain : name ∉ ["widget", "bindings", "updates"])
    {α : Type} {decode : Decoder α} {default : Option α}
    (left : ∀ v, (name, v) ∈ defaults tag → ∃ a, default = some a ∧ decode v = .ok a) (a : α) :
    Reads decode default (valuesOf name ms) a ↔ Reads decode default (valuesOf name ms') a :=
  same.reads_iff known left (fun _ _ inside => absurd inside (not_differsInside plain)) a

/-- The tag is read alike: it cannot be left out. -/
theorem SaysTheSame.reads_tag_iff (same : SaysTheSame ms ms') (tag : String) :
    Reads asTag none (valuesOf "type" ms) tag ↔ Reads asTag none (valuesOf "type" ms') tag := by
  refine reads_plain same List.mem_cons_self (by decide) (fun v h => ?_) tag
  unfold defaults at h
  split_ifs at h <;> simp at h

/-- **Frames that say the same are read alike.** If two frames are JSON objects, with at most 127
brackets open at once, that differ only in the order of members, in members with unknown names, or
in members that are left out where `null`, an empty list or an empty name would stand, at the top
and in the objects of the widget, the bindings and the updates, then both are refused, or both are
read as the same message. The tag may stand anywhere. -/
theorem parse_of_saysTheSame (h : Json.parse frame = .ok (.obj ms))
    (h' : Json.parse frame' = .ok (.obj ms')) (same : SaysTheSame ms ms') (m : WireMessage) :
    parse frame = .ok m ↔ parse frame' = .ok m := by
  cases m with
  | invoke r =>
    rw [parse_eq_invoke_iff h, parse_eq_invoke_iff h', ← same.reads_tag_iff]
    refine and_congr_right fun tag => ?_
    rw [SaysTheSame, tagOf_eq tag] at same
    refine and_congr ?_ (and_congr ?_ (and_congr ?_ (and_congr ?_ (and_congr ?_ ?_))))
    · exact reads_plain same (by decide) (by decide) (by simp [defaults]) _
    · exact reads_plain same (by decide) (by decide) (by simp [defaults]) _
    · exact reads_plain same (by decide) (by decide) (by simp [defaults]) _
    · exact same.reads_iff (by decide) (by simp [defaults]) (fun _ _ h => h.alike.1 rfl) _
    · exact reads_plain same (by decide) (by decide) (by simp [defaults, asOption]) _
    · exact same.reads_iff (by decide) (by simp [defaults]) (fun _ _ h => h.alike.2.1 rfl) _
  | result r =>
    rw [parse_eq_result_iff h, parse_eq_result_iff h', ← same.reads_tag_iff]
    refine and_congr_right fun tag => ?_
    rw [SaysTheSame, tagOf_eq tag] at same
    refine and_congr ?_ (and_congr ?_ (and_congr ?_ (and_congr ?_ (and_congr ?_ ?_))))
    · exact reads_plain same (by decide) (by decide) (by simp [defaults]) _
    · exact reads_plain same (by decide) (by decide) (by simp [defaults]) _
    · exact reads_plain same (by decide) (by decide) (by simp [defaults]) _
    · exact reads_plain same (by decide) (by decide) (by simp [defaults, asOption]) _
    · exact reads_plain same (by decide) (by decide) (by simp [defaults, asOption]) _
    · refine same.reads_iff (by decide) ?_ (fun _ _ h => h.alike.2.2 rfl) _
      simp [defaults, asList, pure, Except.pure]

end SaysTheSame

end WireMessage

/-- A tree is read back from its text. -/
theorem Json.parse_text_eq_ok {v : Json} (integers : v.HasOnlyIntegers)
    (depth : v.depth ≤ maxDepth) : Json.parse v.text = .ok v := by
  have ends : EndsNumeral [] := trivial
  have read := value_write v integers maxDepth ends
  rw [List.append_nil, if_pos depth, toOption_eq_some_iff] at read
  rw [Json.parse, Json.text, readAll, String.toList_ofList, readWhole, read]
  rfl

namespace WireMessage

/-- A request with one binding, which has no source. -/
def plainRequest : WireMessage := .invoke
  ⟨1, .nth 7, "a.py", ⟨.nth 8, "lamp", "led"⟩, none, [⟨"on", "", .bool true, ⟨0, 0⟩, .good⟩]⟩

/-- The same in another order, with unknown members, without the trigger and the empty name. -/
def reshapedMembers : List (String × Json) :=
  [("extra", .arr []),
    ("widget", .obj [("color", .null), ("widget_type", .str "led"), ("name", .str "lamp"),
      ("token", .str (Uuid.nth 8).text)]),
    ("bindings", .arr [.obj [("quality", .str "good"), ("timestamp", .str (Timestamp.mk 0 0).text),
      ("value", .bool true), ("name", .str "on")]]),
    ("script_path", .str "a.py"), ("call_id", .str (Uuid.nth 7).text), ("version", wordJson 1),
    ("type", .str "invoke")]

/-- The tag stands last, the widget has a color, the trigger and the source are left out. -/
theorem parse_of_saysTheSame_sample :
    Json.parse plainRequest.text = .ok plainRequest.toJson ∧
      Json.parse (Json.obj reshapedMembers).text = .ok (.obj reshapedMembers) ∧
      SaysTheSame (("type", .str "invoke") :: plainRequest.members) reshapedMembers ∧
      parse plainRequest.text = .ok plainRequest ∧
      parse (Json.obj reshapedMembers).text = .ok plainRequest := by
  have widget : Reshaped WireWidget.layout.known [] (fun _ _ _ => False)
      [("token", .str (Uuid.nth 8).text), ("name", .str "lamp"), ("widget_type", .str "led")]
      [("color", .null), ("widget_type", .str "led"), ("name", .str "lamp"),
        ("token", .str (Uuid.nth 8).text)] :=
    .trans (.perm (List.reverse_perm _).symm) (.symm (.unknown (by decide) _ _))
  have binding : Reshaped WireBinding.layout.known [("pv", .str "")] (fun _ _ _ => False)
      [("name", .str "on"), ("pv", .str ""), ("value", .bool true),
        ("timestamp", .str (Timestamp.mk 0 0).text), ("quality", .str "good")]
      [("quality", .str "good"), ("timestamp", .str (Timestamp.mk 0 0).text), ("value", .bool true),
        ("name", .str "on")] :=
    .trans (.perm (.swap _ _ _)) (.trans (.default List.mem_cons_self (by simp))
      (.perm (List.reverse_perm _).symm))
  have same : SaysTheSame (("type", .str "invoke") :: plainRequest.members) reshapedMembers := by
    -- All is turned around; then the bindings, the trigger and the widget come to the front.
    refine .trans (.perm (List.reverse_perm _).symm) ?_
    refine .trans (.inside (.bindings (.cons (.inr ⟨_, _, rfl, rfl, binding⟩) .nil)) _) ?_
    refine .trans (.perm (.swap _ _ _)) (.trans (.default List.mem_cons_self (by simp)) ?_)
    refine .trans (.perm (.swap _ _ _)) ?_
    exact .trans (.inside (.widget widget) _) (.symm (.unknown (by decide) _ _))
  have carried : plainRequest.IsCarried := by
    refine List.forall_mem_singleton.2 ⟨⟨by decide, ?_⟩, by decide⟩
    simp [HasOnlyIntegers]
  have plain : Json.parse plainRequest.text = .ok plainRequest.toJson := by
    refine Json.parse_text_eq_ok ?_ (by decide)
    rw [toJson, HasOnlyIntegers, membersHaveOnlyIntegers_iff]
    exact List.forall_mem_cons.2 ⟨by simp [HasOnlyIntegers], hasOnlyIntegers_members carried⟩
  have reshaped : Json.parse (Json.obj reshapedMembers).text = .ok (.obj reshapedMembers) := by
    refine Json.parse_text_eq_ok ?_ (by decide)
    simp [reshapedMembers, HasOnlyIntegers, MembersHaveOnlyIntegers, ItemsHaveOnlyIntegers,
      hasOnlyIntegers_wordJson]
  have read : parse plainRequest.text = .ok plainRequest := by
    rw [← toOption_eq_some_iff, toOption_parse_text carried, if_pos (by decide)]
    rfl
  exact ⟨plain, reshaped, same, read, (parse_of_saysTheSame plain reshaped same _).1 read⟩

/-- A response up to its last bracket. -/
def openResponse : String :=
  "\x7b\"type\":\"result\",\"version\":1,\"call_id\":\"" ++ (Uuid.nth 7).text ++
    "\",\"status\":\"ok\""

/-- A member that nobody asked for is read with the tree. So a number that is too large refuses a
frame that is JSON and is read without this member. -/
theorem parse_unreadable_member :
    parse (openResponse ++ "\x7d") = .ok (.result (.ofValue (.nth 7) none)) ∧
      skipValue (openResponse ++ ",\"x\":1e999\x7d").toList = .ok [] ∧
      ∀ m, parse (openResponse ++ ",\"x\":1e999\x7d") ≠ .ok m := by
  have read : (parse (openResponse ++ "\x7d")).toOption =
      some (.result (.ofValue (.nth 7) none)) := by decide +kernel
  have passed : (skipValue (openResponse ++ ",\"x\":1e999\x7d").toList).toOption = some [] := by
    decide +kernel
  have refused : (parse (openResponse ++ ",\"x\":1e999\x7d")).toOption = none := by
    decide +kernel
  refine ⟨toOption_eq_some_iff.1 read, toOption_eq_some_iff.1 passed, fun m ok => ?_⟩
  rw [ok] at refused
  cases refused

end WireMessage

end PanelScript
