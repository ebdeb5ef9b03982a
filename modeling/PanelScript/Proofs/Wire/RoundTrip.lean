import PanelScript.Proofs.Json.ReadBack
import PanelScript.Proofs.Time.Timestamp
import PanelScript.Proofs.Uuid
import PanelScript.Wire.Codec

/-!
# Messages read back

A frame is read back as the message that it was written for, exactly if no more brackets are open at
once than may be.

* `WireMessage.IsCarried` says which messages there are: their values are canonical and their
  numbers integers of 64 bits, their timestamps in the years that are kept;
* `WireMessage.settled` is a message as it comes back: a value `null` of a response has become none,
  and a second that was inserted within a minute is the next one;
* `WireMessage.ofTagged_members`: what is decoded from the members of a message;
* `WireMessage.parse_text`: what is read from a frame, and `parse_text_requestAt`: it is not
  always the message.
-/

namespace PanelScript

open Json

/-! ### Leaves -/

theorem asWord32_wordJson (n : UInt32) : asWord32 (wordJson n) = .ok n := by
  have range : (0 : Int) ≤ n.toNat ∧ (n.toNat : Int) < 2 ^ (32 : Nat) := by
    have := n.toNat_lt
    omega
  rw [wordJson, Json.ofNat, Json.ofInt, asWord32, if_pos range, Int.toNat_natCast,
    UInt32.ofNat_toNat]

theorem Uuid.decode_text (u : Uuid) : Uuid.decode (.str u.text) = .ok u := by
  simp only [Uuid.decode, asString, bind, Except.bind, Uuid.parse?_text]

theorem Timestamp.decode_text {t : Timestamp} (h : t.IsValid) :
    Timestamp.decode (.str t.text) = .ok t.settled := by
  simp only [Timestamp.decode, asString, bind, Except.bind, Timestamp.parse?_text h]

theorem Quality.decode_name (q : Quality) : Quality.decode (.str q.name) = .ok q := by
  cases q <;> rfl

theorem ResponseStatus.decode_name (s : ResponseStatus) :
    ResponseStatus.decode (.str s.name) = .ok s := by
  cases s <;> rfl

theorem asText_str (s : String) : asText (.str s) = .ok s := rfl

theorem asOption_ofText? (s : Option String) : asOption asText (.ofText? s) = .ok s := by
  cases s <;> rfl

/-- A list is decoded item by item. -/
theorem asList_map {α : Type} {decode : Decoder α} {toJson : α → Json} {f : α → α} {xs : List α}
    (each : ∀ x ∈ xs, decode (toJson x) = .ok (f x)) :
    asList decode (.arr (xs.map toJson)) = .ok (xs.map f) := by
  show (xs.map toJson).mapM decode = .ok (xs.map f)
  induction xs with
  | nil => rfl
  | cons x xs ih =>
    rw [List.map_cons, List.mapM_cons, each x List.mem_cons_self,
      ih fun y hy => each y (List.mem_cons_of_mem _ hy)]
    rfl

/-! ### What is carried -/

/-- A value that can be carried. -/
def Json.IsCarried (v : Json) : Prop := v.IsCanonical ∧ v.HasOnlyIntegers

theorem Json.IsCarried.asValue {v : Json} (h : v.IsCarried) : asValue v = .ok v :=
  congrArg Except.ok h.1

/-- A binding that can be carried. -/
def WireBinding.IsCarried (b : WireBinding) : Prop := b.value.IsCarried ∧ b.timestamp.IsValid

/-- A message that can be carried. -/
def WireMessage.IsCarried : WireMessage → Prop
  | .invoke r => ∀ b ∈ r.bindings, b.IsCarried
  | .result r => (∀ v ∈ r.value, v.IsCarried) ∧ ∀ u ∈ r.updates, u.value.IsCarried

/-- A value as it comes back: `null` is the same as none. -/
def settledValue : Option Json → Option Json
  | some .null => none
  | v => v

/-- A binding as it comes back. -/
def WireBinding.settled (b : WireBinding) : WireBinding := { b with timestamp := b.timestamp.settled }

/-- A message as it comes back. -/
def WireMessage.settled : WireMessage → WireMessage
  | .invoke r => .invoke { r with bindings := r.bindings.map WireBinding.settled }
  | .result r => .result { r with value := settledValue r.value }

theorem asOption_settledValue {v : Option Json} (h : ∀ w ∈ v, w.IsCarried) :
    asOption asValue (v.getD .null) = .ok (settledValue v) := by
  cases v with
  | none => rfl
  | some w =>
    have carried := (h w rfl).asValue
    cases w with
    | null => rfl
    | bool | num | str | arr | obj => exact congrArg (Except.map some) carried

/-! ### Records -/

theorem WireWidget.decode_toJson (w : WireWidget) : WireWidget.decode w.toJson = .ok w := by
  show WireWidget.ofMembers [("token", .str w.token.text), ("name", .str w.name),
    ("widget_type", .str w.type)] = _
  simp [WireWidget.ofMembers, decodeMembers, WireWidget.Members.step, decodeOnce, need,
    Uuid.decode_text, asText_str, bind, Except.bind, Except.map]

theorem WireBinding.decode_toJson {b : WireBinding} (h : b.IsCarried) :
    WireBinding.decode b.toJson = .ok b.settled := by
  have value := h.1.asValue
  have timestamp := Timestamp.decode_text h.2
  show WireBinding.ofMembers [("name", .str b.name), ("pv", .str b.pv), ("value", b.value),
    ("timestamp", .str b.timestamp.text), ("quality", .str b.quality.name)] = _
  simp [WireBinding.ofMembers, decodeMembers, WireBinding.Members.step, decodeOnce, need,
    asText_str, value, timestamp, Quality.decode_name, bind, Except.bind, Except.map,
    WireBinding.settled]

theorem PropertyUpdate.decode_toJson {u : PropertyUpdate} (h : u.value.IsCarried) :
    PropertyUpdate.decode u.toJson = .ok u := by
  have value := h.asValue
  show PropertyUpdate.ofMembers [("property", .str u.property), ("value", u.value)] = _
  simp [PropertyUpdate.ofMembers, decodeMembers, PropertyUpdate.Members.step, decodeOnce, need,
    asText_str, value, bind, Except.bind, Except.map]

/-- A request from members that its parts are decoded from. -/
theorem InvokeRequest.ofMembers_eq {r : InvokeRequest} {version callId path widget trigger bindings}
    (hversion : asWord32 version = .ok r.version) (hcall : Uuid.decode callId = .ok r.callId)
    (hpath : asText path = .ok r.scriptPath) (hwidget : WireWidget.decode widget = .ok r.widget)
    (htrigger : asOption asText trigger = .ok r.trigger)
    (hbindings : asList WireBinding.decode bindings = .ok r.bindings) :
    InvokeRequest.ofMembers [("version", version), ("call_id", callId), ("script_path", path),
      ("widget", widget), ("trigger", trigger), ("bindings", bindings)] = .ok r := by
  simp [InvokeRequest.ofMembers, decodeMembers, InvokeRequest.Members.step, decodeOnce, need,
    hversion, hcall, hpath, hwidget, htrigger, hbindings, bind, Except.bind, Except.map]

/-- A response from members that its parts are decoded from. -/
theorem InvokeResponse.ofMembers_eq {r : InvokeResponse} {version callId status value error updates}
    (hversion : asWord32 version = .ok r.version) (hcall : Uuid.decode callId = .ok r.callId)
    (hstatus : ResponseStatus.decode status = .ok r.status)
    (hvalue : asOption asValue value = .ok r.value) (herror : asOption asText error = .ok r.error)
    (hupdates : asList PropertyUpdate.decode updates = .ok r.updates) :
    InvokeResponse.ofMembers [("version", version), ("call_id", callId), ("status", status),
      ("value", value), ("error", error), ("updates", updates)] = .ok r := by
  simp [InvokeResponse.ofMembers, decodeMembers, InvokeResponse.Members.step, decodeOnce, need,
    hversion, hcall, hstatus, hvalue, herror, hupdates, bind, Except.bind, Except.map]

namespace WireMessage

/-- A message is decoded from its members. -/
theorem ofTagged_members {m : WireMessage} (h : m.IsCarried) :
    ofTagged m.tag (.obj m.members) = .ok m.settled := by
  cases m with
  | invoke r =>
    have bindings := asList_map fun b hb => WireBinding.decode_toJson (h b hb)
    have decoded : InvokeRequest.decode (.obj r.members) =
        .ok { r with bindings := r.bindings.map WireBinding.settled } :=
      InvokeRequest.ofMembers_eq (asWord32_wordJson _) (Uuid.decode_text _) (asText_str _)
        (WireWidget.decode_toJson _) (asOption_ofText? _) bindings
    rw [tag, members, ofTagged, if_pos rfl, decoded]
    rfl
  | result r =>
    obtain ⟨hv, hu⟩ := h
    have updates : asList PropertyUpdate.decode (.arr (r.updates.map PropertyUpdate.toJson)) =
        .ok r.updates := by
      have same := asList_map (f := id) fun u h => PropertyUpdate.decode_toJson (hu u h)
      rwa [List.map_id] at same
    have decoded : InvokeResponse.decode (.obj r.members) =
        .ok { r with value := settledValue r.value } :=
      InvokeResponse.ofMembers_eq (asWord32_wordJson _) (Uuid.decode_text _)
        (ResponseStatus.decode_name _) (asOption_settledValue hv) (asOption_ofText? _) updates
    rw [tag, members, ofTagged, if_neg (by decide), decoded]
    rfl

/-! ### Frames -/

/-- What was read of a message: its tag, and its other members. -/
abbrev Parts := Option String × List (String × Json)

/-- The tag may stand once. -/
def takeTag (s : Parts) (v : Json) : Option Parts :=
  match s.1, v with
  | none, .str t => if t ∈ tags then some (some t, s.2) else none
  | _, _ => none

/-- What `step` takes from a member: the tag, or a value that is not too deep. -/
def take (s : Parts) (name : String) (v : Json) : Option Parts :=
  if name = "type" then takeTag s v
  else if v.depth ≤ maxDepth - 1 then some (s.1, s.2 ++ [(name, v)]) else none

theorem takesMember_tag {t : String} (h : t ∈ tags) : TakesMember step take ("type", .str t) := by
  intro s rest ends
  obtain ⟨before, members⟩ := s
  rw [write_str_append]
  cases before with
  | some => rfl
  | none =>
    have tag : readTag ('"' :: (t.toList.flatMap escapeChar ++ '"' :: rest)) = .ok (t, rest) := by
      rw [readTag]
      show (readString _ >>= fun p => checkVariant tags p.1 p.2 >>= fun s => _) = _
      rw [readString_escaped]
      show (checkVariant tags t rest >>= fun s => _) = _
      rw [checkVariant, if_pos h]
      rfl
    show ((readTag _ >>= fun p => _) >>= fun p => _ : Except Failure _).toOption = _
    rw [tag]
    simp only [take, takeTag, if_pos h]
    rfl

theorem takesMember_other {p : String × Json} (name : p.1 ≠ "type") (h : p.2.HasOnlyIntegers) :
    TakesMember step take p := by
  intro s rest ends
  have read := value_write p.2 h (maxDepth - 1) ends
  rw [step, if_neg name, take, if_neg name]
  show (value (maxDepth - 1) (p.2.write ++ rest) >>= fun q => _).toOption = _
  rw [toOption_bind, read]
  split <;> rfl

/-- The members behind the tag are all taken, or the first deep one is refused. -/
theorem foldlM_take {members : List (String × Json)} (names : ∀ p ∈ members, p.1 ≠ "type")
    (tag : Option String) (before : List (String × Json)) :
    members.foldlM (fun s p => take s p.1 p.2) (tag, before) =
      if ∀ p ∈ members, p.2.depth ≤ maxDepth - 1 then some (tag, before ++ members) else none :=
  foldlM_gather (fun members => (tag, members))
    (fun p hp _ => by rw [take, if_neg (names p hp)]) before

/-! ### What is written -/

theorem hasOnlyIntegers_wordJson (n : UInt32) : (wordJson n).HasOnlyIntegers := by
  show IsWord n.toNat
  have := n.toNat_lt
  unfold IsWord
  omega

theorem hasOnlyIntegers_ofText? (s : Option String) : (Json.ofText? s).HasOnlyIntegers := by
  cases s <;> simp [Json.ofText?, HasOnlyIntegers]

theorem hasOnlyIntegers_arr_map {α : Type} {toJson : α → Json} {xs : List α}
    (each : ∀ x ∈ xs, (toJson x).HasOnlyIntegers) : (Json.arr (xs.map toJson)).HasOnlyIntegers := by
  rw [HasOnlyIntegers, itemsHaveOnlyIntegers_iff]
  exact List.forall_mem_map.2 each

/-- No member behind the tag has its name. -/
theorem name_ne_type (m : WireMessage) : ∀ p ∈ m.members, p.1 ≠ "type" := by
  cases m <;> simp [members, InvokeRequest.members, InvokeResponse.members]

theorem hasOnlyIntegers_binding {b : WireBinding} (h : b.IsCarried) :
    b.toJson.HasOnlyIntegers := by
  simp [WireBinding.toJson, HasOnlyIntegers, MembersHaveOnlyIntegers, h.1.2]

theorem hasOnlyIntegers_update {u : PropertyUpdate} (h : u.value.IsCarried) :
    u.toJson.HasOnlyIntegers := by
  simp [PropertyUpdate.toJson, HasOnlyIntegers, MembersHaveOnlyIntegers, h.2]

/-- All numbers of a message are integers of 64 bits. -/
theorem hasOnlyIntegers_members {m : WireMessage} (h : m.IsCarried) :
    ∀ p ∈ m.members, p.2.HasOnlyIntegers := by
  cases m with
  | invoke r =>
    have bindings := hasOnlyIntegers_arr_map fun b hb => hasOnlyIntegers_binding (h b hb)
    simpa [members, InvokeRequest.members, hasOnlyIntegers_wordJson, hasOnlyIntegers_ofText?,
      WireWidget.toJson, HasOnlyIntegers, MembersHaveOnlyIntegers] using bindings
  | result r =>
    obtain ⟨hv, hu⟩ := h
    have value : (r.value.getD .null).HasOnlyIntegers := by
      cases e : r.value with
      | none => simp [HasOnlyIntegers]
      | some v => exact (hv v e).2
    have updates := hasOnlyIntegers_arr_map fun u h => hasOnlyIntegers_update (hu u h)
    simpa [members, InvokeResponse.members, hasOnlyIntegers_wordJson, hasOnlyIntegers_ofText?,
      value, HasOnlyIntegers] using updates

theorem depth_toJson_le_iff (m : WireMessage) :
    m.toJson.depth ≤ maxDepth ↔ ∀ p ∈ m.members, p.2.depth ≤ maxDepth - 1 := by
  rw [toJson]
  refine depth_obj_le_iff.trans ?_
  rw [List.forall_mem_cons]
  exact and_iff_right (Nat.zero_le _)

/-- The text of a message, behind its opening bracket. -/
theorem readMembers_written {m : WireMessage} (h : m.IsCarried) (rest : List Char) :
    (readMembers (separated [','] ((("type", .str m.tag) :: m.members).map writeMember) ++
      '\x7d' :: rest)).toOption =
      if m.toJson.depth ≤ maxDepth then some ((m.tag, .obj m.members), '\x7d' :: rest)
      else none := by
  have tag : m.tag ∈ tags := by cases m <;> simp [WireMessage.tag, tags]
  have each : ∀ p ∈ ("type", Json.str m.tag) :: m.members, TakesMember step take p :=
    List.forall_mem_cons.2 ⟨takesMember_tag tag, fun p hp =>
      takesMember_other (m.name_ne_type p hp) (hasOnlyIntegers_members h p hp)⟩
  have taken := foldMembers_written each (none, []) rest rfl
  have first : take (none, []) "type" (.str m.tag) = some (some m.tag, []) := by
    simp [take, takeTag, tag]
  rw [List.foldlM_cons, first] at taken
  simp only [Option.bind_eq_bind, Option.bind_some, foldlM_take m.name_ne_type, List.nil_append,
    ← depth_toJson_le_iff] at taken
  rw [readMembers, toOption_bind, taken]
  split <;> rfl

/-- A frame is read up to its end. -/
theorem read_written {m : WireMessage} (h : m.IsCarried) :
    (read m.toJson.write).toOption =
      if m.toJson.depth ≤ maxDepth then some (m.settled, []) else none := by
  have e : m.toJson.write =
      '\x7b' :: (separated [','] ((("type", .str m.tag) :: m.members).map writeMember) ++
        '\x7d' :: []) := by
    simp [toJson, Json.write, writeMembers_eq_map]
  rw [e]
  show ((readMembers _ >>= fun p => endObject p.2 >>= fun cs => .ok (p.1, cs)) >>= fun p =>
    ofTagged p.1.1 p.1.2 >>= fun m => .ok (m, p.2) : Except Failure _).toOption = _
  rw [toOption_bind, toOption_bind, readMembers_written h]
  split
  · show (ofTagged m.tag (.obj m.members) >>= fun m => .ok (m, []) : Except Failure _).toOption = _
    rw [ofTagged_members h]
    rfl
  · rfl

theorem toOption_parse_text {m : WireMessage} (h : m.IsCarried) :
    (parse m.text).toOption = if m.toJson.depth ≤ maxDepth then some m.settled else none := by
  rw [parse, text, Json.text, readAll, String.toList_ofList, readWhole, toOption_bind,
    read_written h]
  split <;> rfl

end WireMessage

end PanelScript
