import PanelScript.Preferences.Basic
import PanelScript.Proofs.Json.Agreement

/-!
# What preferences a text gives

The preferences in a text are those that its tree denotes. What the tree does not give stands at
its default; if it gives something wrong or twice, there are no preferences at all.

* `Preferences.ofTree?` are the preferences that a tree denotes;
* `agrees_path` and `agrees_time`: the directories and the time;
* `takesMember`: what is taken of a member;
* `Preferences.toOption_parse`: what is read from the octets of a text with a tree.
-/

namespace PanelScript

-- Powers are those of the core library.
attribute [local instance (2000)] instPowNat

open Json

namespace Preferences

/-! ### Trees -/

/-- The directories that a tree denotes: a list of strings. -/
def pathOf? : Json → Option (List String) := listOf? textOf?

/-- The milliseconds that a tree denotes: an integer of 64 bits without a sign. -/
def timeOf? : Json → Option Nat := natOf? (2 ^ (64 : Nat))

/-- Take the next member of an object. Those that have no meaning are ignored, whatever they are. -/
def Members.take (m : Members) (p : String × Json) : Option Members :=
  if p.1 = "python_path" then
    (takeOnce m.pythonPath (pathOf? p.2)).map ({ m with pythonPath := · })
  else if p.1 = "read_timeout_ms" then
    (takeOnce m.readTimeout (timeOf? p.2)).map ({ m with readTimeout := · })
  else some m

/-- The preferences that a tree denotes: an object with members, or a list with the two settings in
order. Each of them may be missing, and then stands at its default. -/
def ofTree? : Json → Option Preferences
  | .obj members => (members.foldlM Members.take ⟨none, none⟩).map Members.complete
  | .arr [] => some default
  | .arr [path] => (pathOf? path).map fun path => Members.complete ⟨some path, none⟩
  | .arr [path, time] => do some (Members.complete ⟨← pathOf? path, ← timeOf? time⟩)
  | _ => none

/-! ### Settings -/

theorem agrees_path : Agrees readPath pathOf? :=
  agrees_list (agrees_text "a string") "a sequence"

theorem agrees_time : Agrees readTime timeOf? := agrees_nat (2 ^ (64 : Nat)) "u64"

/-- What is taken of a member. -/
theorem takesMember : TakesMemberAs Members.step Members.take := by
  intro d m name cs cs' v rest colon member
  unfold Members.step Members.take
  split_ifs
  · exact toOption_readOnce (readColon_inOctets colon) (agrees_path _ _ _ _ member) name
      ({ m with pythonPath := · })
  · exact toOption_readOnce (readColon_inOctets colon) (agrees_time _ _ _ _ member) name
      ({ m with readTimeout := · })
  · rw [skipMember_inOctets colon member]
    rfl

/-! ### Objects and lists -/

section Record

variable {d : Nat} {cs rest : List Char}

/-- The members of an object, up to its closing bracket. -/
theorem readMembers_agrees {members : List (String × Json)}
    (h : readObject (value d) cs = .ok (members, rest)) :
    (readMembers (inOctets cs)).toOption =
      (ofTree? (.obj members)).map (·, '\x7d' :: inOctets rest) := by
  obtain ⟨le, stand⟩ := membersStand_of_readObject h
  have fuel : members.length < (inOctets cs).length + 1 :=
    Nat.lt_succ_of_le (Nat.le_trans le (length_le_inOctets cs))
  rw [readMembers, toOption_bind, foldMembersBy_agrees takesMember stand fuel, ofTree?]
  cases members.foldlM Members.take ⟨none, none⟩ <;> rfl

/-- The first place of a list, if it is the only one. -/
theorem readElements_one {cs₁ cs₂ : List Char} {path : Json} (next : NextItem true cs true cs₁)
    (item : value d cs₁ = .ok (path, cs₂)) (closes : skipSpace cs₂ = ']' :: rest) :
    (readElements (inOctets cs)).toOption = (pathOf? path).map fun path =>
      (Members.complete ⟨some path, none⟩, ']' :: inOctets rest) := by
  have first := readElement?_agrees agrees_path 0 next item
  rw [readElements, toOption_bind, first]
  cases pathOf? path with
  | none => rfl
  | some path =>
    show (readElement? 1 readTime (inOctets cs₂) >>= fun p => _).toOption = _
    rw [readElement?_end (skipSpace_inOctets_cons (by decide) closes)]
    rfl

/-- The first two places of a list. -/
theorem readElements_two {cs₁ cs₂ cs₃ cs₄ : List Char} {path time : Json}
    (next : NextItem true cs true cs₁) (item : value d cs₁ = .ok (path, cs₂))
    (next' : NextItem false cs₂ true cs₃) (item' : value d cs₃ = .ok (time, cs₄)) :
    (readElements (inOctets cs)).toOption = (pathOf? path).bind fun path =>
      (timeOf? time).map fun time =>
        (Members.complete ⟨some path, some time⟩, inOctets cs₄) := by
  have first := readElement?_agrees agrees_path 0 next item
  have second := readElement?_agrees agrees_time 1 next' item'
  rw [readElements, toOption_bind, first]
  cases pathOf? path with
  | none => rfl
  | some path =>
    show (readElement? 1 readTime (inOctets cs₂) >>= fun p => _).toOption = _
    rw [toOption_bind, second]
    cases timeOf? time <;> rfl

/-- The places of a list, and its closing bracket. -/
theorem readElements_agrees {items : List Json} (h : ItemsStand (value d) true cs items rest) :
    (readElements (inOctets cs) >>= fun p => endList p.2 >>= fun cs =>
      (.ok (p.1, cs) : Except Failure _)).toOption =
      (ofTree? (.arr items)).map (·, inOctets rest) := by
  rw [toOption_bind]
  cases h with
  | nil closes =>
    rw [readElements, readElement?_end (skipSpace_inOctets_cons (by decide) closes)]
    rfl
  | @cons _ _ _ _ _ path _ next item others =>
    cases others with
    | nil closes =>
      rw [readElements_one next item closes, ofTree?]
      cases pathOf? path <;> rfl
    | @cons _ _ _ _ _ time _ next' item' others =>
      rw [readElements_two next item next' item']
      cases others with
      | nil closes =>
        have ends := endList_eq_ok_iff.2 (skipSpace_inOctets_cons (by decide) closes)
        rw [ofTree?]
        cases pathOf? path <;> cases timeOf? time <;> simp [ends, ok_bind]
      | cons next _ _ =>
        have refused := toOption_endList_item next.inOctets
        show _ = none
        cases pathOf? path <;> cases timeOf? time <;> simp [toOption_bind, refused]

end Record

/-! ### Texts -/

theorem toOption_read_other {cs cs' : List Char} {c : Char} (space : skipSpace cs = c :: cs')
    (object : c ≠ '\x7b') (list : c ≠ '[') : (read cs).toOption = none := by
  rw [read, readRecord, space]
  split
  · contradiction
  · rename_i e
    exact absurd (List.cons.inj e).1 object
  · rename_i e
    exact absurd (List.cons.inj e).1 list
  · exact toOption_wrongType _ _

theorem agrees_ofTree? : Agrees read ofTree? := by
  intro d cs v rest h
  obtain ⟨c, cs', space, stands⟩ := stands_of_value h
  have space := skipSpace_inOctets_cons stands.ascii space
  cases stands with
  | arr list =>
    rw [read, readRecord, space]
    exact readElements_agrees (itemsStand_of_readList list).2
  | @obj _ members _ _ object =>
    rw [read, readRecord, space]
    show (readMembers _ >>= fun p => endObject p.2 >>= fun cs => _).toOption = _
    rw [toOption_bind, readMembers_agrees object]
    cases ofTree? (.obj members) <;> rfl
  | number digit =>
    exact toOption_read_other space (ne_of_isDigit digit rfl) (ne_of_isDigit digit rfl)
  | null | true | false | negative | str =>
    exact toOption_read_other space (by decide) (by decide)

/-- **What is read from the octets of a text with a tree** are the preferences that the tree
denotes. -/
theorem toOption_parse {d : Nat} {text : String} {j : Json}
    (h : readAll (value d) text = .ok j) : (parse text.toUTF8.toList).toOption = ofTree? j := by
  obtain ⟨⟨v, rest⟩, read, h⟩ := bind_eq_ok_iff.1 h
  obtain ⟨_, ends, h⟩ := bind_eq_ok_iff.1 h
  cases h
  have ends : endOfText (inOctets rest) = .ok () := by
    rw [endOfText_eq_ok_iff, skipSpace_inOctets, endOfText_eq_ok_iff.1 ends]
    rfl
  rw [parse, readOctets, octets_toUTF8, readWhole, toOption_bind, agrees_ofTree? _ _ _ _ read]
  cases ofTree? j with
  | none => rfl
  | some p =>
    show (endOfText (inOctets rest) >>= fun _ => _).toOption = _
    rw [ends]
    rfl

end Preferences

end PanelScript
