import Mathlib
import PanelScript.LiveValue.Reading
import PanelScript.Proofs.Json.ReadBack

/-!
# Labels in two readings

The labels of an enumerated value are read in two ways: one by one, a text as itself and anything
else as it is written, or by the text reading of the whole value, which reads the current label as
a value of its own. The two agree on a label that is a text, and on a label that reads as it is
written; which labels these are can be told from their form.

A value with several elements, or with an index and labels, never reads as it is written, whatever
texts are in it. What tells the two apart are the commas that no blank follows: writing puts some
in between, and reading puts none.

* `bareCommas` counts the commas that no blank follows;
* `Json.bareCommas_reading` and `Json.bareCommas_write_arr` count them in both texts of an array,
  `Json.bareCommas_lt_write_obj` in an object that is written;
* `Json.ReadsAsWritten` says which values read as they are written, by their form, and
  `Json.reading_eq_write_iff` that it is these;
* `LiveValue.current_label`: the current label in both readings.
-/

namespace PanelScript

open Json

/-! ### Commas without a blank -/

/-- The number of commas that no blank follows. -/
def bareCommas : List Char → Nat
  | [] => 0
  | c :: cs => (if c = ',' ∧ cs.head? ≠ some ' ' then 1 else 0) + bareCommas cs

section BareCommas

variable {cs ds : List Char}

theorem bareCommas_append (h : ds.head? ≠ some ' ') :
    bareCommas (cs ++ ds) = bareCommas cs + bareCommas ds := by
  induction cs with
  | nil => simp [bareCommas]
  | cons c cs ih =>
    have same : (cs ++ ds).head? = some ' ' ↔ cs.head? = some ' ' := by
      cases cs with
      | nil => simpa using h
      | cons => rfl
    simp only [List.cons_append, bareCommas, ih, ne_eq, same, Nat.add_assoc]

theorem bareCommas_append_of_not_mem (h : ',' ∉ cs) (ds : List Char) :
    bareCommas (cs ++ ds) = bareCommas ds := by
  induction cs with
  | nil => rfl
  | cons c cs ih =>
    rw [List.mem_cons, not_or] at h
    rw [List.cons_append, bareCommas, ih h.2, if_neg fun both => h.1 both.1.symm, Nat.zero_add]

theorem bareCommas_of_not_mem (h : ',' ∉ cs) : bareCommas cs = 0 := by
  simpa [bareCommas] using bareCommas_append_of_not_mem h []

/-- Texts with commas between them, none of which begins with a blank. -/
theorem bareCommas_separated {ts : List (List Char)} (h : ∀ t ∈ ts, t.head? ≠ some ' ')
    (some : ts ≠ []) :
    bareCommas (separated [','] ts) + 1 = (ts.map bareCommas).sum + ts.length := by
  obtain ⟨t, ts, rfl⟩ := List.exists_cons_of_ne_nil some
  have tail : bareCommas (ts.flatMap ([','] ++ ·)) = (ts.map bareCommas).sum + ts.length ∧
      (ts.flatMap ([','] ++ ·)).head? ≠ Option.some ' ' := by
    rw [List.forall_mem_cons] at h
    induction ts with
    | nil => exact ⟨rfl, by simp⟩
    | cons u ts ih =>
      obtain ⟨count, head⟩ := ih ⟨h.1, fun t ht => h.2 t (List.mem_cons_of_mem _ ht)⟩
        (List.cons_ne_nil t ts)
      have first := h.2 u List.mem_cons_self
      refine ⟨?_, by simp⟩
      rw [List.flatMap_cons, bareCommas_append head, count, List.singleton_append, bareCommas,
        if_pos ⟨rfl, first⟩, List.map_cons, List.sum_cons, List.length_cons]
      omega
  rw [separated_cons, bareCommas_append tail.2, tail.1, List.map_cons, List.sum_cons,
    List.length_cons]
  omega

/-- Texts with commas and blanks between them. -/
theorem bareCommas_separated_blank (ts : List (List Char)) :
    bareCommas (separated ", ".toList ts) = (ts.map bareCommas).sum := by
  cases ts with
  | nil => rfl
  | cons t ts =>
    have tail : bareCommas (ts.flatMap (", ".toList ++ ·)) = (ts.map bareCommas).sum ∧
        (ts.flatMap (", ".toList ++ ·)).head? ≠ some ' ' := by
      induction ts with
      | nil => exact ⟨rfl, by simp⟩
      | cons u ts ih =>
        have first : bareCommas (", ".toList ++ u) = bareCommas u := by simp [bareCommas]
        exact ⟨by rw [List.flatMap_cons, bareCommas_append ih.2, ih.1, first, List.map_cons,
          List.sum_cons], by simp⟩
    rw [separated_cons, bareCommas_append tail.2, tail.1, List.map_cons, List.sum_cons]

end BareCommas

namespace Json

/-! ### Commas in written texts -/

theorem not_mem_escapeChar {c : Char} (h : c ≠ ',') : ',' ∉ escapeChar c := by
  have digit : ∀ n < 16, hexDigit n ≠ ',' := by decide
  unfold escapeChar
  split_ifs with _ _ _ _ _ _ _ control
  iterate 7 decide
  · have high : c.toNat / 16 < 16 := by omega
    have low := Nat.mod_lt c.toNat (show 0 < 16 by decide)
    simp [(digit _ high).symm, (digit _ low).symm]
  · simpa using h.symm

/-- Escapes put no blank behind a comma and take none away. -/
theorem head?_escaped (s rest : List Char) :
    (s.flatMap escapeChar ++ '"' :: rest).head? = some ' ' ↔ s.head? = some ' ' := by
  cases s with
  | nil => simp
  | cons c s =>
    rw [List.flatMap_cons, List.append_assoc]
    rcases escapeChar_cases c with ⟨e, -⟩ | ⟨ds, e, -⟩
    · rw [e, List.singleton_append, List.head?_cons, List.head?_cons]
    · have other : c ≠ ' ' := by
        rintro rfl
        have plain : escapeChar ' ' = [' '] := by decide
        simp [plain] at e
      simpa [e] using other

theorem bareCommas_escaped (s rest : List Char) :
    bareCommas (s.flatMap escapeChar ++ '"' :: rest) = bareCommas s + bareCommas rest := by
  induction s with
  | nil => simp [bareCommas]
  | cons c s ih =>
    rw [List.flatMap_cons, List.append_assoc]
    by_cases comma : c = ','
    · have plain : escapeChar ',' = [','] := by decide
      simp only [comma, plain, List.singleton_append, bareCommas, ih, ne_eq, head?_escaped,
        Nat.add_assoc]
    · rw [bareCommas_append_of_not_mem (not_mem_escapeChar comma), ih, bareCommas,
        if_neg fun both => comma both.1, Nat.zero_add]

theorem bareCommas_writeString (s : String) :
    bareCommas (writeString s) = bareCommas s.toList := by
  rw [writeString, List.cons_append, bareCommas, bareCommas_escaped]
  simp [bareCommas]

theorem not_mem_toDigits {c : Char} (h : c.isDigit = false) (n : Nat) :
    c ∉ Nat.toDigits 10 n := fun hc => by
  rw [Nat.isDigit_of_mem_toDigits (by decide) (by decide) hc] at h
  cases h

theorem not_mem_intText {c : Char} (h : c.isDigit = false) (sign : c ≠ '-') (n : Int) :
    c ∉ intText n := by
  rw [intText, List.mem_append, not_or]
  refine ⟨?_, not_mem_toDigits h _⟩
  split <;> simp [sign]

theorem not_mem_pointed {ds : List Char} (h : ' ' ∉ ds) (whole : Int) : ' ' ∉ pointed ds whole := by
  unfold pointed
  split
  · simp [h]
  · have front := fun n => mt (List.mem_of_mem_take (i := n)) h
    have back := fun n => mt (List.mem_of_mem_drop (i := n)) h
    dsimp only
    split <;> simp [front, back]

theorem not_mem_scientific {ds : List Char} (h : ' ' ∉ ds) (exponent : Int) :
    ' ' ∉ scientific ds exponent := by
  have front := mt (List.mem_of_mem_take (i := 1)) h
  have back := mt List.mem_of_mem_tail h
  have power := not_mem_toDigits (c := ' ') (by decide) exponent.natAbs
  have sign : ' ' ≠ if exponent < 0 then '-' else '+' := by split <;> decide
  unfold scientific
  split <;> simp [front, back, power, sign]

theorem not_mem_realText (x : Binary64) : ' ' ∉ (realText x).toList := by
  have digits (n : Nat) : ' ' ∉ Nat.toDigits 10 n := not_mem_toDigits (by decide) n
  have sign (negative : Bool) : ' ' ∉ if negative then ['-'] else [] := by
    cases negative <;> decide
  unfold realText
  split
  · decide
  · split <;> decide
  · dsimp only
    split
    · rw [String.toList_ofList, List.mem_append, not_or]
      exact ⟨sign _, by decide⟩
    · rw [String.toList_ofList, List.mem_append, not_or]
      refine ⟨sign _, ?_⟩
      split
      · exact not_mem_pointed (digits _) _
      · exact not_mem_scientific (digits _) _

/-- No value is written with a blank in front. -/
theorem head?_write (v : Json) : v.write.head? ≠ some ' ' := by
  cases v with
  | null => decide
  | bool b => cases b <;> decide
  | num n =>
    intro h
    have blank : ' ' ∈ n.text := List.mem_of_head? h
    cases n with
    | int n => exact not_mem_intText (by decide) (by decide) n blank
    | real x => exact not_mem_realText x blank
  | str | arr | obj => simp [write, writeString]

/-- Every element of an array but the first has a comma before it, in writing. -/
theorem bareCommas_write_arr {items : List Json} (some : items ≠ []) :
    bareCommas (write (.arr items)) + 1 =
      (items.map fun v => bareCommas v.write).sum + items.length := by
  have each : ∀ t ∈ items.map write, t.head? ≠ Option.some ' ' := by
    rintro _ ht
    obtain ⟨v, -, rfl⟩ := List.mem_map.1 ht
    exact head?_write v
  have count := bareCommas_separated each (mt List.map_eq_nil_iff.1 some)
  rw [List.map_map, List.length_map] at count
  rw [write, writeItems_eq_map, List.cons_append, bareCommas, bareCommas_append (by decide)]
  simpa [bareCommas, Function.comp_def] using count

theorem bareCommas_writeMember (p : String × Json) :
    bareCommas (writeMember p) = bareCommas p.1.toList + bareCommas p.2.write := by
  rw [writeMember, bareCommas_append (by simp), bareCommas_writeString, bareCommas]
  simp

/-- An object of several members has a comma more, in writing, than any of its values. -/
theorem bareCommas_lt_write_obj {members : List (String × Json)} {p : String × Json}
    (h : p ∈ members) (two : 2 ≤ members.length) :
    bareCommas p.2.write < bareCommas (write (.obj members)) := by
  have each : ∀ t ∈ members.map writeMember, t.head? ≠ some ' ' := by
    rintro _ ht
    obtain ⟨q, -, rfl⟩ := List.mem_map.1 ht
    simp [writeMember, writeString]
  have count := bareCommas_separated each (mt List.map_eq_nil_iff.1 (List.ne_nil_of_mem h))
  rw [List.map_map, List.length_map] at count
  have one : bareCommas p.2.write ≤ (members.map (bareCommas ∘ writeMember)).sum := by
    refine Nat.le_trans ?_ (List.le_sum_of_mem (List.mem_map_of_mem h))
    rw [Function.comp_apply, bareCommas_writeMember]
    omega
  rw [write, writeMembers_eq_map, List.cons_append, bareCommas, bareCommas_append (by decide)]
  have ends : bareCommas ['\x7d'] = 0 := rfl
  omega

/-! ### Texts as they are read -/

theorem readings_eq_map (items : List Json) : readings items = items.map reading := by
  induction items with
  | nil => simp [readings]
  | cons v items ih => rw [readings, ih, List.map_cons]

theorem labelReadings_eq (members : List (String × Json)) :
    labelReadings members = ((members.lookup "labels").map arrayReadings).getD [] := by
  induction members with
  | nil => simp [labelReadings]
  | cons p members ih =>
    obtain ⟨name, v⟩ := p
    rw [labelReadings, ih, List.lookup_cons]
    by_cases same : name = "labels"
    · simp [same]
    · rw [if_neg same, beq_false_of_ne (Ne.symm same)]

theorem mem_of_lookup {name : String} {members : List (String × Json)} {v : Json}
    (h : members.lookup name = some v) : (name, v) ∈ members := by
  obtain ⟨before, after, rfl, -⟩ := List.lookup_eq_some_iff.1 h
  exact List.mem_append_right _ List.mem_cons_self

theorem mem_of_at? {α : Type} {items : List α} {index : Int} {a : α}
    (h : at? items index = some a) : a ∈ items := by
  unfold at? at h
  split at h
  · exact List.mem_of_getElem? h
  · cases h

/-- An enumerated value is an object with an index and labels. -/
theorem members_of_enum? {v : Json} {index : Int} {labels : List Json}
    (h : v.enum? = some (index, labels)) : ∃ members, v = .obj members ∧
      (∃ n, members.lookup "index" = some (.num n)) ∧
      members.lookup "labels" = some (.arr labels) := by
  unfold enum? at h
  split at h
  · rename_i n items first second
    obtain ⟨_, -, e⟩ := Option.map_eq_some_iff.1 h
    cases e
    cases v with
    | obj members => exact ⟨members, rfl, ⟨n, first⟩, second⟩
    | _ => cases first
  · cases h

/-- An enumerated value reads as its current label, or as its index if it has no such label. -/
theorem reading_of_enum? {v : Json} {index : Int} {labels : List Json}
    (h : v.enum? = some (index, labels)) :
    v.reading = ((at? labels index).map reading).getD (intText index) := by
  obtain ⟨members, rfl, -, words⟩ := members_of_enum? h
  rw [reading, h, labelReadings_eq, words]
  simp only [Option.map_some, Option.getD_some, arrayReadings, readings_eq_map, at?]
  split <;> simp

/-- Reading puts no comma without a blank between the elements of an array. -/
theorem bareCommas_reading_arr (items : List Json) :
    bareCommas (reading (.arr items)) = (items.map fun v => bareCommas v.reading).sum := by
  rw [reading, readings_eq_map, List.cons_append, bareCommas, bareCommas_append (by decide),
    bareCommas_separated_blank, List.map_map]
  simp [bareCommas, Function.comp_def]

/-- An enumerated value reads as one of its labels at most, and it is written with its index. -/
theorem bareCommas_reading_lt_of_enum? {v : Json} {index : Int} {labels : List Json}
    (h : v.enum? = some (index, labels))
    (le : bareCommas (reading (.arr labels)) ≤ bareCommas (write (.arr labels))) :
    bareCommas v.reading < bareCommas v.write := by
  rw [reading_of_enum? h]
  obtain ⟨members, rfl, ⟨n, first⟩, second⟩ := members_of_enum? h
  have first := mem_of_lookup first
  have second := mem_of_lookup second
  have two : 2 ≤ members.length := by
    rcases members with _ | ⟨p, _ | ⟨q, rest⟩⟩
    · cases first
    · have same := (List.mem_singleton.1 first).trans (List.mem_singleton.1 second).symm
      simp at same
    · exact Nat.le_add_left 2 rest.length
  have whole : bareCommas (write (.arr labels)) < bareCommas (write (.obj members)) :=
    bareCommas_lt_write_obj second two
  cases e : at? labels index with
  | none =>
    have digits : ',' ∉ intText index := not_mem_intText (by decide) (by decide) index
    rw [Option.map_none, Option.getD_none, bareCommas_of_not_mem digits]
    omega
  | some label =>
    have one : bareCommas label.reading ≤ bareCommas (reading (.arr labels)) := by
      rw [bareCommas_reading_arr]
      exact List.le_sum_of_mem (List.mem_map_of_mem (mem_of_at? e))
    rw [Option.map_some, Option.getD_some]
    omega

/-- Reading never puts more commas without a blank than writing does. -/
theorem bareCommas_reading_le (v : Json) : bareCommas v.reading ≤ bareCommas v.write := by
  induction v with
  | null => decide
  | bool b => rw [reading]
  | num n => rw [reading]
  | str s => rw [reading, write, bareCommas_writeString]
  | arr items ih =>
    cases items with
    | nil => decide
    | cons first rest =>
      have each := List.sum_le_sum ih
      have written := bareCommas_write_arr (List.cons_ne_nil first rest)
      rw [bareCommas_reading_arr]
      rw [List.length_cons] at written
      omega
  | obj members ih =>
    cases e : enum? (.obj members) with
    | none => rw [reading, e]
    | some p =>
      obtain ⟨members', same, -, words⟩ := members_of_enum? e
      cases same
      exact (bareCommas_reading_lt_of_enum? e (ih _ (mem_of_lookup words))).le

/-! ### What reads as it is written -/

/-- The form of the values that read as they are written: truth values and numbers, objects that are
no enumerated values, and arrays of at most one element, which is such a value too. -/
inductive ReadsAsWritten : Json → Prop where
  | bool (b : Bool) : ReadsAsWritten (.bool b)
  | num (n : Number) : ReadsAsWritten (.num n)
  | empty : ReadsAsWritten (.arr [])
  | single {v : Json} (h : ReadsAsWritten v) : ReadsAsWritten (.arr [v])
  | record {members : List (String × Json)} (h : enum? (.obj members) = none) :
    ReadsAsWritten (.obj members)

/-- **What reads as it is written.** Of two elements, or an index and labels, reading leaves out a
comma, or puts a blank behind it. -/
theorem reading_eq_write_iff (v : Json) : v.reading = v.write ↔ v.ReadsAsWritten := by
  induction v with
  | null => exact ⟨fun h => absurd h (by decide), fun h => by cases h⟩
  | bool b => exact ⟨fun _ => .bool b, fun _ => by rw [reading]⟩
  | num n => exact ⟨fun _ => .num n, fun _ => by rw [reading]⟩
  | str s =>
    refine ⟨fun h => ?_, fun h => by cases h⟩
    have quoted := congrArg List.length h
    have longer := length_le_escaped s.toList
    simp only [reading, write, writeString, List.length_append, List.length_cons,
      List.length_nil] at quoted
    omega
  | arr items ih =>
    rcases items with _ | ⟨v, _ | ⟨w, rest⟩⟩
    · exact ⟨fun _ => .empty, fun _ => by decide⟩
    · have same : reading (.arr [v]) = write (.arr [v]) ↔ v.reading = v.write := by
        simp [reading, readings, write, writeItems, separated]
      rw [same, ih v List.mem_cons_self]
      refine ⟨.single, fun h => ?_⟩
      cases h with
      | single h => exact h
    · refine ⟨fun h => ?_, fun h => by cases h⟩
      have each := List.sum_le_sum fun u (_ : u ∈ v :: w :: rest) => bareCommas_reading_le u
      have written := bareCommas_write_arr (List.cons_ne_nil v (w :: rest))
      rw [← h, bareCommas_reading_arr, List.length_cons, List.length_cons] at written
      omega
  | obj members ih =>
    cases e : enum? (.obj members) with
    | none => exact ⟨fun _ => .record e, fun _ => by rw [reading, e]⟩
    | some p =>
      refine ⟨fun h => ?_, fun h => ?_⟩
      · have less := bareCommas_reading_lt_of_enum? e (bareCommas_reading_le _)
        rw [h] at less
        exact absurd less (Nat.lt_irrefl _)
      · cases h with
        | record plain =>
          rw [plain] at e
          cases e

theorem ofList_intText (n : Int) : String.ofList (intText n) = toString n := by
  cases n with
  | ofNat n => rfl
  | negSucc n =>
    rw [intText, if_pos (Int.negSucc_lt_zero n), String.ofList_append]
    rfl

end Json

namespace LiveValue

variable {v : LiveValue} {index : Int} {labels : List Json}

/-- A label in words is the text that it reads as, for a text and for what reads as it is written. -/
theorem labelText_eq_iff (label : Json) :
    label.labelText = String.ofList label.reading ↔
      (∃ s, label = .str s) ∨ label.ReadsAsWritten := by
  by_cases words : ∃ s, label = .str s
  · obtain ⟨s, rfl⟩ := words
    simp [labelText, reading]
  · have written : label.labelText = String.ofList label.write := by
      unfold labelText
      split
      · exact absurd ⟨_, rfl⟩ words
      · rfl
    rw [written, String.ofList_inj, eq_comm, reading_eq_write_iff, or_iff_right words]

/-- **The current label in both readings.** An enumerated value has as many labels in words as it has
labels. With an index among them its text reading is that of the current label; this is the label in
words exactly if it is a text or reads as it is written, not if it is missing, has several elements
or is an enumerated value itself. With any other index the text reading is the index in decimal. -/
theorem current_label (h : v.value.enum? = some (index, labels)) :
    ∃ words, v.labels? = some words ∧ words.length = labels.length ∧
      (∀ (k : Nat) label, labels[k]? = some label → index = k →
        v.string = String.ofList label.reading ∧
          (words[k]? = some v.string ↔ (∃ s, label = .str s) ∨ label.ReadsAsWritten)) ∧
      (¬ (0 ≤ index ∧ index < labels.length) → v.string = toString index) := by
  refine ⟨labels.map labelText, ?_, List.length_map _, fun k label at_k here => ?_, fun out => ?_⟩
  · rw [labels?, h, Option.map_some]
  · have current : at? labels index = some label := by
      rw [at?, here, if_pos (Int.natCast_nonneg k), Int.toNat_natCast, at_k]
    have text : v.string = String.ofList label.reading := by
      rw [string, reading_of_enum? h, current, Option.map_some, Option.getD_some]
    refine ⟨text, ?_⟩
    rw [List.getElem?_map, at_k, Option.map_some, Option.some_inj, text]
    exact labelText_eq_iff label
  · have none : at? labels index = none := by
      unfold at?
      split
      · rw [List.getElem?_eq_none_iff]
        omega
      · rfl
    rw [string, reading_of_enum? h, none, Option.map_none, Option.getD_none, ofList_intText]

/-- A value with a text, an array of one number and an object among its labels. -/
def switch (index : Int) : LiveValue :=
  .ofValue "mode" (.obj [("index", .ofInt index),
    ("labels", .arr [.str "[1, 2]", .arr [.ofInt 3], .obj [("a", .ofInt 4), ("b", .null)]])]) ⟨0, 0⟩

theorem current_label_sample :
    ((switch 1).labels?.bind (·[1]?)) = some (switch 1).string ∧ (switch 3).string = "3" := by
  obtain ⟨words, read, -, inside, -⟩ := current_label (v := switch 1) rfl
  obtain ⟨_, -, -, -, outside⟩ := current_label (v := switch 3) rfl
  refine ⟨?_, outside (by decide)⟩
  rw [read, Option.bind_some]
  exact (inside 1 _ rfl rfl).2.2 (.inr (.single (.num _)))

/-- An enumerated value whose only label is the given one, and the current one. -/
def only (label : Json) : LiveValue :=
  .ofValue "mode" (.obj [("index", .ofInt 0), ("labels", .arr [label])]) ⟨0, 0⟩

/-- A missing label reads as nothing and is written as `null`. An array of two elements reads with a
blank behind the comma and is written without it; an enumerated value reads as its label and is
written in full. -/
theorem labels_differ :
    (only .null).value.enum? = some (0, [.null]) ∧
    ((only .null).string = "" ∧ (only .null).labels? = some ["null"]) ∧
    ((only (.arr [.ofInt 1, .ofInt 2])).string = "[1, 2]" ∧
      (only (.arr [.ofInt 1, .ofInt 2])).labels? = some ["[1,2]"]) ∧
    ((only (only (.str "on")).value).string = "on" ∧
      (only (only (.str "on")).value).labels? =
        some ["\x7b\"index\":0,\"labels\":[\"on\"]\x7d"]) := by
  decide +kernel

end LiveValue

end PanelScript
